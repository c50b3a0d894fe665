import Mathlib.Data.List.Basic
import NativeBridge.Proofs.Source.Flattening

/-!
# Spelling out `Self`

`Tree.replaceSelfAll` leaves no `Self` behind, at any depth, but those that the tokens of the type bring
along (`Tree.mentionsSelfAll_replaceSelfAll`). Token by token, it writes the tokens of the type for each
`Self` and leaves every other token where it is, delimiters among them
(`Tree.flattenAll_replaceSelfAll`). As trees are told by their tokens, this says all about it :
`Tree.replaceSelfAll_laws` has what follows for a type that does not mention `Self` itself.
-/

namespace NativeBridge.Source.Tree

mutual

/-- There is an identifier `Self` in the tree. -/
def mentionsSelf : Tree → Bool
  | ident name => name = "Self"
  | group _ trees => mentionsSelfAll trees
  | _ => false

/-- There is an identifier `Self` in the sequence, at any depth. -/
def mentionsSelfAll : List Tree → Bool
  | [] => false
  | t :: rest => t.mentionsSelf || mentionsSelfAll rest

end

@[simp] theorem mentionsSelfAll_append (ts us : Trees) :
    mentionsSelfAll (ts ++ us) = (mentionsSelfAll ts || mentionsSelfAll us) := by
  induction ts with
  | nil => rfl
  | cons t rest ih => rw [List.cons_append, mentionsSelfAll, mentionsSelfAll, ih, Bool.or_assoc]

mutual

/-- After the substitution there is a `Self` where there was one before, if the type itself has
one. -/
theorem mentionsSelfAll_replaceSelf (type : Trees) : (t : Tree) →
    mentionsSelfAll (t.replaceSelf type) = (t.mentionsSelf && mentionsSelfAll type)
  | ident name => by
    by_cases own : name = "Self"
    · simp [replaceSelf, mentionsSelf, own]
    · simp [replaceSelf, mentionsSelf, mentionsSelfAll, own]
  | group _ trees => by
    have inside := mentionsSelfAll_replaceSelfAll type trees
    simp [replaceSelf, mentionsSelf, mentionsSelfAll, inside]
  | punct _ _ => rfl
  | literal _ => rfl

/-- What is left of `Self` has come with the type. -/
theorem mentionsSelfAll_replaceSelfAll (type : Trees) : (ts : Trees) →
    mentionsSelfAll (replaceSelfAll type ts) = (mentionsSelfAll ts && mentionsSelfAll type)
  | [] => rfl
  | t :: rest => by
    rw [replaceSelfAll, mentionsSelfAll_append, mentionsSelfAll_replaceSelf type t,
      mentionsSelfAll_replaceSelfAll type rest, mentionsSelfAll, Bool.and_or_distrib_right]

end

/-! ## Token by token -/

/-- The tokens with the type for one token. -/
def replaceSelfToken (type : Trees) : Token → List Token
  | .leaf (.ident name) => if name = "Self" then flattenAll type else [.leaf (.ident name)]
  | token => [token]

mutual

/-- On the flat tokens a substitution is one of token by token. By induction on the tree, through
its groups. -/
theorem flattenAll_replaceSelf (type : Trees) : (t : Tree) →
    flattenAll (t.replaceSelf type) = t.flatten.flatMap (replaceSelfToken type)
  | ident name => by
    by_cases own : name = "Self"
    · simp [replaceSelf, replaceSelfToken, flatten, own]
    · simp [replaceSelf, replaceSelfToken, flatten, flattenAll, own]
  | group d trees => by
    have inside := flattenAll_replaceSelfAll type trees
    simp [replaceSelf, replaceSelfToken, flatten, flattenAll, inside]
  | punct _ _ => rfl
  | literal _ => rfl

theorem flattenAll_replaceSelfAll (type : Trees) : (ts : Trees) →
    flattenAll (replaceSelfAll type ts) = (flattenAll ts).flatMap (replaceSelfToken type)
  | [] => rfl
  | t :: rest => by
    rw [replaceSelfAll, flattenAll_append, flattenAll_replaceSelf type t,
      flattenAll_replaceSelfAll type rest, flattenAll, List.flatMap_append]

end

mutual

/-- A tree mentions `Self` if it is among its tokens, in however deep a group. -/
theorem mentionsSelf_iff : (t : Tree) → t.mentionsSelf = true ↔ .leaf (.ident "Self") ∈ t.flatten
  | ident name => by simp [mentionsSelf, flatten, eq_comm]
  | group _ trees => by
    have inside := mentionsSelfAll_iff trees
    simp [mentionsSelf, flatten, inside]
  | punct _ _ => by simp [mentionsSelf, flatten]
  | literal _ => by simp [mentionsSelf, flatten]

theorem mentionsSelfAll_iff : (ts : Trees) →
    mentionsSelfAll ts = true ↔ .leaf (.ident "Self") ∈ flattenAll ts
  | [] => by simp [mentionsSelfAll, flattenAll]
  | t :: rest => by
    rw [mentionsSelfAll, flattenAll, Bool.or_eq_true, List.mem_append, mentionsSelf_iff t,
      mentionsSelfAll_iff rest]

end

/-! ## Laws -/

theorem replaceSelfAll_append (type ts us : Trees) :
    replaceSelfAll type (ts ++ us) = replaceSelfAll type ts ++ replaceSelfAll type us := by
  apply flattenAll_injective
  simp only [flattenAll_replaceSelfAll, flattenAll_append, List.flatMap_append]

/-- Other tokens stay as they are. -/
theorem replaceSelfToken_of_ne {token : Token} (other : token ≠ .leaf (.ident "Self"))
    (type : Trees) : replaceSelfToken type token = [token] := by
  unfold replaceSelfToken
  split
  · rename_i name
    exact if_neg fun own => other (by rw [own])
  · rfl

/-- Where nothing mentions `Self`, nothing changes. -/
theorem replaceSelfAll_of_mentionsSelfAll {ts : Trees} (absent : mentionsSelfAll ts = false)
    (type : Trees) : replaceSelfAll type ts = ts := by
  apply flattenAll_injective
  rw [flattenAll_replaceSelfAll]
  have fixed : ∀ token ∈ flattenAll ts, replaceSelfToken type token = [token] := by
    intro token inside
    refine replaceSelfToken_of_ne (fun own => ?_) type
    rw [(mentionsSelfAll_iff ts).2 (own ▸ inside)] at absent
    cases absent
  rw [List.flatMap_congr fixed, List.flatMap_singleton']

/-- With a type that does not mention `Self`, nothing does afterwards. The result has the same tokens,
with those of the type for each `Self`, and no other sequence has. Parts can be replaced one by one,
what does not mention `Self` is all that stays as it is, and what has been replaced stays so. -/
theorem replaceSelfAll_laws (type : Trees) (foreign : mentionsSelfAll type = false) :
    (∀ ts, mentionsSelfAll (replaceSelfAll type ts) = false) ∧
    (∀ ts us, us = replaceSelfAll type ts ↔
      flattenAll us = (flattenAll ts).flatMap (replaceSelfToken type)) ∧
    (∀ ts us,
      replaceSelfAll type (ts ++ us) = replaceSelfAll type ts ++ replaceSelfAll type us) ∧
    (∀ ts, replaceSelfAll type ts = ts ↔ mentionsSelfAll ts = false) ∧
    ∀ ts, replaceSelfAll type (replaceSelfAll type ts) = replaceSelfAll type ts := by
  have gone : ∀ ts, mentionsSelfAll (replaceSelfAll type ts) = false := fun ts => by
    rw [mentionsSelfAll_replaceSelfAll, foreign, Bool.and_false]
  refine ⟨gone, fun ts us => ?_, replaceSelfAll_append type,
    fun ts => ⟨fun same => ?_, fun absent => ?_⟩,
    fun ts => replaceSelfAll_of_mentionsSelfAll (gone ts) type⟩
  · rw [← flattenAll_replaceSelfAll]
    exact ⟨congrArg flattenAll, flattenAll_injective⟩
  · rw [← same, gone]
  · exact replaceSelfAll_of_mentionsSelfAll absent type

/-- A type of four tokens, for a `Self` in an invisible group within brackets. -/
theorem replaceSelfAll_laws_nested :
    let type : Trees := [.ident "Grid", .punct '<' false, .literal "3", .punct '>' false]
    let ts : Trees := [.ident "Vec", .group .bracket [.group .invisible [.ident "Self"]]]
    mentionsSelfAll type = false ∧ mentionsSelfAll ts = true ∧
      mentionsSelfAll (replaceSelfAll type ts) = false ∧
      replaceSelfAll type (replaceSelfAll type ts) = replaceSelfAll type ts := by
  intro type ts
  have foreign : mentionsSelfAll type = false := by decide
  obtain ⟨gone, -, -, -, again⟩ := replaceSelfAll_laws type foreign
  exact ⟨foreign, by decide, gone ts, again ts⟩

end NativeBridge.Source.Tree
