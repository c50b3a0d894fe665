import Mathlib.Data.List.Induction
import Mathlib.Data.List.Nodup
import NativeBridge.Proofs.Registry.Lookup

/-!
# Registration in passes

A module is registered in passes, each of which goes through a list of declarations and stops at the
first that is refused. `Pass` states what is needed to know how a pass ends : which declarations stand
behind those before them, what has been made of the ones seen so far, and how the step treats the next
one. A pass over declarations that stand succeeds (`Pass.run`), and otherwise the error is the one of
the first declaration that is refused (`Pass.stops`, `Pass.stands_or_refused`).

The fields of a class and the methods of its table are claimed in such passes. The members of a class
stand if their names are `Unrepeated`, and are refused because of the first name that is repeated
(`FirstRepeated`) : `ClassEntry.ofMeta_of_unrepeated`, `ClassEntry.ofMeta_of_repeated`, and likewise
`ClassEntry.attach_of_unrepeated`, `ClassEntry.attach_of_repeated`.
-/

namespace NativeBridge

variable {C : Catalog}

/-! ## Passes -/

/-- A step that goes through declarations, and what is made of them on the way. -/
structure Pass {σ α ε : Type} (step : σ → α → Except ε σ) (start : σ) (Stands : List α → Prop)
    (Made : List α → σ → Prop) (Refused : List α → α → ε → Prop) : Prop where
  nil : Stands []
  start : Made [] start
  stands_of_concat : ∀ {before a}, Stands (before ++ [a]) → Stands before
  accept : ∀ {before a s}, Made before s → Stands (before ++ [a]) →
    ∃ s', step s a = .ok s' ∧ Made (before ++ [a]) s'
  refuse : ∀ {before a s e}, Made before s → Refused before a e → step s a = .error e
  decide : ∀ {before a}, Stands before → Stands (before ++ [a]) ∨ ∃ e, Refused before a e

namespace Pass

variable {σ α ε : Type} {step : σ → α → Except ε σ} {start : σ} {Stands : List α → Prop}
  {Made : List α → σ → Prop} {Refused : List α → α → ε → Prop}

/-- By induction from the end : the last declaration meets what was made of the others. -/
theorem run (pass : Pass step start Stands Made Refused) {as : List α} (stands : Stands as) :
    ∃ s, as.foldlM step start = .ok s ∧ Made as s := by
  induction as using List.reverseRecOn with
  | nil => exact ⟨start, rfl, pass.start⟩
  | append_singleton before a ih =>
    obtain ⟨s, ran, made⟩ := ih (pass.stands_of_concat stands)
    obtain ⟨s', stepped, made'⟩ := pass.accept made stands
    refine ⟨s', ?_, made'⟩
    rw [List.foldlM_append, ran]
    exact (bind_pure _).trans stepped

/-- A pass ends at the first item that is refused, with its error, whatever comes behind it. -/
theorem stops (pass : Pass step start Stands Made Refused) {before after : List α} {a : α} {e : ε}
    (stands : Stands before) (refused : Refused before a e) :
    (before ++ a :: after).foldlM step start = .error e := by
  obtain ⟨s, ran, made⟩ := pass.run stands
  rw [List.foldlM_append, ran]
  change (step s a >>= fun s' => after.foldlM step s') = _
  rw [pass.refuse made refused]
  rfl

/-- A list stands as a whole, or there is a first item that is refused. By induction from the
front. -/
theorem stands_or_refused (pass : Pass step start Stands Made Refused) (as : List α) :
    Stands as ∨ ∃ before a after e, as = before ++ a :: after ∧ Stands before ∧ Refused before a e := by
  induction as using List.reverseRecOn with
  | nil => exact Or.inl pass.nil
  | append_singleton before a ih =>
    rcases ih with stands | ⟨first, b, rest, e, rfl, stands, refused⟩
    · rcases pass.decide (a := a) stands with stands' | ⟨e, refused⟩
      · exact Or.inl stands'
      · exact Or.inr ⟨before, a, [], e, rfl, stands, refused⟩
    · exact Or.inr ⟨first, b, rest ++ [a], e, by simp, stands, refused⟩

end Pass

/-! ## Names -/

/-- The names differ from each other and from those that are taken. -/
def Unrepeated (taken names : List String) : Prop := names.Nodup ∧ ∀ n ∈ names, n ∉ taken

instance (taken names : List String) : Decidable (Unrepeated taken names) :=
  inferInstanceAs (Decidable (_ ∧ _))

/-- The name is the first that is taken or has come before. -/
def FirstRepeated (taken names : List String) (n : String) : Prop :=
  ∃ before after, names = before ++ n :: after ∧ Unrepeated taken before ∧ (n ∈ taken ∨ n ∈ before)

theorem nodup_map_concat {α β : Type} {key : α → β} {as : List α} {a : α} :
    ((as ++ [a]).map key).Nodup ↔ (as.map key).Nodup ∧ key a ∉ as.map key := by
  rw [List.map_append, List.map_singleton, ← List.concat_eq_append, List.nodup_concat]
  exact and_comm

theorem unrepeated_concat {α : Type} {taken : List String} {name : α → String} {as : List α}
    {a : α} :
    Unrepeated taken ((as ++ [a]).map name) ↔
      Unrepeated taken (as.map name) ∧ name a ∉ taken ∧ name a ∉ as.map name := by
  unfold Unrepeated
  rw [nodup_map_concat]
  simp only [List.map_append, List.map_singleton, List.mem_append, List.mem_singleton, or_imp,
    forall_and, forall_eq]
  tauto

/-- A name comes back, or none does. -/
theorem unrepeated_or_firstRepeated (taken names : List String) :
    Unrepeated taken names ∨ ∃ n, FirstRepeated taken names n := by
  induction names using List.reverseRecOn with
  | nil => exact Or.inl ⟨List.nodup_nil, nofun⟩
  | append_singleton names n ih =>
    rcases ih with stands | ⟨first, before, after, rfl, stands, known⟩
    · by_cases known : n ∈ taken ∨ n ∈ names
      · exact Or.inr ⟨n, names, [], rfl, stands, known⟩
      · have stands' := unrepeated_concat.2 ⟨by rwa [List.map_id], by simpa using not_or.1 known⟩
        exact Or.inl (by simpa using stands')
    · exact Or.inr ⟨first, before, after ++ [n], by simp, stands, known⟩

/-! ## Claiming members -/

namespace Members

variable {owner : String} {ms : Members C}

/-- The names that are claimed. -/
def names (ms : Members C) : List String :=
  ms.fields.map FieldMeta.name ++ ms.methods.map MethodMeta.name

theorem mem_names {n : String} : n ∈ ms.names ↔ ms.index.find? n ≠ none := by
  rw [names, List.mem_append, Ne, free_iff]
  tauto

@[simp] theorem pushField_fields (f : FieldMeta C) (free : ms.index.find? f.name = none) :
    (ms.pushField f free).fields = ms.fields ++ [f] := rfl

@[simp] theorem pushMethod_methods (m : MethodMeta C) (free : ms.index.find? m.name = none) :
    (ms.pushMethod m free).methods = ms.methods ++ [m] := rfl

/-- The member is refused because its name is claimed. -/
def Claimed {α : Type} (owner : String) (taken : List String) (name : α → String)
    (before : List α) (a : α) (e : RegistrationError) : Prop :=
  e = .duplicateMember owner (name a) ∧ (name a ∈ taken ∨ name a ∈ before.map name)

theorem claim_of_free (owner : String) {name : String} (free : name ∉ ms.names) :
    ∃ proof, ms.claim owner name = .ok proof :=
  ⟨_, dif_pos (not_not.1 (mt mem_names.2 free))⟩

theorem claim_of_claimed {name : String} (claimed : name ∈ ms.names) :
    ms.claim owner name = .error (.duplicateMember owner name) :=
  dif_neg (mem_names.1 claimed)

/-- Claiming the names of members, of whichever sort, is a pass. -/
theorem claims {α : Type} {name : α → String} {Made : List α → Members C → Prop}
    {claim : Members C → α → Except RegistrationError (Members C)} (start : Made [] ms)
    (names : ∀ {as ms' n}, Made as ms' → (n ∈ ms'.names ↔ n ∈ ms.names ∨ n ∈ as.map name))
    (free : ∀ {as ms' a}, Made as ms' → name a ∉ ms'.names →
      ∃ ms'', claim ms' a = .ok ms'' ∧ Made (as ++ [a]) ms'')
    (claimed : ∀ {ms' a}, name a ∈ ms'.names →
      claim ms' a = .error (.duplicateMember owner (name a))) :
    Pass claim ms (fun as => Unrepeated ms.names (as.map name)) Made
      (Claimed owner ms.names name) where
  nil := ⟨List.nodup_nil, nofun⟩
  start := start
  stands_of_concat stands := (unrepeated_concat.1 stands).1
  accept made stands := by
    obtain ⟨-, untaken, new⟩ := unrepeated_concat.1 stands
    exact free made (mt (names made).1 (not_or.2 ⟨untaken, new⟩))
  refuse := by
    rintro before a s e made ⟨rfl, known⟩
    exact claimed ((names made).2 known)
  decide := by
    intro before a stands
    by_cases known : name a ∈ ms.names ∨ name a ∈ before.map name
    · exact Or.inr ⟨_, rfl, known⟩
    · exact Or.inl (unrepeated_concat.2 ⟨stands, not_or.1 known⟩)

/-- The first name that comes back ends the pass with its error. -/
theorem claims_stop {α : Type} {name : α → String} {Made : List α → Members C → Prop}
    {claim : Members C → α → Except RegistrationError (Members C)}
    (pass : Pass claim ms (fun as => Unrepeated ms.names (as.map name)) Made
      (Claimed owner ms.names name))
    {as : List α} {n : String} (repeated : FirstRepeated ms.names (as.map name) n) :
    as.foldlM claim ms = .error (.duplicateMember owner n) := by
  obtain ⟨before, after, split, stands, known⟩ := repeated
  obtain ⟨first, rest, rfl, rfl, tail⟩ := List.map_eq_append_iff.1 split
  obtain ⟨a, rest, rfl, rfl, -⟩ := List.map_eq_cons_iff.1 tail
  exact pass.stops stands ⟨rfl, known⟩

/-- Fields are taken in as long as their names are new. -/
theorem fields_pass (owner : String) (ms : Members C) :
    Pass (addField owner) ms (fun fs => Unrepeated ms.names (fs.map FieldMeta.name))
      (fun fs ms' => ms'.fields = ms.fields ++ fs ∧ ms'.methods = ms.methods)
      (Claimed owner ms.names FieldMeta.name) := by
  refine claims ⟨(List.append_nil _).symm, rfl⟩ ?_ ?_ ?_
  · rintro fs ms' n ⟨fields, methods⟩
    simp only [names, fields, methods, List.map_append, List.mem_append]
    tauto
  · rintro fs ms' f ⟨fields, methods⟩ free
    obtain ⟨proof, claimed⟩ := claim_of_free owner free
    refine ⟨_, bind_eq_ok_iff.2 ⟨proof, claimed, rfl⟩, ?_, methods⟩
    rw [pushField_fields, fields, List.append_assoc]
  · intro ms' f claimed
    rw [addField, claim_of_claimed claimed]
    rfl

theorem methods_pass (owner : String) (ms : Members C) :
    Pass (addMethod owner) ms (fun fs => Unrepeated ms.names (fs.map MethodMeta.name))
      (fun fs ms' => ms'.fields = ms.fields ∧ ms'.methods = ms.methods ++ fs)
      (Claimed owner ms.names MethodMeta.name) := by
  refine claims ⟨rfl, (List.append_nil _).symm⟩ ?_ ?_ ?_
  · rintro fs ms' n ⟨fields, methods⟩
    simp only [names, fields, methods, List.map_append, List.mem_append]
    tauto
  · rintro fs ms' m ⟨fields, methods⟩ free
    obtain ⟨proof, claimed⟩ := claim_of_free owner free
    refine ⟨_, bind_eq_ok_iff.2 ⟨proof, claimed, rfl⟩, fields, ?_⟩
    rw [pushMethod_methods, methods, List.append_assoc]
  · intro ms' m claimed
    rw [addMethod, claim_of_claimed claimed]
    rfl

end Members

/-! ## Entries -/

namespace ClassEntry

variable {e : ClassEntry C} {c : ClassMeta C} {t : MethodTable C} {n : String}

/-- What the class was declared as. -/
def declared (e : ClassEntry C) : ClassMeta C := ⟨e.name, e.identity, e.sharing, e.fields, e.copy⟩

/-- A class with fields of distinct names is taken as it is declared, without methods yet. -/
theorem ofMeta_of_unrepeated (unrepeated : Unrepeated [] (c.fields.map FieldMeta.name)) :
    ∃ e, ofMeta c = .ok e ∧ e.1.declared = c ∧ e.1.methods = [] ∧ e.1.constructor = none ∧
      e.1.hasTable = false := by
  obtain ⟨ms, claimed, fields, methods⟩ := (Members.fields_pass c.name .empty).run unrepeated
  refine ⟨_, bind_eq_ok_iff.2 ⟨ms, claimed, rfl⟩, ?_, methods, rfl, rfl⟩
  simp only [declared, fields]
  rfl

theorem ofMeta_of_repeated (repeated : FirstRepeated [] (c.fields.map FieldMeta.name) n) :
    ofMeta c = .error (.duplicateMember c.name n) := by
  unfold ofMeta
  rw [Members.claims_stop (Members.fields_pass c.name .empty) repeated]
  rfl

/-- A first table of new names is attached, with its constructor. -/
theorem attach_of_unrepeated (first : e.hasTable = false)
    (unrepeated : Unrepeated e.names (t.methods.map MethodMeta.name)) :
    ∃ e', e.attach t = .ok e' ∧ e'.1.declared = e.declared ∧
      e'.1.methods = e.methods ++ t.methods ∧ e'.1.constructor = t.constructor ∧
      e'.1.hasTable = true := by
  obtain ⟨ms, claimed, fields, methods⟩ := (Members.methods_pass e.name e.toMembers).run unrepeated
  unfold attach
  rw [if_neg (by rw [first]; nofun)]
  refine ⟨_, bind_eq_ok_iff.2 ⟨ms, claimed, rfl⟩, ?_, methods, rfl, rfl⟩
  simp only [declared, fields]

theorem attach_of_repeated (first : e.hasTable = false)
    (repeated : FirstRepeated e.names (t.methods.map MethodMeta.name) n) :
    e.attach t = .error (.duplicateMember e.name n) := by
  unfold attach
  rw [if_neg (by rw [first]; nofun),
    Members.claims_stop (Members.methods_pass e.name e.toMembers) repeated]
  rfl

/-- A second table is refused before its methods are looked at. -/
theorem attach_of_table (second : e.hasTable = true) :
    e.attach t = .error (.duplicateMethodTable e.name) := by
  unfold attach
  rw [if_pos second]

end ClassEntry

end NativeBridge
