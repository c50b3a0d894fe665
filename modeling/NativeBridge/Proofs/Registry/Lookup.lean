import NativeBridge.Registry

/-!
# Lookups

A lookup succeeds with the one declaration of the name, and fails if there is none : the indexes of a
registry and of a class agree with their lists (`Index.row?_eq_some_iff`). Lookups are made one after
the other, and the whole succeeds if each of them does (`bind_eq_ok_iff`, `toOption_bind_eq_some_iff`).
-/

namespace NativeBridge

variable {C : Catalog}

/-- A chain of two steps succeeds if both do. -/
theorem bind_eq_ok_iff {ε α β : Type} {x : Except ε α} {k : α → Except ε β} {b : β} :
    (x >>= k) = .ok b ↔ ∃ a, x = .ok a ∧ k a = .ok b := by
  cases x <;> simp [bind, Except.bind]

theorem toOption_bind_eq_some_iff {ε α β : Type} {x : Except ε α} {k : α → Option β} {b : β} :
    x.toOption.bind k = some b ↔ ∃ a, x = .ok a ∧ k a = some b := by
  cases x <;> simp [Except.toOption]

/-! ## Indexed lists -/

namespace Index

section Rows

variable {κ α : Type} {key : α → κ} {rows : List α} {k : κ} {i : Nat} {a : α}

theorem keyAt_eq_some_iff : keyAt key rows i = some k ↔ ∃ a, rows[i]? = some a ∧ key a = k := by
  rw [keyAt, Option.map_eq_some_iff]

theorem exists_keyAt_iff : (∃ i, keyAt key rows i = some k) ↔ k ∈ rows.map key := by
  simp only [keyAt, List.mem_iff_getElem?, List.getElem?_map]

variable [DecidableEq κ] {ix : Index κ Nat}

/-- An index that inverts the keys finds the rows with the key. -/
theorem row?_eq_some_iff (inverts : ix.Inverts (keyAt key rows)) :
    ix.row? rows k = some a ↔ a ∈ rows ∧ key a = k := by
  rw [row?, Option.bind_eq_some_iff]
  refine ⟨?_, ?_⟩
  · rintro ⟨i, found, there⟩
    obtain ⟨b, there', same⟩ := keyAt_eq_some_iff.1 ((inverts k i).1 found)
    rw [there] at there'
    cases there'
    exact ⟨List.mem_of_getElem? there, same⟩
  · rintro ⟨mem, same⟩
    obtain ⟨i, there⟩ := List.mem_iff_getElem?.1 mem
    exact ⟨i, (inverts k i).2 (keyAt_eq_some_iff.2 ⟨a, there, same⟩), there⟩

theorem row?_eq_none_iff (inverts : ix.Inverts (keyAt key rows)) :
    ix.row? rows k = none ↔ ∀ a ∈ rows, key a ≠ k := by
  simp only [Option.eq_none_iff_forall_ne_some, Ne, row?_eq_some_iff inverts, not_and]

/-- A key is free if no element has it. -/
theorem Inverts.free_iff (inverts : ix.Inverts (keyAt key rows)) :
    ix.find? k = none ↔ k ∉ rows.map key := by
  simp only [Option.eq_none_iff_forall_ne_some, Ne, inverts k, ← exists_keyAt_iff, not_exists]

end Rows

end Index

/-! ## Registries -/

namespace Registry

variable {r : Registry C} {name : String} {i : Identity}

/-- The function that is found is one of the registry, under its own name. -/
theorem function_eq_ok_iff {f : FunctionMeta C} :
    r.function name = .ok f ↔ f ∈ r.functions ∧ f.name = name := by
  rw [← Index.row?_eq_some_iff r.functions_indexed, function]
  cases r.functionIndex.row? r.functions name <;> simp

/-- A function is missing if none has the name, and the error says which was asked for. -/
theorem function_eq_error_iff {e : BindingError} :
    r.function name = .error e ↔
      e = .notFound .function name ∧ ∀ f ∈ r.functions, f.name ≠ name := by
  rw [← Index.row?_eq_none_iff r.functions_indexed, function]
  cases r.functionIndex.row? r.functions name <;> simp [eq_comm]

theorem mem_of_function {f : FunctionMeta C} (h : r.function name = .ok f) : f ∈ r.functions :=
  (function_eq_ok_iff.1 h).1

/-- The class that is found is one of the registry, under its own name. -/
theorem classNamed_eq_ok_iff {e : ClassEntry C} :
    r.classNamed name = .ok e ↔ e ∈ r.classes ∧ e.name = name := by
  rw [← Index.row?_eq_some_iff r.classes_named, classNamed]
  cases r.classIndex.row? r.classes name <;> simp

theorem classNamed_eq_error_iff {cause : BindingError} :
    r.classNamed name = .error cause ↔
      cause = .notFound .type name ∧ ∀ e ∈ r.classes, e.name ≠ name := by
  rw [← Index.row?_eq_none_iff r.classes_named, classNamed]
  cases r.classIndex.row? r.classes name <;> simp [eq_comm]

theorem mem_of_classNamed {e : ClassEntry C} (h : r.classNamed name = .ok e) : e ∈ r.classes :=
  (classNamed_eq_ok_iff.1 h).1

/-- The class of an identity is the one that carries it. -/
theorem classOf?_eq_some_iff {e : ClassEntry C} :
    r.classOf? i = some e ↔ e ∈ r.classes ∧ e.identity = i :=
  Index.row?_eq_some_iff r.classes_identified

theorem classOf?_eq_none_iff : r.classOf? i = none ↔ ∀ e ∈ r.classes, e.identity ≠ i :=
  Index.row?_eq_none_iff r.classes_identified

end Registry

/-! ## Classes -/

namespace Members

variable {ms : Members C} {name : String}

/-- A name that is found as a field is the name of that field. -/
theorem find?_eq_field_iff {i : Nat} :
    ms.index.find? name = some (.field i) ↔ ∃ f, ms.fields[i]? = some f ∧ f.name = name :=
  (ms.indexed name (.field i)).trans Index.keyAt_eq_some_iff

theorem find?_eq_method_iff {i : Nat} :
    ms.index.find? name = some (.method i) ↔ ∃ m, ms.methods[i]? = some m ∧ m.name = name :=
  (ms.indexed name (.method i)).trans Index.keyAt_eq_some_iff

/-- A field is found under its name, and no method in its place. -/
theorem field?_eq_some_iff {f : FieldMeta C} :
    ms.field? name = some f ↔ f ∈ ms.fields ∧ f.name = name := by
  refine ⟨fun h => ?_, ?_⟩
  · unfold field? at h
    split at h
    · next i found =>
      obtain ⟨g, there, same⟩ := find?_eq_field_iff.1 found
      rw [h] at there
      cases there
      exact ⟨List.mem_of_getElem? h, same⟩
    · cases h
  · rintro ⟨mem, same⟩
    obtain ⟨i, there⟩ := List.mem_iff_getElem?.1 mem
    rw [field?, find?_eq_field_iff.2 ⟨f, there, same⟩]
    exact there

theorem method?_eq_some_iff {m : MethodMeta C} :
    ms.method? name = some m ↔ m ∈ ms.methods ∧ m.name = name := by
  refine ⟨fun h => ?_, ?_⟩
  · unfold method? at h
    split at h
    · next i found =>
      obtain ⟨g, there, same⟩ := find?_eq_method_iff.1 found
      rw [h] at there
      cases there
      exact ⟨List.mem_of_getElem? h, same⟩
    · cases h
  · rintro ⟨mem, same⟩
    obtain ⟨i, there⟩ := List.mem_iff_getElem?.1 mem
    rw [method?, find?_eq_method_iff.2 ⟨m, there, same⟩]
    exact there

/-- A name is free if no member has it. -/
theorem free_iff :
    ms.index.find? name = none ↔
      name ∉ ms.fields.map FieldMeta.name ∧ name ∉ ms.methods.map MethodMeta.name := by
  rw [← Index.exists_keyAt_iff, ← Index.exists_keyAt_iff, not_exists, not_exists]
  simp only [Option.eq_none_iff_forall_ne_some, Ne, ms.indexed name]
  refine ⟨fun free => ⟨fun i => free (.field i), fun i => free (.method i)⟩, ?_⟩
  rintro ⟨fields, methods⟩ (i | i)
  · exact fields i
  · exact methods i

/-- No field and method have the same name. -/
theorem field_ne_method {f : FieldMeta C} {m : MethodMeta C} (field : f ∈ ms.fields)
    (method : m ∈ ms.methods) : f.name ≠ m.name := by
  intro same
  obtain ⟨i, atField⟩ := List.mem_iff_getElem?.1 field
  obtain ⟨j, atMethod⟩ := List.mem_iff_getElem?.1 method
  have found := find?_eq_field_iff.2 ⟨f, atField, same⟩
  rw [find?_eq_method_iff.2 ⟨m, atMethod, rfl⟩] at found
  cases found

end Members

namespace ClassEntry

variable {e : ClassEntry C} {name : String}

theorem field_eq_ok_iff {f : FieldMeta C} :
    e.field name = .ok f ↔ f ∈ e.fields ∧ f.name = name := by
  rw [← Members.field?_eq_some_iff, field]
  cases e.field? name <;> simp

/-- A field is missing if none has the name. The error names the class too. -/
theorem field_eq_error_iff {cause : BindingError} :
    e.field name = .error cause ↔
      cause = .noSuchField e.name name ∧ ∀ f ∈ e.fields, f.name ≠ name := by
  have none_iff : e.field? name = none ↔ ∀ f ∈ e.fields, f.name ≠ name := by
    simp only [Option.eq_none_iff_forall_ne_some, Ne, Members.field?_eq_some_iff, not_and]
  rw [← none_iff, field]
  cases e.field? name <;> simp [eq_comm]

theorem mem_of_field {f : FieldMeta C} (h : e.field name = .ok f) : f ∈ e.fields :=
  (field_eq_ok_iff.1 h).1

theorem method_eq_ok_iff {m : MethodMeta C} :
    e.method name = .ok m ↔ m ∈ e.methods ∧ m.name = name := by
  rw [← Members.method?_eq_some_iff, method]
  cases e.method? name <;> simp

theorem method_eq_error_iff {cause : BindingError} :
    e.method name = .error cause ↔
      cause = .noSuchMethod e.name name ∧ ∀ m ∈ e.methods, m.name ≠ name := by
  have none_iff : e.method? name = none ↔ ∀ m ∈ e.methods, m.name ≠ name := by
    simp only [Option.eq_none_iff_forall_ne_some, Ne, Members.method?_eq_some_iff, not_and]
  rw [← none_iff, method]
  cases e.method? name <;> simp [eq_comm]

theorem mem_of_method {m : MethodMeta C} (h : e.method name = .ok m) : m ∈ e.methods :=
  (method_eq_ok_iff.1 h).1

end ClassEntry

end NativeBridge
