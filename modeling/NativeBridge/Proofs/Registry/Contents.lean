import NativeBridge.Gallery.Sample
import NativeBridge.Proofs.Registry.Validity

/-!
# What a registry finds

A registry offers what its module declares, and nothing else : the declarations in their order, and
each of them under its name. The entry of a class is found by the class's name and by its identity
alike, and it offers the fields of the class and the methods and the constructor of the method table
of that identity.

`Module.offers_of_build` : the registry that is built from a module offers the module. The indexes of
a registry agree with its lists (`Registry.function_eq_ok_iff` and its like), and the lists are those
of the module (`Registry.Represents`).
-/

namespace NativeBridge

variable {C : Catalog}

/-- The entry offers the class, with the method table that belongs to it. -/
structure ClassEntry.Offers (e : ClassEntry C) (c : ClassMeta C) (ts : List (MethodTable C)) :
    Prop where
  /-- The fields in their order are a part of it. -/
  declared : e.declared = c
  tabled : ∀ t ∈ ts, t.identity = c.identity →
    e.methods = t.methods ∧ e.constructor = t.constructor
  untabled : (∀ t ∈ ts, t.identity ≠ c.identity) → e.methods = [] ∧ e.constructor = none
  field : ∀ n f, e.field n = .ok f ↔ f ∈ c.fields ∧ f.name = n
  noField : ∀ n cause, e.field n = .error cause ↔
    cause = .noSuchField c.name n ∧ ∀ f ∈ c.fields, f.name ≠ n
  method : ∀ n x, e.method n = .ok x ↔
    ∃ t ∈ ts, t.identity = c.identity ∧ x ∈ t.methods ∧ x.name = n
  noMethod : ∀ n cause, e.method n = .error cause ↔
    cause = .noSuchMethod c.name n ∧ ∀ t ∈ ts, t.identity = c.identity → ∀ x ∈ t.methods, x.name ≠ n
  apart : ∀ n f x, e.field n = .ok f → e.method n ≠ .ok x

/-- The registry offers what the module declares. -/
structure Registry.Offers (r : Registry C) (m : Module C) : Prop where
  functions : r.functions = m.functions
  classes : r.classes.map ClassEntry.declared = m.classes
  function : ∀ n f, r.function n = .ok f ↔ f ∈ m.functions ∧ f.name = n
  noFunction : ∀ n cause, r.function n = .error cause ↔
    cause = .notFound .function n ∧ ∀ f ∈ m.functions, f.name ≠ n
  entry : ∀ c ∈ m.classes, ∃ e ∈ r.classes, r.classNamed c.name = .ok e ∧
    r.classOf? c.identity = some e ∧ e.Offers c m.tables
  noName : ∀ n cause, r.classNamed n = .error cause ↔
    cause = .notFound .type n ∧ ∀ c ∈ m.classes, c.name ≠ n
  noIdentity : ∀ i, r.classOf? i = none ↔ ∀ c ∈ m.classes, c.identity ≠ i

namespace ClassEntry.Tabled

variable {e : ClassEntry C} {ts : List (MethodTable C)}

/-- The methods of an entry are those of the table that has its identity. -/
theorem mem_methods_iff (tabled : e.Tabled ts) (distinct : (ts.map MethodTable.identity).Nodup)
    {x : MethodMeta C} :
    x ∈ e.methods ↔ ∃ t ∈ ts, t.identity = e.identity ∧ x ∈ t.methods := by
  rcases tabled with ⟨missing, methods, -, -⟩ | ⟨mem, same, methods, -, -⟩
  · rw [methods]
    exact ⟨nofun, fun ⟨t, mem, same, _⟩ => absurd same (missing t mem)⟩
  · rw [methods]
    refine ⟨fun inside => ⟨_, mem, same, inside⟩, fun ⟨t, mem', same', inside⟩ => ?_⟩
    rwa [List.inj_on_of_nodup_map distinct mem mem' (same.trans same'.symm)]

/-- A class offers what its declaration has, and its table if there is one. -/
theorem offers (tabled : e.Tabled ts) (distinct : (ts.map MethodTable.identity).Nodup) :
    e.Offers e.declared ts where
  declared := rfl
  tabled := by
    intro t mem same
    rcases tabled with ⟨missing, -, -, -⟩ | ⟨mem', same', methods, constructor, -⟩
    · exact absurd same (missing t mem)
    · rw [List.inj_on_of_nodup_map distinct mem mem' (same.trans same'.symm)]
      exact ⟨methods, constructor⟩
  untabled := by
    intro missing
    rcases tabled with ⟨-, methods, constructor, -⟩ | ⟨mem, same, -, -, -⟩
    · exact ⟨methods, constructor⟩
    · exact absurd same (missing _ mem)
  field n f := field_eq_ok_iff
  noField n cause := field_eq_error_iff
  method := by
    intro n x
    rw [method_eq_ok_iff, tabled.mem_methods_iff distinct]
    refine ⟨?_, ?_⟩
    · rintro ⟨⟨t, mem, same, inside⟩, named⟩
      exact ⟨t, mem, same, inside, named⟩
    · rintro ⟨t, mem, same, inside, named⟩
      exact ⟨⟨t, mem, same, inside⟩, named⟩
  noMethod := by
    intro n cause
    rw [method_eq_error_iff]
    refine and_congr Iff.rfl ⟨fun none t mem same x inside => ?_, fun none x inside => ?_⟩
    · exact none x ((tabled.mem_methods_iff distinct).2 ⟨t, mem, same, inside⟩)
    · obtain ⟨t, mem, same, inside⟩ := (tabled.mem_methods_iff distinct).1 inside
      exact none t mem same x inside
  apart := by
    intro n f x found found'
    obtain ⟨field, named⟩ := field_eq_ok_iff.1 found
    obtain ⟨method, named'⟩ := method_eq_ok_iff.1 found'
    exact Members.field_ne_method field method (named.trans named'.symm)

end ClassEntry.Tabled

namespace Registry.Represents

variable {r : Registry C} {m : Module C}

/-- A registry offers what its module has. -/
theorem offers (made : r.Represents m) (distinct : (m.tables.map MethodTable.identity).Nodup) :
    r.Offers m where
  functions := made.functions
  classes := made.classes
  function n f := by rw [← made.functions, function_eq_ok_iff]
  noFunction n cause := by rw [← made.functions, function_eq_error_iff]
  entry := by
    intro c listed
    rw [← made.classes] at listed
    obtain ⟨e, mem, rfl⟩ := List.mem_map.1 listed
    exact ⟨e, mem, classNamed_eq_ok_iff.2 ⟨mem, rfl⟩, classOf?_eq_some_iff.2 ⟨mem, rfl⟩,
      (made.tables e mem).offers distinct⟩
  noName := by
    intro n cause
    rw [classNamed_eq_error_iff, ← made.classes, List.forall_mem_map]
    rfl
  noIdentity := by
    intro i
    rw [classOf?_eq_none_iff, ← made.classes, List.forall_mem_map]
    rfl

end Registry.Represents

/-- The registry that is built from a module offers what the module declares. -/
theorem Module.offers_of_build {m : Module C} {r : Registry C} (built : m.build = .ok r) :
    r.Offers m :=
  (represents_of_build built).offers (valid_of_build built).tables.identities

open Gallery in
/-- The module `sample` builds. Its class is found under its name and by its identity, with a
constructor. -/
theorem Module.offers_of_build_sample :
    ∃ r, sample.build = .ok r ∧ r.Offers sample ∧
      ∃ e, r.classNamed "Point" = .ok e ∧ r.classOf? (catalog.identity .point) = some e ∧
        e.constructor.isSome ∧ e.methods.length = Point.methods.length := by
  have valid : sample.Valid := by decide +kernel
  obtain ⟨r, built, -⟩ := valid.build
  have offers := Module.offers_of_build built
  obtain ⟨e, -, named, identified, entry⟩ := offers.entry _ (List.mem_singleton_self _)
  obtain ⟨methods, constructor⟩ := entry.tabled _ (List.mem_singleton_self _) rfl
  refine ⟨r, built, offers, e, named, identified, ?_, ?_⟩
  · rw [constructor]
    rfl
  · rw [methods]
    rfl

end NativeBridge
