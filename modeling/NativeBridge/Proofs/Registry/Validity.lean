import NativeBridge.Proofs.Registry.Passes

/-!
# Modules that build

What a registry needs of a module can be said without building anything : `Module.Valid`. What is
reported of a module that is not valid is its first fault (`Module.FirstFault`), in the order in which
the declarations are looked at : functions, classes, method tables. A declaration is at fault if those
before it can stand together and it is refused behind them.

`Module.build_ok_iff` : a module builds if and only if it is valid, and otherwise the error is that of
its first fault. The three passes of a build make a registry that represents the declarations seen so
far (`Registry.Represents`, `Registry.functions_pass`, `Registry.classes_pass`,
`Registry.tables_pass`).
-/

namespace NativeBridge

variable {C : Catalog}

/-! ## Validity -/

namespace Module

/-- The functions can stand together. -/
def FunctionsStand (fs : List (FunctionMeta C)) : Prop := (fs.map FunctionMeta.name).Nodup

/-- The classes can stand together. -/
structure ClassesStand (cs : List (ClassMeta C)) : Prop where
  names : (cs.map ClassMeta.name).Nodup
  identities : (cs.map ClassMeta.identity).Nodup
  fields : ∀ c ∈ cs, (c.fields.map FieldMeta.name).Nodup

/-- The method tables can stand together, given the classes. -/
structure TablesStand (cs : List (ClassMeta C)) (ts : List (MethodTable C)) : Prop where
  owners : ∀ t ∈ ts, ∃ c ∈ cs, c.identity = t.identity
  identities : (ts.map MethodTable.identity).Nodup
  methods : ∀ t ∈ ts, ∀ c ∈ cs, c.identity = t.identity →
    Unrepeated (c.fields.map FieldMeta.name) (t.methods.map MethodMeta.name)

/-- All declarations of the module can stand together. -/
structure Valid (m : Module C) : Prop where
  functions : FunctionsStand m.functions
  classes : ClassesStand m.classes
  tables : TablesStand m.classes m.tables

instance (fs : List (FunctionMeta C)) : Decidable (FunctionsStand fs) :=
  inferInstanceAs (Decidable (List.Nodup _))

instance (cs : List (ClassMeta C)) : Decidable (ClassesStand cs) :=
  decidable_of_iff
    ((cs.map ClassMeta.name).Nodup ∧ (cs.map ClassMeta.identity).Nodup ∧
      ∀ c ∈ cs, (c.fields.map FieldMeta.name).Nodup)
    ⟨fun ⟨names, identities, fields⟩ => ⟨names, identities, fields⟩,
      fun stand => ⟨stand.names, stand.identities, stand.fields⟩⟩

instance (cs : List (ClassMeta C)) (ts : List (MethodTable C)) : Decidable (TablesStand cs ts) :=
  decidable_of_iff
    ((∀ t ∈ ts, ∃ c ∈ cs, c.identity = t.identity) ∧ (ts.map MethodTable.identity).Nodup ∧
      ∀ t ∈ ts, ∀ c ∈ cs, c.identity = t.identity →
        Unrepeated (c.fields.map FieldMeta.name) (t.methods.map MethodMeta.name))
    ⟨fun ⟨owners, identities, methods⟩ => ⟨owners, identities, methods⟩,
      fun stand => ⟨stand.owners, stand.identities, stand.methods⟩⟩

instance (m : Module C) : Decidable m.Valid :=
  decidable_of_iff
    (FunctionsStand m.functions ∧ ClassesStand m.classes ∧ TablesStand m.classes m.tables)
    ⟨fun ⟨functions, classes, tables⟩ => ⟨functions, classes, tables⟩,
      fun valid => ⟨valid.functions, valid.classes, valid.tables⟩⟩

/-- The name or the identity of the class has come before. -/
def Known (before : List (ClassMeta C)) (c : ClassMeta C) : Prop :=
  c.name ∈ before.map ClassMeta.name ∨ c.identity ∈ before.map ClassMeta.identity

inductive FunctionRefused (before : List (FunctionMeta C)) (f : FunctionMeta C) :
    RegistrationError → Prop
  | known (known : f.name ∈ before.map FunctionMeta.name) :
      FunctionRefused before f (.duplicateFunction f.name)

inductive ClassRefused (before : List (ClassMeta C)) (c : ClassMeta C) : RegistrationError → Prop
  | known (known : Known before c) : ClassRefused before c (.duplicateType c.name)
  | field {n : String} (new : ¬Known before c)
      (repeated : FirstRepeated [] (c.fields.map FieldMeta.name) n) :
      ClassRefused before c (.duplicateMember c.name n)

inductive TableRefused (cs : List (ClassMeta C)) (before : List (MethodTable C))
    (t : MethodTable C) : RegistrationError → Prop
  | withoutClass (missing : ∀ c ∈ cs, c.identity ≠ t.identity) :
      TableRefused cs before t (.methodsWithoutClass t.typeName)
  | second {c : ClassMeta C} (owner : c ∈ cs) (same : c.identity = t.identity)
      (known : t.identity ∈ before.map MethodTable.identity) :
      TableRefused cs before t (.duplicateMethodTable c.name)
  | method {c : ClassMeta C} {n : String} (owner : c ∈ cs) (same : c.identity = t.identity)
      (new : t.identity ∉ before.map MethodTable.identity)
      (repeated : FirstRepeated (c.fields.map FieldMeta.name) (t.methods.map MethodMeta.name) n) :
      TableRefused cs before t (.duplicateMember c.name n)

/-- The error of the first declaration that cannot stand behind those before it. -/
inductive FirstFault (m : Module C) (e : RegistrationError) : Prop
  | ofFunction {before after : List (FunctionMeta C)} {f : FunctionMeta C}
      (split : m.functions = before ++ f :: after) (earlier : FunctionsStand before)
      (refused : FunctionRefused before f e)
  | ofClass {before after : List (ClassMeta C)} {c : ClassMeta C}
      (functions : FunctionsStand m.functions) (split : m.classes = before ++ c :: after)
      (earlier : ClassesStand before) (refused : ClassRefused before c e)
  | ofTable {before after : List (MethodTable C)} {t : MethodTable C}
      (functions : FunctionsStand m.functions) (classes : ClassesStand m.classes)
      (split : m.tables = before ++ t :: after) (earlier : TablesStand m.classes before)
      (refused : TableRefused m.classes before t e)

/-! ## One declaration more -/

theorem functionsStand_concat {fs : List (FunctionMeta C)} {f : FunctionMeta C} :
    FunctionsStand (fs ++ [f]) ↔ FunctionsStand fs ∧ f.name ∉ fs.map FunctionMeta.name :=
  nodup_map_concat

/-- One class more stands if its name and identity are new, and no name of a field comes back. -/
theorem classesStand_concat {cs : List (ClassMeta C)} {c : ClassMeta C} :
    ClassesStand (cs ++ [c]) ↔
      ClassesStand cs ∧ ¬Known cs c ∧ Unrepeated [] (c.fields.map FieldMeta.name) := by
  refine ⟨fun ⟨names, identities, fields⟩ => ?_, fun ⟨stand, new, distinct⟩ => ?_⟩
  · rw [nodup_map_concat] at names identities
    rw [List.forall_mem_append, List.forall_mem_singleton] at fields
    exact ⟨⟨names.1, identities.1, fields.1⟩, not_or.2 ⟨names.2, identities.2⟩, fields.2, by simp⟩
  · obtain ⟨name, identity⟩ := not_or.1 new
    exact ⟨nodup_map_concat.2 ⟨stand.names, name⟩,
      nodup_map_concat.2 ⟨stand.identities, identity⟩,
      List.forall_mem_append.2 ⟨stand.fields, List.forall_mem_singleton.2 distinct.1⟩⟩

/-- One table more stands if there is a class for it, which has none yet and none of its names. -/
theorem tablesStand_concat {cs : List (ClassMeta C)} {ts : List (MethodTable C)}
    {t : MethodTable C} :
    TablesStand cs (ts ++ [t]) ↔
      TablesStand cs ts ∧ (∃ c ∈ cs, c.identity = t.identity) ∧
        t.identity ∉ ts.map MethodTable.identity ∧
        ∀ c ∈ cs, c.identity = t.identity →
          Unrepeated (c.fields.map FieldMeta.name) (t.methods.map MethodMeta.name) := by
  refine ⟨fun ⟨owners, identities, methods⟩ => ?_, fun ⟨stand, owner, new, distinct⟩ => ?_⟩
  · rw [nodup_map_concat] at identities
    rw [List.forall_mem_append, List.forall_mem_singleton] at owners methods
    exact ⟨⟨owners.1, identities.1, methods.1⟩, owners.2, identities.2, methods.2⟩
  · exact ⟨List.forall_mem_append.2 ⟨stand.owners, List.forall_mem_singleton.2 owner⟩,
      nodup_map_concat.2 ⟨stand.identities, new⟩,
      List.forall_mem_append.2 ⟨stand.methods, List.forall_mem_singleton.2 distinct⟩⟩

end Module

/-! ## What a registry represents -/

/-- The entry has the members and the constructor of its method table, and there is no other table
for it. -/
inductive ClassEntry.Tabled (e : ClassEntry C) (ts : List (MethodTable C)) : Prop
  | none (missing : ∀ t ∈ ts, t.identity ≠ e.identity) (methods : e.methods = [])
      (constructor : e.constructor = .none) (bare : e.hasTable = false)
  | one {t : MethodTable C} (mem : t ∈ ts) (same : t.identity = e.identity)
      (methods : e.methods = t.methods) (constructor : e.constructor = t.constructor)
      (closed : e.hasTable = true)

/-- The registry is made of the declarations of the module. -/
structure Registry.Represents (r : Registry C) (m : Module C) : Prop where
  name : r.name = m.name
  functions : r.functions = m.functions
  classes : r.classes.map ClassEntry.declared = m.classes
  tables : ∀ e ∈ r.classes, e.Tabled m.tables

namespace ClassEntry.Tabled

variable {e : ClassEntry C} {ts : List (MethodTable C)} {t : MethodTable C}

theorem hasTable_iff (tabled : e.Tabled ts) :
    e.hasTable = true ↔ e.identity ∈ ts.map MethodTable.identity := by
  rw [List.mem_map]
  rcases tabled with ⟨missing, -, -, bare⟩ | ⟨mem, same, -, -, closed⟩
  · rw [bare]
    exact ⟨nofun, fun ⟨t, mem, same⟩ => absurd same (missing t mem)⟩
  · exact ⟨fun _ => ⟨_, mem, same⟩, fun _ => closed⟩

/-- Before its table is attached, an entry has fields only. -/
theorem of_new (tabled : e.Tabled ts) (new : e.identity ∉ ts.map MethodTable.identity) :
    e.hasTable = false ∧ e.methods = [] ∧ e.names = e.fields.map FieldMeta.name := by
  rcases tabled with ⟨-, methods, -, bare⟩ | ⟨mem, same, -, -, -⟩
  · refine ⟨bare, methods, ?_⟩
    rw [Members.names, methods, List.map_nil, List.append_nil]
  · exact absurd (List.mem_map.2 ⟨_, mem, same⟩) new

/-- The table of another class changes nothing. -/
theorem concat (tabled : e.Tabled ts) (other : t.identity ≠ e.identity) :
    e.Tabled (ts ++ [t]) := by
  rcases tabled with ⟨missing, methods, constructor, bare⟩ | ⟨mem, same, methods, constructor, closed⟩
  · refine .none ?_ methods constructor bare
    exact List.forall_mem_append.2 ⟨missing, List.forall_mem_singleton.2 other⟩
  · exact .one (List.mem_append_left _ mem) same methods constructor closed

end ClassEntry.Tabled

namespace Registry

variable {r : Registry C} {n : String} {fs : List (FunctionMeta C)} {cs : List (ClassMeta C)}
  {ts : List (MethodTable C)}

open NativeBridge.Module

/-! ## Functions -/

section Functions

variable {f : FunctionMeta C} (made : r.Represents ⟨n, fs, [], []⟩)

include made

theorem Represents.function_free_iff :
    r.functionIndex.find? f.name = none ↔ f.name ∉ fs.map FunctionMeta.name := by
  rw [r.functions_indexed.free_iff, made.functions]

theorem Represents.pushFunction (free : r.functionIndex.find? f.name = none) :
    (r.pushFunction f free).Represents ⟨n, fs ++ [f], [], []⟩ :=
  ⟨made.name, congrArg (· ++ [f]) made.functions, made.classes, made.tables⟩

theorem Represents.registerFunction (new : f.name ∉ fs.map FunctionMeta.name) :
    ∃ r', r.registerFunction f = .ok r' ∧ r'.Represents ⟨n, fs ++ [f], [], []⟩ :=
  ⟨_, dif_pos (made.function_free_iff.2 new), made.pushFunction _⟩

theorem Represents.registerFunction_known (known : f.name ∈ fs.map FunctionMeta.name) :
    r.registerFunction f = .error (.duplicateFunction f.name) :=
  dif_neg fun free => made.function_free_iff.1 free known

end Functions

/-- The first pass registers functions. -/
theorem functions_pass (n : String) :
    Pass registerFunction (empty n : Registry C) FunctionsStand
      (fun fs r => r.Represents ⟨n, fs, [], []⟩) FunctionRefused where
  nil := List.nodup_nil
  start := ⟨rfl, rfl, rfl, nofun⟩
  stands_of_concat stands := (functionsStand_concat.1 stands).1
  accept made stands := made.registerFunction (functionsStand_concat.1 stands).2
  refuse := by
    rintro before f r e made ⟨known⟩
    exact made.registerFunction_known known
  decide := by
    intro before f stands
    by_cases known : f.name ∈ before.map FunctionMeta.name
    · exact Or.inr ⟨_, .known known⟩
    · exact Or.inl (functionsStand_concat.2 ⟨stands, known⟩)

/-! ## Classes -/

section Classes

variable {m : Module C} {c : ClassMeta C}

theorem Represents.names (made : r.Represents m) :
    r.classes.map ClassEntry.name = m.classes.map ClassMeta.name := by
  rw [← made.classes, List.map_map]
  rfl

theorem Represents.identities (made : r.Represents m) :
    r.classes.map ClassEntry.identity = m.classes.map ClassMeta.identity := by
  rw [← made.classes, List.map_map]
  rfl

theorem Represents.class_free_iff (made : r.Represents m) :
    (r.classIndex.find? c.name = none ∧ r.identityIndex.find? c.identity = none) ↔
      ¬Known m.classes c := by
  rw [r.classes_named.free_iff, r.classes_identified.free_iff, made.names, made.identities]
  exact not_or.symm

variable (made : r.Represents ⟨n, fs, cs, []⟩)

include made

theorem Represents.registerClass_known (known : Known cs c) :
    r.registerClass c = .error (.duplicateType c.name) :=
  dif_neg fun free => made.class_free_iff.1 free known

theorem Represents.pushClass {e : ClassEntry C} (declared : e.declared = c) (bare : e.Tabled [])
    (name : r.classIndex.find? e.name = none) (identity : r.identityIndex.find? e.identity = none) :
    (r.pushClass e name identity).Represents ⟨n, fs, cs ++ [c], []⟩ := by
  refine ⟨made.name, made.functions, ?_, ?_⟩
  · rw [Registry.pushClass, List.map_append, made.classes, List.map_singleton, declared]
  · exact List.forall_mem_append.2 ⟨made.tables, List.forall_mem_singleton.2 bare⟩

/-- A class that is new, and whose fields have different names, is registered. -/
theorem Represents.registerClass (new : ¬Known cs c)
    (unrepeated : Unrepeated [] (c.fields.map FieldMeta.name)) :
    ∃ r', r.registerClass c = .ok r' ∧ r'.Represents ⟨n, fs, cs ++ [c], []⟩ := by
  obtain ⟨⟨e, _, _⟩, entered, declared, methods, constructor, bare⟩ :=
    ClassEntry.ofMeta_of_unrepeated unrepeated
  unfold Registry.registerClass
  rw [dif_pos (made.class_free_iff.2 new), entered]
  exact ⟨_, rfl, made.pushClass declared (.none nofun methods constructor bare) _ _⟩

/-- A class that is new, but has a field name twice, is refused for that name. -/
theorem Represents.registerClass_repeated {member : String} (new : ¬Known cs c)
    (repeated : FirstRepeated [] (c.fields.map FieldMeta.name) member) :
    r.registerClass c = .error (.duplicateMember c.name member) := by
  unfold Registry.registerClass
  rw [dif_pos (made.class_free_iff.2 new), ClassEntry.ofMeta_of_repeated repeated]
  rfl

end Classes

/-- The second pass registers classes, in a registry that has the functions already. -/
theorem classes_pass (made : r.Represents ⟨n, fs, [], []⟩) :
    Pass registerClass r ClassesStand (fun cs r => r.Represents ⟨n, fs, cs, []⟩) ClassRefused where
  nil := ⟨List.nodup_nil, List.nodup_nil, nofun⟩
  start := made
  stands_of_concat stands := (classesStand_concat.1 stands).1
  accept made stands := made.registerClass (classesStand_concat.1 stands).2.1
    (classesStand_concat.1 stands).2.2
  refuse := by
    rintro before c r e made (known | ⟨new, repeated⟩)
    · exact made.registerClass_known known
    · exact made.registerClass_repeated new repeated
  decide := by
    intro before c stands
    by_cases known : Known before c
    · exact Or.inr ⟨_, .known known⟩
    · rcases unrepeated_or_firstRepeated [] (c.fields.map FieldMeta.name) with distinct | ⟨n, again⟩
      · exact Or.inl (classesStand_concat.2 ⟨stands, known, distinct⟩)
      · exact Or.inr ⟨_, .field known again⟩

/-! ## Method tables -/

section Tables

variable {t : MethodTable C} {e : ClassEntry C} {i : Nat} {cause : RegistrationError}

theorem registerMethods_of_found (found : r.identityIndex.find? t.identity = some i) :
    have inside := r.classes_identified.lt_length found
    r.registerMethods t = (r.classes.get ⟨i, inside⟩).attach t >>= fun ⟨e', named, identified⟩ =>
      .ok (r.setClass inside e' named identified) := by
  unfold registerMethods
  split
  · next missing =>
    rw [found] at missing
    cases missing
  · next j found' =>
    rw [found] at found'
    cases found'
    rfl

theorem registerMethods_of_error (found : r.identityIndex.find? t.identity = some i)
    (here : r.classes[i]? = some e) (refused : e.attach t = .error cause) :
    r.registerMethods t = .error cause := by
  obtain ⟨inside, rfl⟩ := List.getElem?_eq_some_iff.1 here
  rw [registerMethods_of_found found]
  exact congrArg (· >>= _) refused

/-- A table that is taken changes the entry of its class, and nothing else. -/
theorem registerMethods_of_ok {e' : ClassEntry.Of C e.name e.identity}
    (found : r.identityIndex.find? t.identity = some i) (here : r.classes[i]? = some e)
    (attached : e.attach t = .ok e') :
    ∃ r', r.registerMethods t = .ok r' ∧ r'.name = r.name ∧ r'.functions = r.functions ∧
      r'.classes = r.classes.set i e'.1 := by
  obtain ⟨inside, rfl⟩ := List.getElem?_eq_some_iff.1 here
  obtain ⟨e', named, identified⟩ := e'
  rw [registerMethods_of_found found]
  exact ⟨_, bind_eq_ok_iff.2 ⟨_, attached, rfl⟩, rfl, rfl, rfl⟩

variable {c : ClassMeta C} (made : r.Represents ⟨n, fs, cs, ts⟩)

include made

theorem Represents.registerMethods_missing (missing : ∀ c ∈ cs, c.identity ≠ t.identity) :
    r.registerMethods t = .error (.methodsWithoutClass t.typeName) := by
  have free : r.identityIndex.find? t.identity = none := by
    rw [r.classes_identified.free_iff, made.identities, List.mem_map]
    rintro ⟨c, mem, same⟩
    exact missing c mem same
  unfold registerMethods
  split
  · rfl
  · next found =>
    rw [free] at found
    cases found

/-- The entry of a class, and where it is. -/
theorem Represents.entry (owner : c ∈ cs) (same : c.identity = t.identity) :
    ∃ i e, r.identityIndex.find? t.identity = some i ∧ r.classes[i]? = some e ∧
      e.declared = c ∧ e.identity = t.identity ∧ e.Tabled ts := by
  have listed : c ∈ r.classes.map ClassEntry.declared := by rwa [made.classes]
  obtain ⟨e, mem, rfl⟩ := List.mem_map.1 listed
  obtain ⟨i, here⟩ := List.mem_iff_getElem?.1 mem
  refine ⟨i, e, (r.classes_identified _ i).2 ?_, here, rfl, same, made.tables e mem⟩
  exact Index.keyAt_eq_some_iff.2 ⟨e, here, same⟩

theorem Represents.registerMethods_second (owner : c ∈ cs) (same : c.identity = t.identity)
    (known : t.identity ∈ ts.map MethodTable.identity) :
    r.registerMethods t = .error (.duplicateMethodTable c.name) := by
  obtain ⟨i, e, found, here, rfl, same, tabled⟩ := made.entry owner same
  have second : e.hasTable = true := tabled.hasTable_iff.2 (same ▸ known)
  exact registerMethods_of_error found here (ClassEntry.attach_of_table second)

/-- A table is refused for the first name that its class or the table itself has already. -/
theorem Represents.registerMethods_repeated {member : String} (owner : c ∈ cs)
    (same : c.identity = t.identity) (new : t.identity ∉ ts.map MethodTable.identity)
    (repeated :
      FirstRepeated (c.fields.map FieldMeta.name) (t.methods.map MethodMeta.name) member) :
    r.registerMethods t = .error (.duplicateMember c.name member) := by
  obtain ⟨i, e, found, here, rfl, same, tabled⟩ := made.entry owner same
  obtain ⟨first, -, names⟩ := tabled.of_new (same ▸ new)
  exact registerMethods_of_error found here
    (ClassEntry.attach_of_repeated first (names ▸ repeated))

/-- The first table of a class is taken if all its names are new. -/
theorem Represents.registerMethods (owner : c ∈ cs) (same : c.identity = t.identity)
    (new : t.identity ∉ ts.map MethodTable.identity)
    (unrepeated : Unrepeated (c.fields.map FieldMeta.name) (t.methods.map MethodMeta.name)) :
    ∃ r', r.registerMethods t = .ok r' ∧ r'.Represents ⟨n, fs, cs, ts ++ [t]⟩ := by
  obtain ⟨i, e, found, here, rfl, same, tabled⟩ := made.entry owner same
  obtain ⟨first, bare, names⟩ := tabled.of_new (same ▸ new)
  obtain ⟨e', attached, declared, methods, constructor, closed⟩ :=
    ClassEntry.attach_of_unrepeated first (names ▸ unrepeated)
  obtain ⟨r', registered, name, functions, classes⟩ := registerMethods_of_ok found here attached
  refine ⟨r', registered, name.trans made.name, functions.trans made.functions, ?_, ?_⟩
  · obtain ⟨inside, rfl⟩ := List.getElem?_eq_some_iff.1 here
    rw [classes, List.map_set, declared, ← made.classes,
      ← List.getElem_map ClassEntry.declared (h := by rwa [List.length_map]), List.set_getElem_self]
  · intro x mem
    rw [classes] at mem
    obtain ⟨j, there⟩ := List.mem_iff_getElem?.1 mem
    by_cases place : i = j
    · subst place
      rw [List.getElem?_set_self (List.getElem?_eq_some_iff.1 here).1] at there
      cases there
      have identity : e'.1.identity = e.identity := e'.2.2
      refine .one (List.mem_append_right ts (List.mem_singleton_self t)) ?_ ?_ constructor closed
      · rw [identity, same]
      · rw [methods, bare, List.nil_append]
    · rw [List.getElem?_set_ne place] at there
      refine (made.tables x (List.mem_of_getElem? there)).concat fun other => place ?_
      have found' := (r.classes_identified t.identity j).2
        (Index.keyAt_eq_some_iff.2 ⟨x, there, other.symm⟩)
      rw [found] at found'
      exact Option.some.inj found'

end Tables

/-- The last pass attaches the tables, in a registry that has functions and classes. -/
theorem tables_pass (made : r.Represents ⟨n, fs, cs, []⟩) (classes : ClassesStand cs) :
    Pass registerMethods r (TablesStand cs) (fun ts r => r.Represents ⟨n, fs, cs, ts⟩)
      (TableRefused cs) where
  nil := ⟨nofun, List.nodup_nil, nofun⟩
  start := made
  stands_of_concat stands := (tablesStand_concat.1 stands).1
  accept := by
    intro before t r made stands
    obtain ⟨-, ⟨c, owner, same⟩, new, distinct⟩ := tablesStand_concat.1 stands
    exact made.registerMethods owner same new (distinct c owner same)
  refuse := by
    rintro before t r e made (missing | ⟨owner, same, known⟩ | ⟨owner, same, new, repeated⟩)
    · exact made.registerMethods_missing missing
    · exact made.registerMethods_second owner same known
    · exact made.registerMethods_repeated owner same new repeated
  decide := by
    intro before t stands
    by_cases owned : ∃ c ∈ cs, c.identity = t.identity
    · obtain ⟨c, owner, same⟩ := owned
      by_cases known : t.identity ∈ before.map MethodTable.identity
      · exact Or.inr ⟨_, .second owner same known⟩
      · rcases unrepeated_or_firstRepeated (c.fields.map FieldMeta.name)
          (t.methods.map MethodMeta.name) with distinct | ⟨n, again⟩
        · refine Or.inl (tablesStand_concat.2 ⟨stands, ⟨c, owner, same⟩, known, fun c' mem same' => ?_⟩)
          -- the owner is the only class of its identity
          rwa [List.inj_on_of_nodup_map classes.identities mem owner (same'.trans same.symm)]
        · exact Or.inr ⟨_, .method owner same known again⟩
    · exact Or.inr ⟨_, .withoutClass fun c mem same => owned ⟨c, mem, same⟩⟩

end Registry

/-! ## Whole builds -/

namespace Module

variable {m : Module C} {e : RegistrationError}

open Registry

/-- Building goes on with the classes when all functions are registered. -/
theorem build_of_functions {r : Registry C}
    (functions : m.functions.foldlM registerFunction (.empty m.name) = .ok r) :
    m.build = m.classes.foldlM registerClass r >>= m.tables.foldlM registerMethods := by
  unfold Module.build
  rw [functions]
  rfl

/-- A valid module builds, and what is built represents it : the three passes, one after the
other. -/
theorem Valid.build (valid : m.Valid) : ∃ r, m.build = .ok r ∧ r.Represents m := by
  obtain ⟨r, functions, made⟩ := (functions_pass m.name).run valid.functions
  obtain ⟨r', classes, made'⟩ := (classes_pass made).run valid.classes
  obtain ⟨r'', tables, made''⟩ := (tables_pass made' valid.classes).run valid.tables
  refine ⟨r'', ?_, made''⟩
  rw [build_of_functions functions, classes]
  exact tables

/-- A module does not build beyond its first fault, and that is the error. -/
theorem FirstFault.build (fault : m.FirstFault e) : m.build = .error e := by
  rcases fault with ⟨split, earlier, refused⟩ | ⟨functions, split, earlier, refused⟩ |
    ⟨functions, classes, split, earlier, refused⟩
  · unfold Module.build
    rw [split, (functions_pass m.name).stops earlier refused]
    rfl
  · obtain ⟨r, registered, made⟩ := (functions_pass m.name).run functions
    rw [build_of_functions registered, split, (classes_pass made).stops earlier refused]
    rfl
  · obtain ⟨r, registered, made⟩ := (functions_pass m.name).run functions
    obtain ⟨r', registered', made'⟩ := (classes_pass made).run classes
    rw [build_of_functions registered, registered', split]
    exact (tables_pass made' classes).stops earlier refused

/-- A module is valid or has a first fault. Each pass in turn stands as a whole or has an item that
is refused, behind passes that stand. -/
theorem valid_or_firstFault (m : Module C) : m.Valid ∨ ∃ e, m.FirstFault e := by
  rcases (functions_pass m.name).stands_or_refused m.functions with functions |
    ⟨before, f, after, e, split, earlier, refused⟩
  · obtain ⟨r, -, made⟩ := (functions_pass m.name).run functions
    rcases (classes_pass made).stands_or_refused m.classes with classes |
      ⟨before, c, after, e, split, earlier, refused⟩
    · obtain ⟨r', -, made'⟩ := (classes_pass made).run classes
      rcases (tables_pass made' classes).stands_or_refused m.tables with tables |
        ⟨before, t, after, e, split, earlier, refused⟩
      · exact Or.inl ⟨functions, classes, tables⟩
      · exact Or.inr ⟨e, .ofTable functions classes split earlier refused⟩
    · exact Or.inr ⟨e, .ofClass functions split earlier refused⟩
  · exact Or.inr ⟨e, .ofFunction split earlier refused⟩

/-- A module that builds is valid. -/
theorem valid_of_build {r : Registry C} (built : m.build = .ok r) : m.Valid := by
  rcases valid_or_firstFault m with valid | ⟨e, fault⟩
  · exact valid
  · cases built.symm.trans fault.build

/-- The registry that is built represents the module. -/
theorem represents_of_build {r : Registry C} (built : m.build = .ok r) : r.Represents m := by
  obtain ⟨r', built', made⟩ := (valid_of_build built).build
  cases built.symm.trans built'
  exact made

/-- A module builds if and only if it is valid, and otherwise its first fault is reported. -/
theorem build_ok_iff (m : Module C) :
    ((∃ r, m.build = .ok r) ↔ m.Valid) ∧ ∀ e, m.build = .error e ↔ m.FirstFault e := by
  refine ⟨⟨fun ⟨r, built⟩ => valid_of_build built, fun valid => ?_⟩, fun e => ⟨fun failed => ?_,
    FirstFault.build⟩⟩
  · obtain ⟨r, built, -⟩ := valid.build
    exact ⟨r, built⟩
  · rcases valid_or_firstFault m with valid | ⟨e', fault⟩
    · obtain ⟨r, built, -⟩ := valid.build
      cases built.symm.trans failed
    · cases failed.symm.trans fault.build
      exact fault

end Module

end NativeBridge
