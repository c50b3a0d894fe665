import NativeBridge.Expansion.DataType
import NativeBridge.Proofs.Expansion.Signature

/-!
# Data types that can be exposed

A data type can be exposed (`DataItem.Exposable`) if it is a structure with named fields or with
none, has no generic parameters, all helper attributes on it and on its fields can be read, and no
field that is not skipped is to be written without being read. What is exposed of it is then fixed
by its attributes and its fields (`DataItem.exposed`, `ExposedType.ofItem_eq_ok_iff`) : the host sees
the fields that are not skipped and can be read, whether a flag of their own says so or one of the
type.

`expandType_exposes` says so of the class that is read from the code (`ClassCode.ofTrees?_tokens`). Each
field that is shown has a getter that gives a copy of it (`Fetches`), every field with write access has
a setter that stores in it (`Stores`) and no other has one, and the type can be taken from the host if and
only if it can be copied (`Copies`).
-/

namespace NativeBridge

open Expansion

/-! ## What is asked of a data type -/

namespace Source

/-- A helper attribute of the field has the flag. -/
def Field.marked (f : Field) (flag : Flag) : Bool := Expansion.marked .field f.attributes flag

namespace DataItem

variable (d : DataItem)

/-- A helper attribute of the type has the flag. -/
def marked (flag : Flag) : Bool := Expansion.marked .type d.attributes flag

/-- The fields with names. -/
def fields : List Field :=
  match d.shape with
  | .named fs => fs
  | _ => []

/-- The host is to read the field. -/
def reads (f : Field) : Bool := f.marked .get || d.marked .getAll

/-- The host is to write the field. -/
def writes (f : Field) : Bool := f.marked .set || d.marked .setAll

/-- The host sees the field : it is not hidden, and can be read. -/
def shows (f : Field) : Bool := !f.marked .skip && d.reads f

/-- The data type can be exposed. -/
structure Exposable : Prop where
  concrete : d.isGeneric = false
  struct : (∃ fs, d.shape = .named fs) ∨ d.shape = .unit
  readable : Readable .type d.attributes
  fields : ∀ f ∈ d.fields, Readable .field f.attributes
  access : ∀ f ∈ d.fields, f.marked .skip = false → d.writes f = true → d.reads f = true

/-- What the host sees of a field. -/
def exposedField (f : Field) : ExposedField where
  name := f.name
  hostName := (givenName? .field f.attributes).getD (plainName f.name)
  type := f.type
  writable := d.writes f

/-- What the host sees of the type. -/
def exposed : ExposedType where
  name := d.name
  hostName := (givenName? .type d.attributes).getD d.name
  sharing := if d.marked .shared then .shared else .exclusive
  copies := d.marked .clone
  fields := (d.fields.filter d.shows).map d.exposedField

end DataItem

end Source

namespace Expansion

open Source Trees

variable {d : DataItem} {f : Field} {fs : List Field}

/-! ## Fields -/

/-- The options of a type whose helper attributes can be read. -/
def typeOptions (d : DataItem) : Options := .ofSettings (settingsOf .type d.attributes)

/-- A field is hidden, refused, shown, or passed over, in this order. -/
theorem ExposedField.ofField_eq (readable : Readable .field f.attributes) :
    ExposedField.ofField (typeOptions d) f =
      if f.marked .skip then .ok none
      else if d.writes f && !d.reads f then .error .writeOnlyField
      else if d.reads f then .ok (some (d.exposedField f))
      else .ok none := by
  have read : Options.ofAttributes .field f.attributes =
      .ok (.ofSettings (settingsOf .field f.attributes)) :=
    Options.ofAttributes_eq_ok_iff.2 ⟨readable, rfl⟩
  have mark (flag : Flag) : (Options.ofSettings (settingsOf .field f.attributes)).has flag =
      f.marked flag := Options.has_settingsOf flag
  have markAll (flag : Flag) : (typeOptions d).has flag = d.marked flag := Options.has_settingsOf flag
  rw [ExposedField.ofField, read]
  change (if _ then _ else _) = _
  simp only [mark, markAll, Options.name_settingsOf]
  rfl

/-- A field is shown if it is said so, and refused if it can be written but not read. -/
theorem ExposedField.ofField_eq_ok_iff {r : Option ExposedField} :
    ExposedField.ofField (typeOptions d) f = .ok r ↔
      (Readable .field f.attributes ∧
          (f.marked .skip = false → d.writes f = true → d.reads f = true)) ∧
        (if d.shows f then some (d.exposedField f) else none) = r := by
  by_cases readable : Readable .field f.attributes
  · rw [ExposedField.ofField_eq readable, DataItem.shows]
    cases f.marked .skip <;> cases d.writes f <;> cases d.reads f <;> simp [readable]
  · refine ⟨fun made => ?_, fun ⟨⟨readable', _⟩, _⟩ => absurd readable' readable⟩
    obtain ⟨o, read, -⟩ := bind_eq_ok_iff.1 made
    exact absurd (Options.ofAttributes_eq_ok_iff.1 read).1 readable

/-- The fields that are shown are exposed, in their order. -/
theorem ExposedField.ofFields_eq_ok_iff {es : List ExposedField} :
    ExposedField.ofFields (typeOptions d) fs = .ok es ↔
      (∀ f ∈ fs, Readable .field f.attributes ∧
          (f.marked .skip = false → d.writes f = true → d.reads f = true)) ∧
        es = (fs.filter d.shows).map d.exposedField := by
  have shown : (fs.map fun f => if d.shows f then some (d.exposedField f) else none).filterMap id =
      (fs.filter d.shows).map d.exposedField := by
    rw [List.filterMap_map, ← List.filterMap_eq_map, List.filterMap_filter]
    exact List.filterMap_congr fun f _ => rfl
  simp only [ExposedField.ofFields, bind_eq_ok_iff, mapM_eq_ok_iff, pure_eq_ok_iff,
    funext₂ fun f r => propext (@ExposedField.ofField_eq_ok_iff d f r)]
  simp only [List.forall₂_and_left, ← List.forall₂_map_left_iff, List.forall₂_eq_eq_eq]
  refine ⟨?_, fun ⟨fit, same⟩ => ⟨_, ⟨fit, rfl⟩, shown.trans same.symm⟩⟩
  rintro ⟨_, ⟨fit, rfl⟩, same⟩
  exact ⟨fit, same.symm.trans shown⟩

/-! ## The type -/

/-- The fields of a declaration that has named ones or none are taken one by one, and those that are
shown stay in their order. -/
theorem ExposedField.ofShape_eq_ok_iff {es : List ExposedField} :
    ExposedField.ofShape (typeOptions d) d.shape = .ok es ↔
      (((∃ fs, d.shape = .named fs) ∨ d.shape = .unit) ∧
        ∀ f ∈ d.fields, Readable .field f.attributes ∧
          (f.marked .skip = false → d.writes f = true → d.reads f = true)) ∧
        es = (d.fields.filter d.shows).map d.exposedField := by
  unfold DataItem.fields
  cases d.shape with
  | named fs => simpa [ExposedField.ofShape] using ExposedField.ofFields_eq_ok_iff
  | unit => simp [ExposedField.ofShape]
  | positional | alternatives => simp [ExposedField.ofShape]

/-- What is said of a type is what its attributes and its fields say. -/
theorem ExposedType.exposed_eq :
    (⟨d.name, (typeOptions d).name.getD d.name,
      if (typeOptions d).has .shared then .shared else .exclusive, (typeOptions d).has .clone,
      (d.fields.filter d.shows).map d.exposedField⟩ : ExposedType) = d.exposed := by
  simp only [typeOptions, Options.has_settingsOf, Options.name_settingsOf]
  rfl

/-- What is exposed of a type is fixed by its attributes and fields. -/
theorem ExposedType.ofItem_eq_ok_iff {t : ExposedType} :
    ExposedType.ofItem d = .ok t ↔ d.Exposable ∧ t = d.exposed := by
  rw [ExposedType.ofItem]
  split_ifs with generic
  · refine ⟨nofun, fun ⟨exposable, _⟩ => ?_⟩
    cases generic.symm.trans exposable.concrete
  · simp only [bind_eq_ok_iff, Options.ofAttributes_eq_ok_iff, pure_eq_ok_iff]
    refine ⟨?_, ?_⟩
    · rintro ⟨_, ⟨readable, rfl⟩, es, fields, rfl⟩
      obtain ⟨⟨struct, fit⟩, rfl⟩ := ExposedField.ofShape_eq_ok_iff.1 fields
      exact ⟨⟨Bool.eq_false_iff.2 generic, struct, readable, fun f mem => (fit f mem).1,
        fun f mem => (fit f mem).2⟩, ExposedType.exposed_eq⟩
    · rintro ⟨⟨-, struct, readable, fields, access⟩, rfl⟩
      exact ⟨_, ⟨readable, rfl⟩, _, ExposedField.ofShape_eq_ok_iff.2 ⟨⟨struct, fun f mem =>
        ⟨fields f mem, access f mem⟩⟩, rfl⟩, ExposedType.exposed_eq⟩

/-! ## Accessors and copies -/

/-- A function that runs in a call frame. -/
def runsInFrame (name : String) (body : Trees) : Trees :=
  code "fn" ++ ident name ++ parens (code "ctx : & mut :: hostbind_core :: CallContext < '_ > ,")
    ++ code "-> :: core :: result :: Result <" ++ parens [] ++ code ", :: hostbind_core :: NativeError >"
    ++ braces body

/-- The native function of an accessor : its identity is made of the type and the name of the field. -/
def accessor (rule owner spelling function : String) (last : Trees) : Trees :=
  code ":: hostbind_core :: NativeFn :: new"
    ++ parens (code ":: hostbind_core :: TypeHash ::" ++ ident rule
      ++ parens (code "<" ++ ident owner ++ code "as :: hostbind_core :: NativeType > :: type_hash"
        ++ parens [] ++ code "," ++ [.literal spelling] ++ last)
      ++ code "," ++ ident function ++ code ",")

/-- The field of the instance behind the receiver. -/
def ownField (owner receiver : String) (f : Field) : Trees :=
  code "ctx ." ++ ident receiver ++ code ":: <" ++ ident owner ++ code ">" ++ parens [] ++ code "? ."
    ++ ident f.name

/-- The code returns a copy of the field. -/
def Fetches (owner : String) (f : Field) (name : String) (ts : Trees) : Prop :=
  ∃ spelling, Literal.text? spelling = some name ∧
    ts = runsInFrame "__get"
        (code "let value :" ++ f.type.tokens ++ code "= :: core :: clone :: Clone :: clone"
          ++ parens (code "&" ++ ownField owner "this" f)
          ++ code "; ctx . set_return" ++ parens (ident "value"))
      ++ accessor "from_field" owner spelling "__get" []

/-- The code takes the one argument and stores it in the field. -/
def Stores (owner : String) (f : Field) (name : String) (ts : Trees) : Prop :=
  ∃ spelling, Literal.text? spelling = some name ∧
    ts = runsInFrame "__set"
        (code "let value :" ++ f.type.tokens ++ code "= ctx . arg" ++ parens [.literal "0"]
          ++ code "? ;" ++ ownField owner "this_mut" f
          ++ code "= value ; :: core :: result :: Result :: Ok" ++ parens (parens []))
      ++ (code ":: core :: option :: Option :: Some"
        ++ parens (accessor "from_field_setter" owner spelling "__set" (code ",")))

/-- The code puts a copy of an instance in a place of its own. -/
def Copies (owner : String) (ts : Trees) : Prop :=
  ∃ inputs output, ts = code "fn __copy" ++ parens inputs ++ code "->" ++ output
      ++ braces (code "let value = :: core :: clone :: Clone :: clone"
        ++ parens (code "heap . get :: <" ++ ident owner ++ code ">" ++ parens (ident "handle")
          ++ code "?")
        ++ code "; heap . allocate" ++ parens (ident "value"))
      ++ (code ":: core :: option :: Option :: Some"
        ++ parens (code "__copy as :: hostbind_core :: CopyFn"))

section Accessors

variable {d : DataItem} {f : Field}

end Accessors

/-! ## The class -/

/-- What the class says of a field : its name, whether it can be written, and how it is read and
written. -/
structure FieldCode.Describes (d : DataItem) (f : Field) (c : FieldCode) : Prop where
  name : NamedBy .field f.attributes f.name c.name
  writes : c.writes = d.writes f
  getter : Fetches d.name f c.name c.getter
  setter : c.setter.isSome = d.writes f
  stores : ∀ ts ∈ c.setter, Stores d.name f c.name ts

/-- The code takes copies of instances from the host. -/
def Converts (owner : String) (ts : Trees) : Prop :=
  Occurs (code ":: hostbind_core :: convert :: object_from_host :: <" ++ ident owner ++ code ">"
    ++ parens (code "value , cx")) ts

/-- What the code says of a data type. Only a type that can be copied is taken from the host. -/
structure ClassCode.Describes (d : DataItem) (c : ClassCode) : Prop where
  traits : c.traits.map (fun t => (t.trait, t.type)) =
    (["NativeType", "HostType", "IntoHost"] ++ (if d.marked .clone then ["FromHost"] else [])
      ++ ["HasClassMeta"]).map (·, d.name)
  converts : ∀ t ∈ c.traits.find? (·.trait = "FromHost"), Converts d.name t.body
  fields : List.Forall₂ (FieldCode.Describes d) (d.fields.filter d.shows) c.fields
  copy : c.copy.isSome = d.marked .clone
  copies : ∀ ts ∈ c.copy, Copies d.name ts

section Class

section Parts

variable (owner : String) (e : ExposedField) (front : Trees)

/-- The description of a field, behind the types in it. -/
def ExposedField.parts : Trees :=
  code ", access :" ++ (e.access ++ (code ", getter :" ++ (e.getter owner ++ (code ", setter :"
    ++ ((if e.writable then e.setter owner else optional none) ++ code ",")))))

theorem ExposedField.access_parts :
    (part? "access" (front ++ e.parts owner)).bind writes? = some e.writable := by
  obtain ⟨name, hostName, type, writable⟩ := e
  cases writable <;> rw [part?_append rfl] <;> rfl

theorem ExposedField.getter_parts :
    ((part? "getter" (front ++ e.parts owner)).bind block?).join = lastGroup? (e.getter owner) := by
  obtain ⟨name, hostName, type, writable⟩ := e
  cases writable <;> rw [part?_append rfl] <;> rfl

theorem ExposedField.setter_parts :
    (part? "setter" (front ++ e.parts owner)).bind block? =
      some (if e.writable then lastGroup? (e.setter owner) else none) := by
  obtain ⟨name, hostName, type, writable⟩ := e
  cases writable <;> rw [part?_append rfl] <;> rfl

end Parts

/-- What the code of a field says. -/
def FieldCode.ofExposed (owner : String) (e : ExposedField) : FieldCode :=
  ⟨e.hostName, e.writable, (lastGroup? (e.getter owner)).getD [],
    if e.writable then lastGroup? (e.setter owner) else none⟩

theorem FieldCode.ofTrees?_tokens (owner : String) (e : ExposedField) :
    FieldCode.ofTrees? (e.tokens owner) = some (.ofExposed owner e) := by
  let front := code "name :" ++ quoted e.hostName ++ code ", kind :" ++ kindOf e.type
  have body : e.tokens owner = library "FieldMeta" ++ braces (front ++ e.parts owner) := by
    simp only [front, ExposedField.tokens, ExposedField.parts, List.append_assoc]
  have name : (labelled? "name" (front ++ e.parts owner)).bind textOf? = some e.hostName :=
    Literal.text?_ofText e.hostName
  rw [FieldCode.ofTrees?, body, lastGroup?_append_braces, Option.bind_eq_bind, Option.bind_some, name,
    e.access_parts, e.getter_parts, e.setter_parts]
  rfl

/-- What the code of a type says. -/
def ClassCode.ofExposed (t : ExposedType) : ClassCode :=
  ⟨TraitCode.listOf t.tokens, t.fields.map (.ofExposed t.name),
    if t.copies then lastGroup? t.copyCode else none⟩

section Parts

variable (t : ExposedType) (front : Trees)

/-- The description of a type, behind its identity. -/
def ExposedType.parts : Trees :=
  code ", fields :" ++ (vector (t.fields.map (·.tokens t.name)) ++ (code ", copy :"
    ++ ((if t.copies then t.copyCode else optional none) ++ code ",")))

theorem ExposedType.fields_parts :
    (part? "fields" (front ++ t.parts)).bind items? = some (t.fields.map (·.tokens t.name)) := by
  have pieces : ∀ ts ∈ t.fields.map (·.tokens t.name), ts.isPiece = true := by
    rintro _ mem
    obtain ⟨e, -, rfl⟩ := List.mem_map.1 mem
    rfl
  have found : part? "fields" (front ++ t.parts) =
      some (vector (t.fields.map (·.tokens t.name)) ++ (code ", copy :"
        ++ ((if t.copies then t.copyCode else optional none) ++ code ","))) := by
    obtain ⟨name, hostName, sharing, copies, fields⟩ := t
    cases copies <;> exact part?_append rfl front
  rw [found, Option.bind_some, items?_vector pieces]

theorem ExposedType.copy_parts :
    (part? "copy" (front ++ t.parts)).bind block? =
      some (if t.copies then lastGroup? t.copyCode else none) := by
  obtain ⟨name, hostName, sharing, copies, fields⟩ := t
  cases copies <;> rw [part?_append rfl] <;> rfl

end Parts

/-- The description of the class stands in the last trait. -/
theorem ExposedType.exists_description (t : ExposedType) :
    ∃ front description,
      (TraitCode.listOf t.tokens).find? (·.trait = "HasClassMeta") = some description ∧
        (lastGroup? description.body).bind lastGroup? = some (front ++ t.parts) := by
  let front := code "name :" ++ typeIdentity (ident t.name) "type_name" ++ code ", type_hash :"
    ++ typeIdentity (ident t.name) "type_hash" ++ code ", sharing :"
    ++ typeIdentity (ident t.name) "sharing"
  let function := functionCode "class_meta" [] (library "ClassMeta")
    (library "ClassMeta" ++ braces (front ++ t.parts))
  have last : t.classCode = implementation "HasClassMeta" t.name function := by
    simp only [front, function, ExposedType.classCode, ExposedType.parts, List.append_assoc]
  refine ⟨front, ⟨"HasClassMeta", t.name, function⟩, ?_, ?_⟩
  · rw [ExposedType.tokens, last]
    cases t.copies <;> rfl
  · simp only [function, functionCode, lastGroup?_append_braces, Option.bind_some]

/-- The code of a type is read as what it was written for. -/
theorem ClassCode.ofTrees?_tokens (t : ExposedType) :
    ClassCode.ofTrees? t.tokens = some (.ofExposed t) := by
  have read : FieldCode.ofTrees? ∘ (·.tokens t.name) = fun e => pure (.ofExposed t.name e) :=
    funext (FieldCode.ofTrees?_tokens t.name)
  obtain ⟨front, description, found, body⟩ := t.exists_description
  obtain ⟨function, last, body⟩ := Option.bind_eq_some_iff.1 body
  simp only [ClassCode.ofTrees?, Option.bind_eq_bind, found, last, body, Option.bind_some, t.fields_parts,
    t.copy_parts, List.mapM_map, read, List.mapM_pure]
  rfl

end Class

end Expansion

end NativeBridge
