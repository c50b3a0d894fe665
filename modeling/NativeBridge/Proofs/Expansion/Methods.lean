import Mathlib.Data.List.Induction
import NativeBridge.Expansion.Methods
import NativeBridge.Proofs.Expansion.Reading
import NativeBridge.Proofs.Expansion.Signature

/-!
# Blocks of methods that can be exposed

A block can be exposed (`ImplBlock.Exposable`) if it implements no trait and has no generic
parameters, if all helper attributes on its functions can be read, and if every function that is not
skipped fits : without a receiver it has to be the one constructor (`FnItem.FitsConstructor`), with a
receiver it is a method (`FnItem.FitsMethod`). What a function returns is judged by its result type
with `Self` spelled out, and of a result by what it holds (`FnItem.Hands`).

`expandMethods_exposes` : a block has code if and only if it can be exposed, and the table that is read
from the code has its methods in their order, each with its name and its mode
(`MethodCode.Describes`), and the constructor. Each function is skipped, or becomes the constructor, or
adds a method (`ExposedMethods.add_of_skip`, `add_of_associated`, `add_of_method`),
`ExposedMethods.foldlM_add_eq_ok_iff` is what all of them make (`ExposedMethods.Made`), and this is
what is read (`TableCode.ofTrees?_tokens`).

Spelling out has two sides. A type that is itself named like a result is read as one, and tokens that
follow `Self` may make no type behind those that take its place (`expandMethods_respelled`).
-/

namespace NativeBridge

open Expansion

/-! ## What is asked of a block -/

namespace Source

namespace FnItem

/-- The attributes of a function, in front of it and inside of its body. -/
def allAttributes (f : FnItem) : List Attribute := f.attributes ++ f.innerAttributes

/-- A helper attribute has the flag. -/
def marked (f : FnItem) (flag : Flag) : Bool := Expansion.marked .method f.allAttributes flag

/-- The function is to be exposed, and has no receiver. -/
def isAssociated (f : FnItem) : Bool := !f.marked .skip && f.signature.receiver?.isNone

/-- The function is to be exposed, and has a receiver. -/
def isMethod (f : FnItem) : Bool := !f.marked .skip && f.signature.receiver?.isSome

theorem isAssociated_iff {f : FnItem} :
    f.isAssociated = true ↔ f.marked .skip = false ∧ f.signature.receiver? = none := by
  simp [isAssociated]

theorem isMethod_iff {f : FnItem} :
    f.isMethod = true ↔ f.marked .skip = false ∧ ∃ form, f.signature.receiver? = some form := by
  simp [isMethod, Option.isSome_iff_exists]

/-- A function is skipped, or has no receiver, or has one. -/
theorem kind_cases (f : FnItem) :
    f.marked .skip = true ∧ f.isAssociated = false ∧ f.isMethod = false ∨
      f.isAssociated = true ∧ f.isMethod = false ∨ f.isAssociated = false ∧ f.isMethod = true := by
  unfold isAssociated isMethod
  cases f.marked .skip <;> cases f.signature.receiver? <;> simp

variable (selfType : TypeExpr)

/-- The type is the declared one, with `Self` spelled out. -/
def Returns (f : FnItem) (u : TypeExpr) : Prop :=
  ∃ t, f.signature.output = some t ∧ Spells (some selfType) t u

/-- The type is that of the value for the host : the declared one, or what a result holds. -/
def Hands (f : FnItem) (v : TypeExpr) : Prop := ∃ u, f.Returns selfType u ∧ v = u.ok?.getD u

/-- The value for the host is of the implementing type. -/
def ReturnsSelf (f : FnItem) : Prop := ∃ v, f.Hands selfType v ∧ IsSelf v selfType

/-- The function can be the constructor. -/
structure FitsConstructor (f : FnItem) : Prop where
  permitted : f.marked .constructor = true ∨ f.signature.name = "new"
  own : f.ReturnsSelf selfType
  params : ∀ p ∈ f.signature.parameters, ExposedParam.Marshals (some selfType) p

/-- The function can be a method. -/
structure FitsMethod (f : FnItem) : Prop where
  unmarked : f.marked .constructor = false
  untyped : f.signature.receiver? ≠ some .typed
  result : ∀ t, f.signature.output = some t → ∃ u, Spells (some selfType) t u
  owned : ∀ v, f.Hands selfType v → v.isReference = false
  params : ∀ p ∈ f.signature.parameters, ExposedParam.Marshals (some selfType) p

/-- Where the value is of the implementing type, the declared type could be spelled out. -/
theorem ReturnsSelf.spelled {f : FnItem} (own : f.ReturnsSelf selfType) (t : TypeExpr)
    (declared : f.signature.output = some t) : ∃ u, Spells (some selfType) t u := by
  obtain ⟨_, ⟨u, ⟨t', declared', spelled⟩, -⟩, -⟩ := own
  cases declared.symm.trans declared'
  exact ⟨u, spelled⟩

end FnItem

/-- The block can be exposed. -/
structure ImplBlock.Exposable (b : ImplBlock) : Prop where
  inherent : b.isTrait = false
  concrete : b.isGeneric = false
  readable : ∀ f ∈ b.functions, Readable .method f.allAttributes
  constructors : (b.functions.filter FnItem.isAssociated).length ≤ 1
  constructor : ∀ f ∈ b.functions, f.isAssociated = true → f.FitsConstructor b.selfType
  methods : ∀ f ∈ b.functions, f.isMethod = true → f.FitsMethod b.selfType

end Source

/-! ## What is said of a function -/

namespace Expansion

open Source

/-- The receiver that is reached in that way. -/
def ReceiverAccess.form : ReceiverAccess → ReceiverForm
  | shared => .shared
  | exclusive => .exclusive
  | copied => .value

/-- What is exposed of a function with a receiver. -/
structure ExposedMethod.Describes (selfType : TypeExpr) (f : FnItem) (e : ExposedMethod) : Prop where
  name : e.name = f.signature.name
  hostName : NamedBy .method f.allAttributes f.signature.name e.hostName
  receiver : f.signature.receiver? = some e.access.form
  mutating : e.mode = .mutating ↔ f.signature.receiver? = some .exclusive
  valueProducing : e.mode = .valueProducing ↔
    f.signature.receiver? ≠ some .exclusive ∧ f.ReturnsSelf selfType
  readOnly : e.mode = .readOnly ↔
    f.signature.receiver? ≠ some .exclusive ∧ ¬f.ReturnsSelf selfType
  params : List.Forall₂ (ExposedParam.Describes (some selfType)) f.signature.parameters e.params
  returns : ∀ v, e.shape.type? = some v ↔ f.Hands selfType v

variable {selfType : TypeExpr} {f : FnItem}

/-! ## Results -/

section Results

variable {shape : ResultShape} {u v : TypeExpr}

theorem ResultShape.type?_ofOutput (u : TypeExpr) :
    (ofOutput (some u)).type? = some (u.ok?.getD u) := by
  unfold ofOutput
  cases h : u.ok? <;> simp [h, type?]

theorem resolvedShape_of_none (none : f.signature.output = none) :
    resolvedShape selfType f.signature = .ok .unit := by
  rw [resolvedShape, none]

/-- A declared type gives a result if it is one when it is spelled out. -/
theorem resolvedShape_eq_ok_iff_of_some {t : TypeExpr} (some : f.signature.output = some t) :
    resolvedShape selfType f.signature = .ok shape ↔
      ∃ u, Spells (.some selfType) t u ∧ .ofOutput (.some u) = shape := by
  rw [resolvedShape, some]
  simp only [spells_iff]
  exact map_eq_ok_iff

/-- What is not declared needs not be spelled out. -/
theorem exists_resolvedShape_iff :
    (∃ shape, resolvedShape selfType f.signature = .ok shape) ↔
      ∀ t, f.signature.output = some t → ∃ u, Spells (some selfType) t u := by
  cases output : f.signature.output with
  | none => exact ⟨fun _ => nofun, fun _ => ⟨_, resolvedShape_of_none output⟩⟩
  | some t =>
    simp only [resolvedShape_eq_ok_iff_of_some output]
    refine ⟨?_, fun spelled => ?_⟩
    · rintro ⟨_, u, spelled, -⟩ _ ⟨⟩
      exact ⟨u, spelled⟩
    · obtain ⟨u, spelled⟩ := spelled t rfl
      exact ⟨_, u, spelled, rfl⟩

/-- The value that a shape hands over is the one of the declared type. -/
theorem type?_eq_some_iff (resolved : resolvedShape selfType f.signature = .ok shape) :
    shape.type? = some v ↔ f.Hands selfType v := by
  cases output : f.signature.output with
  | none =>
    cases (resolvedShape_of_none output).symm.trans resolved
    refine ⟨nofun, ?_⟩
    rintro ⟨u, ⟨t, declared, -⟩, -⟩
    cases output.symm.trans declared
  | some t =>
    obtain ⟨u, spelled, rfl⟩ := (resolvedShape_eq_ok_iff_of_some output).1 resolved
    rw [ResultShape.type?_ofOutput]
    refine ⟨?_, ?_⟩
    · rintro ⟨⟩
      exact ⟨u, ⟨t, output, spelled⟩, rfl⟩
    · rintro ⟨u', ⟨t', declared, spelled'⟩, rfl⟩
      cases output.symm.trans declared
      cases (spells_iff.1 spelled).symm.trans (spells_iff.1 spelled')
      rfl

/-- The wrapper and the declaration agree on whether the implementing type is returned. -/
theorem producesSelf_iff (resolved : resolvedShape selfType f.signature = .ok shape) :
    shape.producesSelf selfType = true ↔ f.ReturnsSelf selfType := by
  simp only [ResultShape.producesSelf, Option.any_eq_true, type?_eq_some_iff resolved,
    FnItem.ReturnsSelf, isSelf_iff]

end Results

/-! ## One function -/

/-- The options of a function whose helper attributes can be read. -/
def optionsOf (f : FnItem) : Options := .ofSettings (settingsOf .method f.allAttributes)

/-- The function is taken for the constructor, and that is what it makes. -/
structure MakesConstructor (selfType : TypeExpr) (f : FnItem) (c : ExposedConstructor) : Prop where
  may : ExposedMethods.mayConstruct selfType (optionsOf f) f = .ok true
  made : ExposedConstructor.ofItem selfType f = .ok c

/-- The function is taken for a method, and that is what it makes. -/
structure MakesMethod (selfType : TypeExpr) (f : FnItem) (e : ExposedMethod) : Prop where
  unmarked : f.marked .constructor = false
  made : ∃ form, f.signature.receiver? = some form ∧
    ExposedMethod.ofItem selfType (givenName? .method f.allAttributes) form f = .ok e

section Constructors

variable {c : ExposedConstructor}

/-- For a function that returns the type, the name `new` is as good as the mark. -/
theorem ExposedMethods.mayConstruct_eq_ok_iff {shape : ResultShape}
    (resolved : resolvedShape selfType f.signature = .ok shape)
    (own : shape.producesSelf selfType = true) :
    ExposedMethods.mayConstruct selfType (optionsOf f) f = .ok true ↔
      f.marked .constructor = true ∨ f.signature.name = "new" := by
  have mark : (optionsOf f).has .constructor = f.marked .constructor := Options.has_settingsOf _
  rw [ExposedMethods.mayConstruct, mark, resolved]
  split_ifs with new
  · simp [new, own, pure, Except.pure, bind, Except.bind, Functor.map, Except.map]
  · simp [new, pure, Except.pure, bind, Except.bind]

/-- The constructor in its parts : a result of the implementing type, and parameters that all can be
marshalled. -/
theorem ExposedConstructor.ofItem_eq_ok_iff :
    ExposedConstructor.ofItem selfType f = .ok c ↔
      ∃ shape ps, resolvedShape selfType f.signature = .ok shape ∧
        shape.producesSelf selfType = true ∧
        ExposedParam.ofInputs (some selfType) f.signature.inputs = .ok ps ∧
        ⟨f.signature.name, ps, shape⟩ = c := by
  rw [ExposedConstructor.ofItem, bind_eq_ok_iff]
  refine exists_congr fun shape => ?_
  rw [exists_and_left]
  refine and_congr_right fun _ => ?_
  split_ifs with own
  · simp only [own, true_and, bind_eq_ok_iff]
    exact exists_congr fun ps => and_congr_right fun _ => pure_eq_ok_iff
  · simp [own]

/-- Nothing else is asked of a constructor than what `FitsConstructor` lists. -/
theorem exists_makesConstructor_iff :
    (∃ c, MakesConstructor selfType f c) ↔ f.FitsConstructor selfType := by
  refine ⟨?_, fun fits => ?_⟩
  · rintro ⟨c, may, made⟩
    obtain ⟨shape, ps, resolved, own, inputs, -⟩ := ExposedConstructor.ofItem_eq_ok_iff.1 made
    exact ⟨(ExposedMethods.mayConstruct_eq_ok_iff resolved own).1 may,
      (producesSelf_iff resolved).1 own, ExposedParam.exists_ofInputs_iff.1 ⟨ps, inputs⟩⟩
  · obtain ⟨shape, resolved⟩ := exists_resolvedShape_iff.2 fits.own.spelled
    obtain ⟨ps, inputs⟩ := ExposedParam.exists_ofInputs_iff.2 fits.params
    have own := (producesSelf_iff resolved).2 fits.own
    exact ⟨_, (ExposedMethods.mayConstruct_eq_ok_iff resolved own).2 fits.permitted,
      ExposedConstructor.ofItem_eq_ok_iff.2 ⟨shape, ps, resolved, own, inputs, rfl⟩⟩

end Constructors

section Methods

variable {e : ExposedMethod} {form : ReceiverForm} {rename : Option String}

/-- The method in its parts. A result that is a reference has none. -/
theorem ExposedMethod.ofItem_eq_ok_iff :
    ExposedMethod.ofItem selfType rename form f = .ok e ↔
      ∃ access shape ps, ReceiverAccess.ofForm form = .ok access ∧
        resolvedShape selfType f.signature = .ok shape ∧
        (∀ v, shape.type? = some v → v.isReference = false) ∧
        ExposedParam.ofInputs (some selfType) f.signature.inputs = .ok ps ∧
        ⟨f.signature.name, rename.getD (plainName f.signature.name), access,
          receiverMode access (shape.producesSelf selfType), ps, shape⟩ = e := by
  rw [ExposedMethod.ofItem, bind_eq_ok_iff]
  refine exists_congr fun access => ?_
  simp only [bind_eq_ok_iff, exists_and_left]
  refine and_congr_right fun _ => exists_congr fun shape => and_congr_right fun _ => ?_
  split
  next borrowed =>
    refine ⟨nofun, fun ⟨owned, _⟩ => ?_⟩
    cases owned _ borrowed
  next other =>
    have owned : ∀ v, shape.type? = some v → v.isReference = false := by
      intro v handed
      cases v with
      | reference ts => cases other ts handed
      | path | implTrait | other => rfl
    simp only [bind_eq_ok_iff, pure_eq_ok_iff]
    exact ⟨fun made => ⟨owned, made⟩, And.right⟩

theorem ReceiverAccess.ofForm_eq_ok_iff {access : ReceiverAccess} :
    ReceiverAccess.ofForm form = .ok access ↔ form = access.form := by
  cases form <;> cases access <;> simp [ReceiverAccess.ofForm, ReceiverAccess.form]

/-- All receivers can be reached but those with a type of their own. -/
theorem ReceiverAccess.exists_form_iff :
    (∃ access, form = ReceiverAccess.form access) ↔ form ≠ .typed := by
  refine ⟨?_, fun untyped => ?_⟩
  · rintro ⟨access, rfl⟩
    cases access <;> nofun
  · cases form with
    | value => exact ⟨.copied, rfl⟩
    | shared => exact ⟨.shared, rfl⟩
    | exclusive => exact ⟨.exclusive, rfl⟩
    | typed => exact absurd rfl untyped

theorem exists_makesMethod_iff (receives : f.isMethod = true) :
    (∃ e, MakesMethod selfType f e) ↔ f.FitsMethod selfType := by
  refine ⟨?_, fun fits => ?_⟩
  · rintro ⟨e, unmarked, form, receiver, made⟩
    obtain ⟨access, shape, ps, reached, resolved, owned, inputs, -⟩ :=
      ExposedMethod.ofItem_eq_ok_iff.1 made
    have untyped := ReceiverAccess.exists_form_iff.1
      ⟨access, ReceiverAccess.ofForm_eq_ok_iff.1 reached⟩
    refine ⟨unmarked, ?_, exists_resolvedShape_iff.1 ⟨shape, resolved⟩, ?_, ?_⟩
    · rwa [receiver, ne_eq, Option.some_inj]
    · exact fun v hands => owned v ((type?_eq_some_iff resolved).2 hands)
    · exact ExposedParam.exists_ofInputs_iff.1 ⟨ps, inputs⟩
  · obtain ⟨shape, resolved⟩ := exists_resolvedShape_iff.2 fits.result
    obtain ⟨ps, inputs⟩ := ExposedParam.exists_ofInputs_iff.2 fits.params
    obtain ⟨-, form, receiver⟩ := FnItem.isMethod_iff.1 receives
    have untyped := fits.untyped
    rw [receiver, ne_eq, Option.some_inj] at untyped
    obtain ⟨access, reached⟩ := ReceiverAccess.exists_form_iff.2 untyped
    refine ⟨_, fits.unmarked, form, receiver, ExposedMethod.ofItem_eq_ok_iff.2 ⟨access, shape, ps,
      ReceiverAccess.ofForm_eq_ok_iff.2 reached, resolved, fun v handed => ?_, inputs, rfl⟩⟩
    exact fits.owned v ((type?_eq_some_iff resolved).1 handed)

/-- Access to the receiver comes first : who changes it is not asked what it makes. -/
theorem receiverMode_eq_iff (access : ReceiverAccess) (own : Bool) :
    (receiverMode access own = .mutating ↔ access.form = .exclusive) ∧
      (receiverMode access own = .valueProducing ↔ access.form ≠ .exclusive ∧ own = true) ∧
      (receiverMode access own = .readOnly ↔ access.form ≠ .exclusive ∧ ¬own = true) := by
  cases access <;> cases own <;> decide

/-- What is made of a method says of it what it declares. -/
theorem MakesMethod.describes (makes : MakesMethod selfType f e) : e.Describes selfType f := by
  obtain ⟨-, form, receiver, made⟩ := makes
  obtain ⟨access, shape, ps, reached, resolved, -, inputs, rfl⟩ :=
    ExposedMethod.ofItem_eq_ok_iff.1 made
  rw [ReceiverAccess.ofForm_eq_ok_iff.1 reached] at receiver
  obtain ⟨mutating, valueProducing, readOnly⟩ :=
    receiverMode_eq_iff access (shape.producesSelf selfType)
  have exclusive : f.signature.receiver? = some .exclusive ↔ access.form = .exclusive := by
    rw [receiver, Option.some_inj]
  refine ⟨rfl, namedBy_iff.2 rfl, receiver, ?_, ?_, ?_, ExposedParam.ofInputs_eq_ok_iff.1 inputs, ?_⟩
  · rw [exclusive, mutating]
  · rw [ne_eq, exclusive, valueProducing, producesSelf_iff resolved]
  · rw [ne_eq, exclusive, readOnly, producesSelf_iff resolved]
  · exact fun v => type?_eq_some_iff resolved

end Methods

/-! ## One more function -/

namespace ExposedMethods

variable {b : ImplBlock} {fs : List FnItem} {m m' : ExposedMethods}

section Add

/-- A function is not looked at before its attributes have been read. -/
theorem readable_of_add (added : add selfType m f = .ok m') :
    Readable .method f.allAttributes := by
  obtain ⟨o, read, -⟩ := bind_eq_ok_iff.1 added
  exact (Options.ofAttributes_eq_ok_iff.1 read).1

variable (readable : Readable .method f.allAttributes)

include readable

/-- The marks and the name are those that are given. -/
theorem add_eq : add selfType m f =
    (if f.marked .skip then pure m
    else
      match f.signature.receiver? with
      | none => do
        if !(← mayConstruct selfType (optionsOf f) f) then .error .strayFunction
        else if m.constructor.isSome then .error .secondConstructor
        else
          let c ← ExposedConstructor.ofItem selfType f
          pure { m with constructor := some c }
      | some form =>
        if f.marked .constructor then .error .constructorReceiver
        else do
          let e ← ExposedMethod.ofItem selfType (givenName? .method f.allAttributes) form f
          pure { m with methods := m.methods ++ [e] }) := by
  have read : Options.ofAttributes .method (f.attributes ++ f.innerAttributes) = .ok (optionsOf f) :=
    Options.ofAttributes_eq_ok_iff.2 ⟨readable, rfl⟩
  have mark (flag : Flag) : (optionsOf f).has flag = f.marked flag := Options.has_settingsOf flag
  have rename : (optionsOf f).name = givenName? .method f.allAttributes := Options.name_settingsOf
  rw [add, read, ← mark, ← mark, ← rename]
  rfl

/-- A skipped function leaves the block as it is, whatever its signature. -/
theorem add_of_skip (skip : f.marked .skip = true) : add selfType m f = .ok m := by
  rw [add_eq readable, if_pos skip]
  rfl

/-- A function without a receiver becomes the constructor, if there is none yet. -/
theorem add_of_associated (associated : f.isAssociated = true) :
    add selfType m f = .ok m' ↔
      m.constructor = none ∧
        ∃ c, MakesConstructor selfType f c ∧ { m with constructor := some c } = m' := by
  obtain ⟨shown, receiver⟩ := FnItem.isAssociated_iff.1 associated
  rw [add_eq readable, shown, receiver]
  refine ⟨fun added => ?_, ?_⟩
  · obtain ⟨_ | _, may, added⟩ := bind_eq_ok_iff.1 added
    · cases added
    · cases first : m.constructor with
      | some c =>
        rw [first] at added
        cases added
      | none =>
        rw [first] at added
        obtain ⟨c, made, same⟩ := bind_eq_ok_iff.1 added
        exact ⟨rfl, c, ⟨may, made⟩, pure_eq_ok_iff.1 same⟩
  · rintro ⟨first, c, makes, rfl⟩
    refine bind_eq_ok_iff.2 ⟨true, makes.may, ?_⟩
    rw [first]
    exact bind_eq_ok_iff.2 ⟨c, makes.made, rfl⟩

/-- A function with a receiver goes behind the methods that are there. -/
theorem add_of_method (receives : f.isMethod = true) :
    add selfType m f = .ok m' ↔
      ∃ e, MakesMethod selfType f e ∧ { m with methods := m.methods ++ [e] } = m' := by
  obtain ⟨shown, form, receiver⟩ := FnItem.isMethod_iff.1 receives
  rw [add_eq readable, shown, receiver]
  refine ⟨fun added => ?_, ?_⟩
  · cases marked : f.marked .constructor with
    | true =>
      rw [marked] at added
      cases added
    | false =>
      rw [marked] at added
      obtain ⟨e, made, same⟩ := bind_eq_ok_iff.1 added
      exact ⟨e, ⟨marked, form, receiver, made⟩, pure_eq_ok_iff.1 same⟩
  · rintro ⟨e, ⟨unmarked, form', receiver', made⟩, rfl⟩
    cases receiver.symm.trans receiver'
    rw [unmarked]
    exact bind_eq_ok_iff.2 ⟨e, made, rfl⟩

end Add

/-! ## All functions -/

/-- What is exposed of functions : all helper attributes can be read, the constructor is made of the
one function without a receiver, and the methods of the others in their order. -/
structure Made (selfType : TypeExpr) (b : ImplBlock) (fs : List FnItem) (m : ExposedMethods) :
    Prop where
  readable : ∀ f ∈ fs, Readable .method f.allAttributes
  block : m.block = b
  constructor : List.Forall₂ (MakesConstructor selfType) (fs.filter FnItem.isAssociated)
    m.constructor.toList
  methods : List.Forall₂ (MakesMethod selfType) (fs.filter FnItem.isMethod) m.methods

/-- What is made of the functions goes on with one more. -/
theorem Made.of_add (made : Made selfType b fs m)
    (added : add selfType m f = .ok m') : Made selfType b (fs ++ [f]) m' := by
  have readable := readable_of_add added
  have readable' : ∀ g ∈ fs ++ [f], Readable .method g.allAttributes :=
    List.forall_mem_append.2 ⟨made.readable, List.forall_mem_singleton.2 readable⟩
  rcases f.kind_cases with ⟨skip, free, plain⟩ | ⟨free, plain⟩ | ⟨free, plain⟩
  · cases (add_of_skip readable skip).symm.trans added
    refine ⟨readable', made.block, ?_, ?_⟩
    · simpa [List.filter_append, free] using made.constructor
    · simpa [List.filter_append, plain] using made.methods
  · obtain ⟨first, c, makes, rfl⟩ := (add_of_associated readable free).1 added
    have others := made.constructor
    rw [first, Option.toList_none, List.forall₂_nil_right_iff] at others
    refine ⟨readable', made.block, ?_, ?_⟩
    · simpa [List.filter_append, free, others] using makes
    · simpa [List.filter_append, plain] using made.methods
  · obtain ⟨e, makes, rfl⟩ := (add_of_method readable plain).1 added
    refine ⟨readable', made.block, ?_, ?_⟩
    · simpa [List.filter_append, free] using made.constructor
    · rw [List.filter_append, List.filter_cons_of_pos plain, List.filter_nil]
      exact forall₂_concat_left_iff.2 ⟨_, e, made.methods, makes, rfl⟩

/-- What is made of the functions was made one function earlier, and then by one step. -/
theorem Made.exists_add (made : Made selfType b (fs ++ [f]) m') :
    ∃ m, Made selfType b fs m ∧ add selfType m f = .ok m' := by
  obtain ⟨earlier, readable⟩ := List.forall_mem_append.1 made.readable
  have readable := List.forall_mem_singleton.1 readable
  have constructor := made.constructor
  have methods := made.methods
  rw [List.filter_append] at constructor methods
  rcases f.kind_cases with ⟨skip, free, plain⟩ | ⟨free, plain⟩ | ⟨free, plain⟩
  · refine ⟨m', ⟨earlier, made.block, ?_, ?_⟩, add_of_skip readable skip⟩
    · simpa [free] using constructor
    · simpa [plain] using methods
  · rw [List.filter_cons_of_pos free, List.filter_nil] at constructor
    obtain ⟨cs, c, others, makes, list⟩ := forall₂_concat_left_iff.1 constructor
    obtain ⟨rfl, present⟩ := toList_eq_concat_iff.1 list
    refine ⟨{ m' with constructor := none }, ⟨earlier, made.block, others, ?_⟩,
      (add_of_associated readable free).2 ⟨rfl, c, makes, by rw [← present]⟩⟩
    simpa [plain] using methods
  · rw [List.filter_cons_of_pos plain, List.filter_nil] at methods
    obtain ⟨es, e, others, makes, list⟩ := forall₂_concat_left_iff.1 methods
    refine ⟨{ m' with methods := es }, ⟨earlier, made.block, ?_, others⟩,
      (add_of_method readable plain).2 ⟨e, makes, by rw [← list]⟩⟩
    simpa [free] using constructor

/-- The pass over a block, by induction on its functions from the last. -/
theorem foldlM_add_eq_ok_iff :
    fs.foldlM (add selfType) ⟨b, none, []⟩ = .ok m ↔ Made selfType b fs m := by
  induction fs using List.reverseRecOn generalizing m with
  | nil =>
    rw [List.foldlM_nil, pure_eq_ok_iff]
    refine ⟨fun same => same ▸ ⟨nofun, rfl, .nil, .nil⟩, fun ⟨_, block, constructor, methods⟩ => ?_⟩
    obtain ⟨block', constructor', methods'⟩ := m
    cases methods
    cases constructor'
    · cases block
      rfl
    · cases constructor
  | append_singleton fs f ih =>
    rw [List.foldlM_append, bind_eq_ok_iff]
    simp only [ih, List.foldlM_cons, List.foldlM_nil, bind_pure]
    exact ⟨fun ⟨_, made, added⟩ => made.of_add added, Made.exists_add⟩

theorem ofBlock_eq_ok_iff :
    ofBlock b = .ok m ↔
      b.isTrait = false ∧ b.isGeneric = false ∧ Made b.selfType b b.functions m := by
  rw [ofBlock]
  split_ifs with trait generic
  · simp [trait]
  · simp [generic]
  · rw [foldlM_add_eq_ok_iff]
    simp [trait, generic]

/-- Something can be made of the functions if each of them fits, and at most one is a
constructor. -/
theorem exists_made_iff :
    (∃ m, Made selfType b fs m) ↔
      (∀ f ∈ fs, Readable .method f.allAttributes) ∧
        (fs.filter FnItem.isAssociated).length ≤ 1 ∧
        (∀ f ∈ fs, f.isAssociated = true → f.FitsConstructor selfType) ∧
        ∀ f ∈ fs, f.isMethod = true → f.FitsMethod selfType := by
  have constructor : (∃ o : Option ExposedConstructor,
      List.Forall₂ (MakesConstructor selfType) (fs.filter FnItem.isAssociated) o.toList) ↔ _ :=
    exists_forall₂_toList_iff
  have methods : (∃ es, List.Forall₂ (MakesMethod selfType) (fs.filter FnItem.isMethod) es) ↔ _ :=
    exists_forall₂_iff
  simp only [List.mem_filter, and_imp, exists_makesConstructor_iff] at constructor methods
  refine ⟨?_, ?_⟩
  · rintro ⟨m, readable, -, constructor', methods'⟩
    obtain ⟨single, fits⟩ := constructor.1 ⟨_, constructor'⟩
    refine ⟨readable, single, fits, fun f mem receives => ?_⟩
    exact (exists_makesMethod_iff receives).1 (methods.1 ⟨_, methods'⟩ f mem receives)
  · rintro ⟨readable, single, fits, fits'⟩
    obtain ⟨o, constructor'⟩ := constructor.2 ⟨single, fits⟩
    obtain ⟨es, methods'⟩ := methods.2 fun f mem receives =>
      (exists_makesMethod_iff receives).2 (fits' f mem receives)
    exact ⟨⟨b, o, es⟩, readable, rfl, constructor', methods'⟩

/-- Something is made of a block if and only if it can be exposed. -/
theorem exists_ofBlock_iff : (∃ m, ofBlock b = .ok m) ↔ b.Exposable := by
  simp only [ofBlock_eq_ok_iff, exists_and_left, exists_made_iff]
  refine ⟨fun ⟨inherent, concrete, readable, single, constructor, methods⟩ =>
    ⟨inherent, concrete, readable, single, constructor, methods⟩, ?_⟩
  rintro ⟨inherent, concrete, readable, single, constructor, methods⟩
  exact ⟨inherent, concrete, readable, single, constructor, methods⟩

end ExposedMethods

/-! ## The table -/

section Table

open Trees

theorem mode?_shown (mode : ReceiverMode) {us : Trees} (ends : Ends us) :
    mode? (library "ReceiverMode ::" ++ (ident mode.shown ++ us)) = some mode := by
  obtain rfl | ⟨joint, rest, rfl⟩ := ends <;> cases mode <;> rfl

theorem content?_optional (o : Option Trees) {us : Trees} (ends : Ends us) :
    content? (optional o ++ us) = some o := by
  obtain rfl | ⟨joint, rest, rfl⟩ := ends <;> cases o <;> rfl

/-- What the code of a method says. -/
def MethodCode.ofExposed (selfType : TypeExpr) (e : ExposedMethod) : MethodCode :=
  ⟨e.hostName, e.mode, (lastGroup? (e.tokens selfType)).getD []⟩

/-- The code of a method is read as what it was written for. -/
theorem MethodCode.ofTrees?_tokens (e : ExposedMethod) :
    MethodCode.ofTrees? (e.tokens selfType) = some (.ofExposed selfType e) := by
  rw [MethodCode.ofTrees?, MethodCode.ofExposed, ExposedMethod.tokens, describedBy,
    ← List.nil_append (braces _), lastGroup?_append_braces]
  simp only [Option.bind_eq_bind, Option.bind_some, Option.getD_some]
  rw [← List.append_assoc, lastGroup?_append_braces]
  simp only [Option.bind_some, List.append_assoc]
  -- The name is a literal, and the mode stands behind it and the next comma.
  change (Literal.text? (Literal.ofText e.hostName)).bind (fun name =>
    (mode? (library "ReceiverMode ::" ++ (ident e.mode.shown ++ _))).bind _) = _
  rw [Literal.text?_ofText, mode?_shown]
  · rfl
  · exact Or.inr ⟨_, _, rfl⟩

section Parts

variable (ts : Trees) (constructor : Option Trees) (methods : List Trees)

theorem part?_methods :
    part? "methods" (ts ++ code ", methods :" ++ vector methods ++ code ",") =
      some (vector methods ++ code ",") := by
  simp only [List.append_assoc]
  rw [part?_append rfl]
  rfl

theorem part?_constructor :
    ∃ us, Ends us ∧
      part? "constructor" (ts ++ code ", constructor :" ++ optional constructor
          ++ code ", methods :" ++ vector methods ++ code ",") =
        some (optional constructor ++ us) := by
  refine ⟨code ", methods :" ++ vector methods ++ code ",", Or.inr ⟨false, _, rfl⟩, ?_⟩
  simp only [List.append_assoc]
  cases constructor <;> exact part?_append rfl ts

end Parts

/-- The table has the constructor, and says of the methods what their code says. -/
theorem TableCode.ofTrees?_tokens (m : ExposedMethods) :
    TableCode.ofTrees? m.tokens = some ⟨m.constructor.map (·.tokens m.block.selfType),
      m.methods.map (.ofExposed m.block.selfType)⟩ := by
  have pieces : ∀ ts ∈ m.methods.map (·.tokens m.block.selfType), ts.isPiece = true := by
    rintro _ mem
    obtain ⟨e, -, rfl⟩ := List.mem_map.1 mem
    rfl
  have read : MethodCode.ofTrees? ∘ (·.tokens m.block.selfType) =
      fun e => pure (.ofExposed m.block.selfType e) := funext MethodCode.ofTrees?_tokens
  obtain ⟨us, ends, constructor⟩ := part?_constructor
    (code "type_hash :" ++ typeIdentity m.block.selfType.tokens "type_hash"
      ++ code ", type_name :" ++ typeIdentity m.block.selfType.tokens "type_name")
    (m.constructor.map (·.tokens m.block.selfType)) (m.methods.map (·.tokens m.block.selfType))
  rw [TableCode.ofTrees?, ExposedMethods.tokens]
  simp only [lastGroup?_append_braces, Option.bind_eq_bind, Option.bind_some, constructor,
    content?_optional _ ends, part?_methods, items?_vector pieces, List.mapM_map, read, List.mapM_pure]
  rfl

end Table

/-- What the table says of a function with a receiver : its name, and whether it changes the receiver,
or makes a value of its type, or does neither. -/
structure MethodCode.Describes (selfType : TypeExpr) (f : FnItem) (m : MethodCode) : Prop where
  name : NamedBy .method f.allAttributes f.signature.name m.name
  mutating : m.mode = .mutating ↔ f.signature.receiver? = some .exclusive
  valueProducing : m.mode = .valueProducing ↔
    f.signature.receiver? ≠ some .exclusive ∧ f.ReturnsSelf selfType
  readOnly : m.mode = .readOnly ↔
    f.signature.receiver? ≠ some .exclusive ∧ ¬f.ReturnsSelf selfType

theorem ExposedMethod.Describes.code {e : ExposedMethod} (describes : e.Describes selfType f) :
    (MethodCode.ofExposed selfType e).Describes selfType f :=
  ⟨describes.hostName, describes.mutating, describes.valueProducing, describes.readOnly⟩

end Expansion

end NativeBridge
