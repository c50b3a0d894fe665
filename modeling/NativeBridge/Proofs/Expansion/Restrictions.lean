import NativeBridge.Expansion.Function
import NativeBridge.Proofs.Expansion.Methods

/-!
# Async and generic functions

A free function cannot be exposed if it is async or has generic parameters
(`exists_expandFunction_iff`). Nothing of the kind is asked of the functions in a block of methods :
whether they are async or generic makes no difference to what is exposed of the block, nor to why
nothing is (`ExposedMethods.ofBlock_unqualified`).

A wrapper drops what its call gives (`ResultShape.Drops`) if and only if it is that of a method that
declares no result (`MakesMethod.drops_iff`). Of an async method that is the future, which never runs.
`expand_restrictions` puts this together.
-/

namespace NativeBridge

open Expansion

namespace Source

/-- The function is neither async nor generic. -/
structure FnItem.IsPlain (f : FnItem) : Prop where
  sync : f.signature.isAsync = false
  concrete : f.signature.isGeneric = false

theorem FnItem.isPlain_iff {f : FnItem} :
    f.IsPlain ↔ f.signature.isAsync = false ∧ f.signature.isGeneric = false :=
  ⟨fun plain => ⟨plain.sync, plain.concrete⟩, fun ⟨sync, concrete⟩ => ⟨sync, concrete⟩⟩

/-- The functions that are not skipped are neither async nor generic. -/
def ImplBlock.ExposesPlain (b : ImplBlock) : Prop :=
  ∀ f ∈ b.functions, f.marked .skip = false → f.IsPlain

/-- The function as one that is neither async nor generic. -/
def FnItem.unqualified (f : FnItem) : FnItem :=
  { f with signature := { f.signature with isAsync := false, isGeneric := false } }

def ImplItem.unqualified : ImplItem → ImplItem
  | function f => .function f.unqualified
  | item => item

/-- The block with all its functions neither async nor generic. -/
def ImplBlock.unqualified (b : ImplBlock) : ImplBlock :=
  { b with items := b.items.map ImplItem.unqualified }

theorem ImplBlock.functions_unqualified (b : ImplBlock) :
    b.unqualified.functions = b.functions.map FnItem.unqualified := by
  obtain ⟨isTrait, isGeneric, selfType, header, inner, items⟩ := b
  simp only [functions, unqualified, List.filterMap_map, List.map_filterMap]
  refine List.filterMap_congr fun item _ => ?_
  cases item <;> rfl

end Source

namespace Expansion

open Source Trees ResultShape

/-! ## Free functions -/

/-- A function on its own is asked for more than one in a block : it must be plain. -/
theorem exists_expandFunction_iff {options : Options} {f : FnItem} :
    (∃ ts, expandFunction options f = .ok ts) ↔
      f.IsPlain ∧ f.signature.receiver? = none ∧
        ∀ p ∈ f.signature.parameters, ExposedParam.Marshals none p := by
  rw [Signature.parameters, ← ExposedParam.exists_ofInputs_iff, FnItem.isPlain_iff]
  simp only [expandFunction, map_eq_ok_iff, ExposedFunction.ofItem]
  cases f.signature.isAsync with
  | true => simp
  | false =>
    cases f.signature.isGeneric with
    | true => simp
    | false =>
      cases f.signature.receiver? with
      | some form => simp
      | none =>
        simp only [Bool.false_eq_true, if_false, Option.isSome_none, true_and, bind_eq_ok_iff,
          pure_eq_ok_iff]
        refine ⟨fun ⟨_, _, ⟨ps, inputs, _⟩, _⟩ => ⟨ps, inputs⟩, fun ⟨ps, inputs⟩ => ?_⟩
        exact ⟨_, _, ⟨ps, inputs, rfl⟩, rfl⟩

/-! ## Functions of a block -/

namespace ExposedMethods

variable {selfType : TypeExpr}

/-- The same table for another block. -/
def inBlock (b : ImplBlock) (m : ExposedMethods) : ExposedMethods := { m with block := b }

theorem add_unqualified (m : ExposedMethods) (f : FnItem) :
    add selfType m f.unqualified = add selfType m f := rfl

/-- What a function adds does not depend on the rest of the block. -/
theorem add_block (b : ImplBlock) (m : ExposedMethods) (f : FnItem) :
    add selfType (m.inBlock b) f = inBlock b <$> add selfType m f := by
  unfold add inBlock
  cases Options.ofAttributes .method (f.attributes ++ f.innerAttributes) with
  | error e => rfl
  | ok o =>
    change (if o.has .skip = true then _ else _) = _ <$> (if o.has .skip = true then _ else _)
    cases o.has .skip with
    | true => rfl
    | false =>
      simp only [Bool.false_eq_true, if_false]
      cases f.signature.receiver? with
      | none =>
        cases mayConstruct selfType o f with
        | error e => rfl
        | ok may =>
          cases may with
          | false => rfl
          | true =>
            cases m.constructor with
            | none => cases ExposedConstructor.ofItem selfType f <;> rfl
            | some c => rfl
      | some form =>
        cases o.has .constructor with
        | true => rfl
        | false =>
          simp only [Bool.false_eq_true, if_false]
          cases ExposedMethod.ofItem selfType o.name form f <;> rfl

/-- No step of the pass over a block sees whether a function is async or generic. By induction on
the functions. -/
theorem foldlM_add_unqualified (b : ImplBlock) (fs : List FnItem) (m : ExposedMethods) :
    (fs.map FnItem.unqualified).foldlM (add selfType) (m.inBlock b) =
      inBlock b <$> fs.foldlM (add selfType) m := by
  induction fs generalizing m with
  | nil => rfl
  | cons f fs ih =>
    rw [List.map_cons, List.foldlM_cons, List.foldlM_cons, add_unqualified, add_block]
    cases add selfType m f with
    | error e => rfl
    | ok m' => exact ih m'

/-- A block is taken as if all its functions were plain. -/
theorem ofBlock_unqualified (b : ImplBlock) :
    ofBlock b.unqualified = inBlock b.unqualified <$> ofBlock b := by
  unfold ofBlock
  rw [b.functions_unqualified]
  change (if b.isTrait = true then _ else if b.isGeneric = true then _ else _) =
    _ <$> (if b.isTrait = true then _ else if b.isGeneric = true then _ else _)
  cases b.isTrait with
  | true => rfl
  | false =>
    cases b.isGeneric with
    | true => rfl
    | false => exact foldlM_add_unqualified b.unqualified b.functions ⟨b, none, []⟩

end ExposedMethods

/-! ## What wrappers drop -/

/-- A wrapper with this shape drops what the call gives, and succeeds. -/
def ResultShape.Drops (s : ResultShape) : Prop :=
  ∀ call, s.emit call = call ++ code ";" ++ ofResult "Ok" ++ parens (parens [])

/-- Only where nothing is declared is the value of a call dropped. -/
theorem ResultShape.drops_iff {s : ResultShape} : s.Drops ↔ s = unit := by
  refine ⟨fun drops => ?_, fun same _ => same ▸ rfl⟩
  -- What the other shapes make of no call at all has another length, whatever the type is.
  have length := congrArg List.length (drops [])
  cases s with
  | unit => rfl
  | value t =>
    change ((value (.other [])).emit []).length = _ at length
    exact absurd length (by decide +kernel)
  | result t =>
    change ((result (.other [])).emit []).length = _ at length
    exact absurd length (by decide +kernel)

theorem MakesMethod.drops_iff {selfType : TypeExpr} {f : FnItem} {e : ExposedMethod}
    (makes : MakesMethod selfType f e) : e.shape.Drops ↔ f.signature.output = none := by
  obtain ⟨-, form, -, made⟩ := makes
  obtain ⟨access, shape, ps, -, resolved, -, -, rfl⟩ := ExposedMethod.ofItem_eq_ok_iff.1 made
  rw [ResultShape.drops_iff]
  cases output : f.signature.output with
  | none => simpa using (Except.ok.inj ((resolvedShape_of_none output).symm.trans resolved)).symm
  | some t =>
    obtain ⟨u, -, rfl⟩ := (resolvedShape_eq_ok_iff_of_some output).1 resolved
    simp only [reduceCtorEq, iff_false]
    intro unit
    have value := ResultShape.type?_ofOutput u
    rw [unit] at value
    cases value

/-- A constructor's wrapper drops nothing. -/
theorem MakesConstructor.not_drops {selfType : TypeExpr} {f : FnItem} {c : ExposedConstructor}
    (makes : MakesConstructor selfType f c) : ¬c.shape.Drops := by
  obtain ⟨shape, ps, -, own, -, rfl⟩ := ExposedConstructor.ofItem_eq_ok_iff.1 makes.made
  rw [ResultShape.drops_iff]
  rintro rfl
  cases own

/-! ## Both together -/

/-- A free function is exposed only if it is neither async nor generic. A block of methods is taken
as if its functions were neither, so nothing async or generic is exposed of it if and only if nothing
at all is, or all its functions that are not skipped are plain. The wrappers that drop what their
call gives are those of methods that declare no result, async or not. -/
theorem expand_restrictions (options : Options) (f : FnItem) (b : ImplBlock) :
    ((∃ ts, expandFunction options f = .ok ts) ↔
        f.IsPlain ∧ f.signature.receiver? = none ∧
          ∀ p ∈ f.signature.parameters, ExposedParam.Marshals none p) ∧
      (((∃ ts, expandMethods b = .ok ts) → b.ExposesPlain) ↔
        ¬b.unqualified.Exposable ∨ b.ExposesPlain) ∧
      ExposedMethods.ofBlock b.unqualified =
        ExposedMethods.inBlock b.unqualified <$> ExposedMethods.ofBlock b ∧
      ∀ m, ExposedMethods.ofBlock b = .ok m →
        List.Forall₂ (fun f e => e.shape.Drops ↔ f.signature.output = none)
          (b.functions.filter FnItem.isMethod) m.methods ∧
        ∀ c ∈ m.constructor, ¬c.shape.Drops := by
  have same := ExposedMethods.ofBlock_unqualified b
  refine ⟨exists_expandFunction_iff, ?_, same, fun m made => ⟨?_, fun c present => ?_⟩⟩
  · have exposable : b.unqualified.Exposable ↔ ∃ ts, expandMethods b = .ok ts := by
      rw [← ExposedMethods.exists_ofBlock_iff, same]
      simp only [expandMethods, map_eq_ok_iff]
      refine ⟨?_, ?_⟩
      · rintro ⟨_, m, made, -⟩
        exact ⟨m.tokens, m, made, rfl⟩
      · rintro ⟨_, m, made, -⟩
        exact ⟨_, m, made, rfl⟩
    rw [exposable, imp_iff_not_or]
  · obtain ⟨-, -, made⟩ := ExposedMethods.ofBlock_eq_ok_iff.1 made
    exact made.methods.imp fun f e => MakesMethod.drops_iff
  · obtain ⟨-, -, made⟩ := ExposedMethods.ofBlock_eq_ok_iff.1 made
    have constructor := made.constructor
    rw [Option.mem_def.1 present, Option.toList_some] at constructor
    obtain ⟨g, -, makes, -, -⟩ := List.forall₂_cons_right_iff.1 constructor
    exact makes.not_drops

/-- An async method, a generic one and an async constructor are exposed. Free functions like these
are not. -/
theorem expandMethods_async :
    let point : TypeExpr := .path true none (code "Point")
    let function (isAsync isGeneric : Bool) (name : String) (inputs : List Input)
        (output : Option TypeExpr) : FnItem :=
      ⟨[], [], [], ⟨isAsync, isGeneric, name, inputs, output, []⟩, [], []⟩
    let block (f : FnItem) : ImplBlock := ⟨false, false, point, [], [], [.function f]⟩
    (∃ ts, expandMethods (block (function true false "save" [.receiver .shared] none)) = .ok ts) ∧
      (∃ ts, expandMethods (block (function false true "save" [.receiver .shared] none)) = .ok ts) ∧
      (∃ ts, expandMethods (block (function true false "new" [] (some point))) = .ok ts) ∧
      ∀ options ts, expandFunction options (function true false "save" [] none) ≠ .ok ts ∧
        expandFunction options (function false true "save" [] none) ≠ .ok ts := by
  intro point function block
  have exposed {b : ImplBlock} (some : (expandMethods b).toOption.isSome = true) :
      ∃ ts, expandMethods b = .ok ts := by
    cases made : expandMethods b with
    | ok ts => exact ⟨ts, rfl⟩
    | error e =>
      rw [made] at some
      cases some
  exact ⟨exposed (by decide +kernel), exposed (by decide +kernel), exposed (by decide +kernel),
    fun _ _ => ⟨nofun, nofun⟩⟩

end Expansion

end NativeBridge
