import NativeBridge.Descriptor
import NativeBridge.Proofs.Source.Literal
import NativeBridge.Source.Code

/-!
# Reading generated code

What the host will see of a declaration stands in the code that is generated for it. Here that code is
read again, without a look at what it was generated from : which traits are implemented for a type, and
how its class describes each field (`ClassCode.ofTrees?`), and how a table describes its constructor and
its methods (`TableCode.ofTrees?`).

Generated code is regular. The items of a list stand between commas (`Trees.pieces`), and a structure is
given part by part, each behind a label. What a user has written, as types, may stand in a part in front,
so that the part behind a label is looked for from the end (`Trees.part?`).
-/

namespace NativeBridge.Source

/-- The token is a comma. -/
def Tree.isComma : Tree → Bool
  | .punct ',' _ => true
  | _ => false

namespace Trees

/-- The sequence stands somewhere in the other, at any depth. -/
inductive Occurs (us : Trees) : Trees → Prop
  | here : Occurs us us
  | before {ts : Trees} (more : Trees) : Occurs us ts → Occurs us (ts ++ more)
  | behind {ts : Trees} (more : Trees) : Occurs us ts → Occurs us (more ++ ts)
  | inside {ts : Trees} (d : Delimiter) : Occurs us ts → Occurs us [.group d ts]

theorem Occurs.trans {ts us vs : Trees} (first : Occurs ts us) (second : Occurs us vs) :
    Occurs ts vs := by
  induction second with
  | here => exact first
  | before more _ ih => exact .before more ih
  | behind more _ ih => exact .behind more ih
  | inside d _ ih => exact .inside d ih

/-! ## Pieces -/

/-- What stands between commas. A comma at the end is not followed by a piece. -/
def pieces : Trees → List Trees
  | [] => []
  | .punct ',' _ :: rest => [] :: pieces rest
  | t :: rest =>
    match pieces rest with
    | [] => [[t]]
    | piece :: others => (t :: piece) :: others

/-- Not empty, and without commas. -/
def isPiece (ts : Trees) : Bool := !ts.isEmpty && ts.all (!·.isComma)

/-- A piece can end in front of this : nothing is left, or a comma follows. -/
def Ends (us : Trees) : Prop := us = [] ∨ ∃ joint rest, us = .punct ',' joint :: rest

variable {t : Tree} {ts us : Trees} {tss : List Trees}

theorem exists_punct_of_isComma (comma : t.isComma = true) : ∃ joint, t = .punct ',' joint := by
  unfold Tree.isComma at comma
  split at comma
  · exact ⟨_, rfl⟩
  · cases comma

/-- A token that is no comma belongs to the first piece. -/
theorem pieces_cons (free : t.isComma = false) :
    pieces (t :: ts) = (t :: (pieces ts).headD []) :: (pieces ts).drop 1 := by
  have step : pieces (t :: ts) = match pieces ts with
      | [] => [[t]]
      | piece :: others => (t :: piece) :: others := by
    rw [pieces]
    rintro joint rfl
    cases free
  rw [step]
  cases pieces ts <;> rfl

/-- What has no commas is one piece, up to the comma behind it. -/
theorem pieces_append (piece : ts.isPiece = true) (ends : Ends us) :
    pieces (ts ++ us) = ts :: pieces (us.drop 1) := by
  have last : ∀ t : Tree, t.isComma = false → pieces (t :: us) = [t] :: pieces (us.drop 1) := by
    intro t free
    rw [pieces_cons free]
    obtain rfl | ⟨joint, rest, rfl⟩ := ends <;> rfl
  induction ts with
  | nil => cases piece
  | cons t ts ih =>
    rw [isPiece, List.isEmpty_cons, Bool.not_false, Bool.true_and, List.all_cons, Bool.and_eq_true,
      Bool.not_eq_true'] at piece
    obtain ⟨free, others⟩ := piece
    cases ts with
    | nil => exact last t free
    | cons u ts =>
      rw [List.cons_append, pieces_cons free, ih (by simpa [isPiece] using others)]
      rfl

/-- The items of a list are its pieces. -/
theorem pieces_listed (each : ∀ ts ∈ tss, ts.isPiece = true) : pieces (listed tss) = tss := by
  induction tss with
  | nil => rfl
  | cons ts rest ih =>
    obtain ⟨piece, others⟩ := List.forall_mem_cons.1 each
    cases rest with
    | nil =>
      rw [listed, ← List.append_nil ts]
      exact (pieces_append piece (Or.inl rfl)).trans (by rw [List.append_nil]; rfl)
    | cons us more =>
      rw [listed, List.append_assoc]
      · exact (pieces_append piece (Or.inr ⟨false, _, rfl⟩)).trans
          (congrArg _ (ih others))
      · exact nofun

/-- Where the first piece of a sequence ends. -/
theorem exists_pieces_eq (some : ts ≠ []) :
    ∃ piece us, ts = piece ++ us ∧ pieces ts = piece :: pieces (us.drop 1) ∧ Ends us := by
  induction ts with
  | nil => exact absurd rfl some
  | cons t ts ih =>
    cases comma : t.isComma with
    | true =>
      obtain ⟨joint, rfl⟩ := exists_punct_of_isComma comma
      exact ⟨[], _, rfl, rfl, Or.inr ⟨joint, ts, rfl⟩⟩
    | false =>
      rw [pieces_cons comma]
      by_cases last : ts = []
      · subst last
        exact ⟨[t], [], rfl, rfl, Or.inl rfl⟩
      · obtain ⟨piece, us, rfl, same, ends⟩ := ih last
        exact ⟨t :: piece, us, rfl, by rw [same]; rfl, ends⟩

/-! ## Parts -/

/-- What stands behind the label, if it is in front. -/
def labelled? (label : String) : Trees → Option Trees
  | .ident name :: .punct ':' false :: rest => if name = label then some rest else none
  | _ => none

/-- What stands behind the last label of that name. -/
def part? (label : String) : Trees → Option Trees
  | [] => none
  | t :: rest => (part? label rest).or (labelled? label (t :: rest))

/-- What stands in front of a part does not matter. -/
theorem part?_append {label : String} (found : (us.part? label).isSome = true) (ts : Trees) :
    (ts ++ us).part? label = us.part? label := by
  obtain ⟨part, found⟩ := Option.isSome_iff_exists.1 found
  rw [found]
  induction ts with
  | nil => exact found
  | cons t ts ih => rw [List.cons_append, part?, ih, Option.some_or]

/-- What the group at the end holds. -/
def lastGroup? (ts : Trees) : Option Trees :=
  match ts.getLast? with
  | some (.group _ inner) => some inner
  | _ => none

@[simp] theorem lastGroup?_append_braces (ts inner : Trees) :
    lastGroup? (ts ++ braces inner) = some inner := by
  simp [lastGroup?, braces]

/-! ## Values -/

/-- The names of a path that starts with colons, and what stands behind it. -/
def pathNames : Trees → List String × Trees
  | .punct ':' _ :: .punct ':' _ :: .ident name :: rest =>
    (name :: (pathNames rest).1, (pathNames rest).2)
  | ts => ([], ts)

/-- The items of a vector. -/
def items? (ts : Trees) : Option (List Trees) :=
  match ts.pathNames with
  | (["std", "vec"], .punct '!' _ :: .group .bracket items :: _) => some (pieces items)
  | _ => none

/-- A vector has the items that it is written with. -/
theorem items?_vector (each : ∀ ts ∈ tss, ts.isPiece = true) (more : Trees) :
    items? (vector tss ++ more) = some tss := by
  change some (pieces (listed tss)) = some tss
  rw [pieces_listed each]

/-- What an option holds. -/
def content? (ts : Trees) : Option (Option Trees) :=
  match ts.pathNames with
  | (["core", "option", "Option", "None"], _) => some none
  | (["core", "option", "Option", "Some"], .group .parenthesis content :: _) => some (some content)
  | _ => none

/-- The block that gives a value, where it stands in place of nothing. -/
def block? (ts : Trees) : Option (Option Trees) :=
  match ts, ts.content? with
  | .group .brace body :: _, _ => some (some body)
  | _, some none => some none
  | _, _ => none

/-- The text of a literal. -/
def textOf? : Trees → Option String
  | .literal spelling :: _ => Literal.text? spelling
  | _ => none

end Trees

end NativeBridge.Source

namespace NativeBridge.Expansion

open Source Trees

/-! ## Classes -/

/-- How a class describes a field. -/
structure FieldCode where
  name : String
  /-- The access is for writing, too. -/
  writes : Bool
  getter : Trees
  setter : Option Trees

/-- Whether access for reading is access for writing, too. -/
def writes? (ts : Trees) : Option Bool :=
  match ts.pathNames with
  | (["hostbind_core", "FieldAccess", "READ"], .punct ',' _ :: _) => some false
  | (["hostbind_core", "FieldAccess", "READ"],
      .punct '.' _ :: .ident "union" :: .group .parenthesis more :: _) =>
    if (pathNames more).1 = ["hostbind_core", "FieldAccess", "WRITE"] then some true else none
  | _ => none

/-- Reads the description of a field. -/
def FieldCode.ofTrees? (ts : Trees) : Option FieldCode := do
  let body ← ts.lastGroup?
  let name ← (body.labelled? "name").bind textOf?
  let writes ← (body.part? "access").bind writes?
  let getter ← ((body.part? "getter").bind block?).join
  let setter ← (body.part? "setter").bind block?
  pure ⟨name, writes, getter, setter⟩

/-- An implementation of a trait of the library. -/
structure TraitCode where
  trait : String
  type : String
  body : Trees

/-- The implementations of traits of the library, one behind the other. -/
def TraitCode.listOf : Trees → List TraitCode
  | .ident "impl" :: .punct ':' _ :: .punct ':' _ :: .ident "hostbind_core" :: .punct ':' _ ::
      .punct ':' _ :: .ident trait :: .ident "for" :: .ident type :: .group .brace body :: rest =>
    ⟨trait, type, body⟩ :: listOf rest
  | _ => []

/-- What the code for a type says of it. -/
structure ClassCode where
  traits : List TraitCode
  fields : List FieldCode
  /-- The function for copies. -/
  copy : Option Trees

/-- Reads the code for a type. -/
def ClassCode.ofTrees? (ts : Trees) : Option ClassCode := do
  let traits := TraitCode.listOf ts
  let description ← traits.find? (·.trait = "HasClassMeta")
  let function ← description.body.lastGroup?
  let body ← function.lastGroup?
  let items ← (body.part? "fields").bind items?
  let fields ← items.mapM FieldCode.ofTrees?
  let copy ← (body.part? "copy").bind block?
  pure ⟨traits, fields, copy⟩

/-! ## Tables of methods -/

/-- How a table describes a method. -/
structure MethodCode where
  name : String
  mode : ReceiverMode
  /-- The wrapper, and the description behind it. -/
  code : Trees

/-- The mode in front. -/
def mode? (ts : Trees) : Option ReceiverMode :=
  match ts.pathNames with
  | (["hostbind_core", "ReceiverMode", "ReadOnly"], _) => some .readOnly
  | (["hostbind_core", "ReceiverMode", "Mutating"], _) => some .mutating
  | (["hostbind_core", "ReceiverMode", "ValueProducing"], _) => some .valueProducing
  | _ => none

/-- Reads the code of a method. The mode stands behind the name. -/
def MethodCode.ofTrees? (ts : Trees) : Option MethodCode := do
  let code ← ts.lastGroup?
  let body ← code.lastGroup?
  let behind ← body.labelled? "name"
  let name ← textOf? behind
  let mode ← (labelled? "receiver" (behind.drop 2)).bind mode?
  pure ⟨name, mode, code⟩

/-- What the table beside a block of methods says. -/
structure TableCode where
  constructor : Option Trees
  methods : List MethodCode

/-- Reads the table behind a block of methods. -/
def TableCode.ofTrees? (ts : Trees) : Option TableCode := do
  let implementation ← ts.lastGroup?
  let function ← implementation.lastGroup?
  let table ← function.lastGroup?
  let constructor ← (table.part? "constructor").bind content?
  let items ← (table.part? "methods").bind items?
  let methods ← items.mapM MethodCode.ofTrees?
  pure ⟨constructor, methods⟩

end NativeBridge.Expansion
