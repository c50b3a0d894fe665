import NativeBridge.Expansion.Error
import NativeBridge.Source.Item
import NativeBridge.Source.Literal
import NativeBridge.Source.Reader

/-!
# Options in helper attributes

The arguments of helper attributes are items separated by commas: flags, and `name` with a text. Each
target has flags of its own. `Options.ofAttributes` collects the items of all helper attributes of a
declaration, from left to right: a later name replaces an earlier one, and the first item that is
wrong is the error.
-/

namespace NativeBridge.Expansion

open Source

/-- An option without a value. -/
inductive Flag
  | shared
  | clone
  | getAll
  | setAll
  | get
  | set
  | skip
  | constructor
  deriving DecidableEq

/-- The flag of that name, if the target has it. -/
def Target.flag? (target : Target) (name : String) : Option Flag :=
  match target, name with
  | .type, "shared" => some .shared
  | .type, "clone" => some .clone
  | .type, "get_all" => some .getAll
  | .type, "set_all" => some .setAll
  | .field, "get" => some .get
  | .field, "set" => some .set
  | .field, "skip" => some .skip
  | .method, "constructor" => some .constructor
  | .method, "skip" => some .skip
  | _, _ => none

/-- One item. -/
inductive Setting
  | name (text : String)
  | flag (f : Flag)
  deriving DecidableEq

/-- The options of a declaration. -/
structure Options where
  name : Option String
  flags : List Flag

namespace Options

def empty : Options := ⟨none, []⟩

/-- The flag was given. -/
def has (o : Options) (f : Flag) : Bool := o.flags.contains f

def add (o : Options) : Setting → Options
  | .name text => { o with name := some text }
  | .flag f => { o with flags := f :: o.flags }

end Options

/-! ## Reading items -/

/-- What is behind further names of a path, and whether there are any. -/
def behindNames : Trees → Except AttributeFault (Bool × Trees)
  | .punct ':' true :: .punct ':' _ :: .ident _ :: rest => do
    let (_, rest) ← behindNames rest
    pure (true, rest)
  | [.punct ':' true, .punct ':' _] => .error .nameMissing
  | .punct ':' true :: .punct ':' _ :: _ => .error .nameExpected
  | ts => .ok (false, ts)

/-- The name of an item, empty if it is no single name, and what is behind it. -/
def itemName (ts : Trees) : Except AttributeFault (String × Trees) :=
  let lead := Trees.atOp "::" ts
  match if lead then ts.drop 2 else ts with
  | [] => .error .itemMissing
  | .ident n :: rest => do
    let (more, rest) ← behindNames rest
    pure (if lead || more then "" else n, rest)
  | ts => .error (if Trees.atLiteral ts then .literalItem else .otherItem)

/-- The text of an item `name`. -/
def itemText : Trees → Except AttributeFault (String × Trees)
  | .punct '=' _ :: [] => .error .textMissing
  | .punct '=' _ :: .literal spelling :: rest =>
    match Literal.text? spelling with
    | some text => .ok (text, rest)
    | none => .error .textExpected
  | .punct '=' _ :: _ => .error .textExpected
  | _ => .error .equalsExpected

/-- The first item, and what is behind it. -/
def setting (target : Target) (ts : Trees) : Except AttributeFault (Setting × Trees) := do
  let (n, rest) ← itemName ts
  if n = "name" then
    let (text, rest) ← itemText rest
    pure (.name text, rest)
  else
    match target.flag? n with
    | some f => pure (.flag f, rest)
    | none => .error (.unknown target n)

/-- All items. A comma behind the last one is permitted. -/
def settings (target : Target) (ts : Trees) : Except AttributeFault (List Setting) :=
  if ts.isEmpty then .ok []
  else
    match setting target ts with
    | .error e => .error e
    | .ok (s, []) => .ok [s]
    | .ok (s, .punct ',' _ :: rest) =>
      if _ : rest.length < ts.length then (s :: ·) <$> settings target rest else .ok [s]
    | .ok _ => .error .commaExpected
termination_by ts.length

/-- The items of an attribute. -/
def attributeSettings (target : Target) (a : Attribute) : Except AttributeFault (List Setting) :=
  match a.form with
  | .list arguments => settings target arguments
  | .word => .error (.bare a.isInner)
  | .value => .error (.valued a.isInner)

namespace Options

def ofSettings (ss : List Setting) : Options := ss.foldl add empty

/-- The options that the helper attributes among the given ones set. -/
def ofAttributes (target : Target) (as : List Attribute) : Except ExpansionError Options :=
  match (as.filter Attribute.isHelper).mapM (attributeSettings target) with
  | .ok sss => .ok (ofSettings sss.flatten)
  | .error fault => .error (.options fault)

/-- The options that the arguments of one attribute set. -/
def ofArguments (target : Target) (ts : Trees) : Except ExpansionError Options :=
  match settings target ts with
  | .ok ss => .ok (ofSettings ss)
  | .error fault => .error (.options fault)

end Options

end NativeBridge.Expansion
