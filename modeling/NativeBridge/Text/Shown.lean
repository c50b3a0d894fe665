import NativeBridge.Text.Quoted

/-!
# Showing structured values

The one-line form in which records, alternatives and lists are shown for inspection:
`Name { field: value, .. }`, `Name(value)` and `[a, b]`.
-/

namespace NativeBridge.Text

/-- A name followed by its fields in braces. -/
def record (name : String) (fields : List (String × String)) : String :=
  if fields.isEmpty then name
  else name ++ " \x7b " ++ ", ".intercalate (fields.map fun f => f.1 ++ ": " ++ f.2) ++ " \x7d"

/-- A record some of whose fields are not shown. -/
def recordWithRest (name : String) (fields : List (String × String)) : String :=
  name ++ " \x7b " ++ String.join (fields.map fun f => f.1 ++ ": " ++ f.2 ++ ", ") ++ "..\x20\x7d"

/-- An alternative with its one content. -/
def alternative (name content : String) : String :=
  name ++ "(" ++ content ++ ")"

/-- A list in brackets. -/
def list (items : List String) : String :=
  "[" ++ ", ".intercalate items ++ "]"

/-- A value that may be missing. -/
def optional : Option String → String
  | none => "None"
  | some content => alternative "Some" content

end NativeBridge.Text
