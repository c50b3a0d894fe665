import NativeBridge.Source.Item
import NativeBridge.Source.Reader

/-!
# The grammar

Types, expressions, patterns and statements contain each other. A `Grammar` holds a reader for each of
them; the modules of the grammar define the readers of one more level of nesting in terms of the
readers of the level below, and a text is read with as many levels as it has trees. This module has
the record, and the parts of the grammar that contain nothing else: names of attributes and items.
-/

namespace NativeBridge.Source

/-- What an expression needs behind it. -/
inductive ExprForm
  /-- Ends in its own braces, and stands as a statement without a semicolon. -/
  | block
  /-- A call of a macro with braces. -/
  | bracedCall
  /-- A range, which takes no further operator. -/
  | range
  | other
  deriving DecidableEq

/-- Readers of the parts that contain each other. -/
structure Grammar where
  /-- A type; the flag permits bounds joined by plus signs. -/
  type : Bool → Reader TypeExpr
  /-- A bound of a type. The answer tells whether it is a trait. -/
  bound : Reader Bool
  /-- An expression; the flag permits a name in front of braces to be a structure. -/
  expr : Bool → Reader ExprForm
  /-- An expression up to its first binary operator. -/
  operand : Bool → Reader ExprForm
  /-- An expression that stands as a statement or behind the arrow of an arm. -/
  standing : Reader ExprForm
  /-- A pattern without alternatives: its name, if it is one that takes the whole value. -/
  pattern : Reader (Option String)
  /-- The statements of a block. -/
  statements : Reader Unit

namespace Grammar

/-- The grammar of what has no trees: it reads nothing. -/
def empty : Grammar where
  type _ := failure
  bound := failure
  expr _ := failure
  operand _ := failure
  standing := failure
  pattern := failure
  statements := failure

end Grammar

namespace Reader

/-- A name of a path. -/
def pathWord : Reader String := do
  expect Trees.atPathWord
  anyName

/-- A path without arguments. The answer is its name, if it is one name. -/
def plainPath : Reader (Option String) := do
  let lead ← op? "::"
  let first ← pathWord
  let single ← iterate (fun _ => do
    if ← op? "::" then
      discard pathWord
      pure (some false)
    else pure none) true
  pure (if single && !lead then some first else none)

/-- The visibility of an item. -/
def visibility : Reader Unit := do
  if ← word? "pub" then
    let restricted : Reader Unit := group .parenthesis do
      expect (Trees.atAnyWord ["crate", "self", "super"])
      discard anyName
    let placed : Reader Unit := group .parenthesis do
      word "in"
      discard plainPath
    restricted <|> placed <|> pure ()

/-- The linkage of a function. -/
def linkage : Reader Unit := do
  if ← word? "extern" then
    optionally (fun ts => ts.head?.any fun | .literal _ => true | _ => false) literal

end Reader

end NativeBridge.Source
