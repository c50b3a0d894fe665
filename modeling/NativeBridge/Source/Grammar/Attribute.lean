import NativeBridge.Source.Grammar.Basic

/-!
# Attributes

An attribute holds a path, and arguments in delimiters or a value. Arguments are kept as they stand;
a value is an expression. Outer attributes stand in front of what they describe, inner ones inside of
it.
-/

namespace NativeBridge.Source.Grammar

open Reader

variable (g : Grammar)

/-- The value of an attribute: a literal, which may be a negative number, or an expression. -/
def attributeValue : Reader Unit := do
  let ts := (← get).rest
  if Trees.atLiteral ts && ts.length ≤ (if Trees.atOp "-" ts then 2 else 1) then literal
  else if Trees.atOp "#" ts then failure
  else discard (g.expr true)

/-- The content of an attribute. -/
def attributeContent : Reader (Option String × AttributeForm) := do
  let name ← if ← word? "unsafe" then pure (some "unsafe") else plainPath
  match (← get).rest with
  | .group _ arguments :: _ =>
    discard rawGroup
    pure (name, .list arguments)
  | _ =>
    if ← op? "=" then
      g.attributeValue
      pure (name, .value)
    else pure (name, .word)

/-- One attribute. -/
def oneAttribute (inner : Bool) : Reader Attribute := do
  let ((name, form), tokens) ← traced do
    op "#"
    if inner then op "!"
    group .bracket g.attributeContent
  pure ⟨name, form, inner, tokens⟩

/-- The attributes in front of something. -/
def outerAttributes : Reader (List Attribute) :=
  collect do
    if ← sees (Trees.atOp "#") then some <$> g.oneAttribute false else pure none

/-- The attributes at the start of a body. -/
def innerAttributes : Reader (List Attribute) :=
  collect do
    if ← sees fun ts => Trees.atOp "#" ts && Trees.atOp "!" (Trees.tail ts) then
      some <$> g.oneAttribute true
    else pure none

end NativeBridge.Source.Grammar
