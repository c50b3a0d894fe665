import NativeBridge.Source.Grammar.Type

/-!
# Patterns

Patterns of parameters, bindings and arms. A pattern that is a name and takes the whole value, changeable
or not, is told apart by that name.
-/

namespace NativeBridge.Source.Grammar

open Reader

variable (g : Grammar)

/-- Alternatives can go on here. -/
def atAlternative (ts : Trees) : Bool := Trees.atOp "|" ts && !Trees.atAnyOp ["||", "|="] ts

/-- A pattern with alternatives, a bar in front permitted. -/
def alternatives : Reader Unit := do
  optionally (Trees.atOp "|") (op "|")
  discard g.pattern
  discard (iterate (fun () => do
    if ← sees atAlternative then
      op "|"
      discard g.pattern
      pure (some ())
    else pure none) ())

/-- A bound of a range cannot start here. -/
def endsRange (ts : Trees) : Bool :=
  ts.isEmpty || Trees.atAnyOp ["|", "=", ",", ";"] ts || Trees.atWord "if" ts
    || (Trees.atOp ":" ts && !Trees.atOp "::" ts)

/-- A block that is evaluated beforehand. -/
def constantBlock : Reader Unit := do
  word "const"
  group .brace g.statements

/-- A bound of a range. -/
def rangeBound : Reader Unit := do
  let ts := (← get).rest
  if Trees.atLiteral ts then literal
  else if Trees.atPathWord ts || Trees.atAnyOp ["::", "<"] ts then discard (g.path true)
  else g.constantBlock

/-- A range behind its first bound. One that includes its last bound has to have it. -/
def rangeEnd : Reader Unit := do
  let closed ← anyOp? ["..=", "..."]
  if !closed then op ".."
  if ← sees endsRange then guard !closed else g.rangeBound

/-- An index or a name of a field. The answer tells whether it is a name. -/
def member : Reader Bool := do
  match (← get).rest with
  | .literal spelling :: _ =>
    match spelling.toNat? with
    | some n =>
      drop 1
      write [.literal (toString n)]
      pure false
    | none => failure
  | _ =>
    discard name
    pure true

/-- A field in a pattern of a structure. -/
def fieldPattern : Reader Unit := do
  let boxed ← word? "box"
  let byRef ← word? "ref"
  let changeable ← word? "mut"
  if boxed || byRef || changeable then discard name
  else
    let named ← member
    if !named || (← sees (Trees.atOp ":")) then
      op ":"
      g.alternatives

/-- Patterns of fields in braces, two points at the end permitted. -/
def fieldPatterns : Reader Unit :=
  discard (list .brace do
    discard g.outerAttributes
    if ← op? ".." then expect List.isEmpty else g.fieldPattern)

/-- A path and what makes a pattern of it. -/
def pathPattern : Reader Unit := do
  let p ← g.path true
  let ts := (← get).rest
  if p.isPlain && Trees.atOp "!" ts && !Trees.atOp "!=" ts then
    op "!"
    discard rawGroup
  else if Trees.atGroup .brace ts then g.fieldPatterns
  else if Trees.atGroup .parenthesis ts then discard (list .parenthesis g.alternatives)
  else if Trees.atOp ".." ts then g.rangeEnd

/-- A path that is no single name stands in front, or one that holds something. -/
def atPathPattern (ts : Trees) : Bool :=
  let next := Trees.tail ts
  (Trees.atName ts && (Trees.atAnyOp ["::", "!", ".."] next || Trees.atGroup .brace next
      || Trees.atGroup .parenthesis next))
    || (Trees.atWord "self" ts && Trees.atOp "::" next)
    || Trees.atAnyOp ["::", "<"] ts
    || Trees.atAnyWord ["Self", "super", "crate"] ts

/-- A pattern without alternatives. -/
def patternForm : Reader (Option String) := do
  let ts := (← get).rest
  if atPathPattern ts then
    g.pathPattern
    pure none
  else if ← word? "_" then pure none
  else if ← word? "box" then
    discard g.pattern
    pure none
  else if Trees.atLiteral ts || Trees.atWord "const" ts then
    g.rangeBound
    optionally (Trees.atOp "..") g.rangeEnd
    pure none
  else if Trees.atName ts || Trees.atAnyWord ["ref", "mut", "self"] ts then
    let byRef ← word? "ref"
    discard (word? "mut")
    let n ← if ← sees (Trees.atWord "self") then anyName else name
    if ← op? "@" then discard g.pattern
    pure (if byRef then none else some n)
  else if ← op? "&" then
    discard (word? "mut")
    discard g.pattern
    pure none
  else if Trees.atGroup .parenthesis ts then
    discard (list .parenthesis g.alternatives)
    pure none
  else if Trees.atGroup .bracket ts then
    discard (list .bracket g.alternatives)
    pure none
  else if Trees.atOp ".." ts && !Trees.atOp "..." ts then
    g.rangeEnd
    pure none
  else failure

end NativeBridge.Source.Grammar
