import NativeBridge.Source.Grammar.Pattern

/-!
# Expressions

An expression is a chain of operands and binary operators. Since only its trees are wanted, operators
are not nested by precedence; what precedence forbids is kept: comparisons are not chained, a range
takes no further operator, and a conversion takes none of those that stand behind an operand.
-/

namespace NativeBridge.Source.Grammar

open Reader

variable (g : Grammar)

/-! ## Operators -/

/-- Operators that assign. -/
def assignments : List String :=
  ["<<=", ">>=", "+=", "-=", "*=", "/=", "%=", "^=", "&=", "|="]

/-- Operators that bind more loosely than a comparison. -/
def junctions : List String := ["&&", "||"]

def comparisons : List String := ["==", "<=", "!=", ">=", "<", ">"]

/-- Operators that bind more tightly than a comparison. The longer ones come first. -/
def arithmetic : List String := ["<<", ">>", "+", "-", "*", "/", "%", "^", "&", "|"]

/-- The binary operator in front. -/
def operatorAt? (ts : Trees) : Option String :=
  (assignments ++ junctions ++ ["<<", ">>", "==", "<=", "!=", ">="] ++ arithmetic ++ ["<", ">"]).find?
    (Trees.atOp · ts)

/-- An assignment stands in front. -/
def atAssignment (ts : Trees) : Bool := Trees.atOp "=" ts && !Trees.atOp "=>" ts

/-- What cannot stand behind a conversion. -/
def followsOperand (ts : Trees) : Bool :=
  (Trees.atOp "." ts && !Trees.atOp ".." ts) || Trees.atOp "?" ts || Trees.atGroup .bracket ts
    || Trees.atGroup .parenthesis ts

/-- A conversion behind its operand. -/
def conversion : Reader Unit := do
  word "as"
  discard (g.type false)
  guard !(← sees followsOperand)

/-- Nothing that a half-open range could end with stands in front. -/
def endsHalfOpen (structs : Bool) (ts : Trees) : Bool :=
  ts.isEmpty || Trees.atAnyOp [",", ";", "?", "=>", "=", "+", "/", "%", "^", ">"] ts
    || (Trees.atOp "." ts && !Trees.atOp ".." ts) || (!structs && Trees.atGroup .brace ts)
    || Trees.atWord "as" ts

/-- Where a chain of operators stands. -/
structure Chain where
  /-- The operand in front is a comparison. -/
  compared : Bool
  /-- The chain takes operators that bind as loosely as a range, or more loosely. -/
  loose : Bool
  form : ExprForm

/-- A chain that goes on behind an operator and its operand. -/
def Chain.behind (c : Chain) (compared : Bool) : Chain := { c with compared := compared, form := .other }

/-- One operator and what is behind it. `ranged` reads a range. -/
def chainStep (operand : Reader ExprForm) (range : Reader Unit) (c : Chain) :
    Reader (Option Chain) := do
  let ts := (← get).rest
  if c.form = .range then pure none
  else
    match operatorAt? ts with
    | some s =>
      if assignments.contains s && !c.loose then pure none
      else if comparisons.contains s && c.compared then failure
      else
        op s
        discard operand
        pure (some (c.behind
          (comparisons.contains s || (arithmetic.contains s && c.compared))))
    | none =>
      if c.loose && atAssignment ts then
        op "="
        discard operand
        pure (some (c.behind false))
      else if c.loose && Trees.atOp ".." ts then
        range
        pure (some { c with form := .range })
      else if Trees.atWord "as" ts then
        g.conversion
        pure (some (c.behind c.compared))
      else pure none

/-- The points of a range and the operand at its end. -/
def rangeTail (structs : Bool) (operand : Reader ExprForm) : Reader Unit := do
  let closed ← op? "..="
  if !closed then
    guard !(← sees (Trees.atOp "..."))
    op ".."
  if closed || !(← sees (endsHalfOpen structs)) then
    let form ← operand
    discard (iterate (g.chainStep operand failure) ⟨false, false, form⟩)

/-- Operators behind a first operand. -/
def operators (structs : Bool) (operand : Reader ExprForm) (first : ExprForm) : Reader ExprForm := do
  let c ← iterate (g.chainStep operand (g.rangeTail structs operand)) ⟨false, true, first⟩
  pure c.form

/-! ## Operands -/

/-- A path, a call of a macro, or a structure. -/
def pathExpr (structs : Bool) : Reader ExprForm := do
  let p ← g.path true
  let ts := (← get).rest
  if p.isPlain && Trees.atOp "!" ts && !Trees.atOp "!=" ts then
    op "!"
    let d ← rawGroup
    pure (if d = .brace then .bracedCall else .other)
  else if structs && Trees.atGroup .brace ts then
    discard (list .brace do
      if ← op? ".." then
        if !(← atEnd) then
          discard (g.expr true)
          expect List.isEmpty
      else
        discard g.outerAttributes
        let named ← member
        if !named || (← sees (Trees.atOp ":")) then
          op ":"
          discard (g.expr true))
    pure .other
  else pure .other

/-- A block. The flag permits attributes inside of it. -/
def block (attributes : Bool) : Reader Unit :=
  group .brace do
    if attributes then discard g.innerAttributes
    g.statements

/-- A choice by conditions. -/
def conditional : Reader Unit := do
  word "if"
  discard (g.expr false)
  g.block false
  discard (iterate (fun more => do
    if more && (← word? "else") then
      if ← word? "if" then
        discard (g.expr false)
        g.block false
        pure (some true)
      else
        g.block false
        pure (some false)
    else pure none) true)

/-- A loop over the values of an iterator. -/
def forLoop : Reader Unit := do
  word "for"
  g.alternatives
  word "in"
  discard (g.expr false)
  g.block true

def whileLoop : Reader Unit := do
  word "while"
  discard (g.expr false)
  g.block true

/-- A loop without a condition. -/
def endlessLoop : Reader Unit := do
  word "loop"
  g.block true

/-- An expression behind a label. -/
def labelled : Reader Unit := do
  lifetime
  op ":"
  let ts := (← get).rest
  if Trees.atWord "while" ts then g.whileLoop
  else if Trees.atWord "for" ts then g.forLoop
  else if Trees.atWord "loop" ts then g.endlessLoop
  else g.block true

/-- Generic parameters and not a path stand behind a word. -/
def atGenericsBehind (ts : Trees) : Bool :=
  let behind := Trees.tail ts
  let first := Trees.tail behind
  let second := Trees.tail first
  Trees.atOp "<" behind
    && (Trees.atOp ">" first || Trees.atOp "#" first || Trees.atWord "const" first
      || ((Trees.atLifetime first || Trees.atName first)
        && (Trees.atAnyOp [">", ",", "="] second
          || (Trees.atOp ":" second && !Trees.atOp "::" second))))

/-- An expression that ends in its own braces stands in front. -/
def atBlockForm (ts : Trees) : Bool :=
  Trees.atAnyWord ["if", "while", "loop", "match", "unsafe"] ts
    || (Trees.atWord "for" ts && !atGenericsBehind ts)
    || (Trees.atAnyWord ["const", "try"] ts && Trees.atGroup .brace (Trees.tail ts))
    || Trees.atGroup .brace ts || Trees.atLifetime ts

/-- A closure stands in front. -/
def atClosure (ts : Trees) : Bool :=
  let next := Trees.tail ts
  Trees.atOp "|" ts || Trees.atAnyWord ["move", "static"] ts
    || (Trees.atWord "for" ts && atGenericsBehind ts)
    || (Trees.atWord "const" ts && !Trees.atGroup .brace next)
    || (Trees.atWord "async" ts && (Trees.atOp "|" next || Trees.atWord "move" next))

/-- A closure. -/
def closure (structs : Bool) : Reader Unit := do
  optionally (Trees.atWord "for") g.binder
  discard (word? "const")
  discard (word? "static")
  discard (word? "async")
  discard (word? "move")
  op "|"
  discard (separated "," (Trees.atOp "|") do
    discard g.outerAttributes
    discard g.pattern
    if ← op? ":" then discard (g.type true))
  op "|"
  if ← op? "->" then
    discard (g.type true)
    g.block false
  else discard (g.expr structs)

/-- No expression can stand here. -/
def endsValue (structs : Bool) (ts : Trees) : Bool :=
  ts.isEmpty || Trees.atAnyOp [",", ";", "=>", "?", ".", ":", "=", "+", "/", "%", "^", ">"] ts
    && !Trees.atAnyOp ["..", "::"] ts
    || Trees.atAnyWord ["else", "as"] ts || (!structs && Trees.atGroup .brace ts)

/-- A value behind a word that leaves something, if there is one. -/
def optionalValue (structs : Bool) : Reader Unit := do
  if !(← sees (endsValue structs)) then discard (g.expr structs)

/-- An expression in parentheses, or a tuple. -/
def parenthesized : Reader Unit := discard (list .parenthesis (g.expr true))

/-- An array by its items, or by one item and a length. -/
def arrayExpr : Reader Unit :=
  group .bracket do
    if !(← atEnd) then
      discard (g.expr true)
      if ← op? ";" then discard (g.expr true)
      else if !(← atEnd) then
        op ","
        discard (separated "," List.isEmpty (g.expr true))

/-- The pattern, condition and value of an arm. -/
def arm : Reader Unit := do
  discard g.outerAttributes
  g.alternatives
  if ← word? "if" then discard (g.expr true)
  op "=>"
  let form ← g.standing
  if form ≠ .block && !(← atEnd) then op "," else discard (op? ",")

/-- A choice by patterns. -/
def matching : Reader Unit := do
  word "match"
  discard (g.expr false)
  group .brace do
    discard g.innerAttributes
    discard (collect do
      if ← atEnd then pure none
      else
        g.arm
        pure (some ()))

/-- An expression that ends in its own braces. -/
def blockForm : Reader Unit := do
  let ts := (← get).rest
  if Trees.atWord "if" ts then g.conditional
  else if Trees.atWord "while" ts then g.whileLoop
  else if Trees.atWord "for" ts then g.forLoop
  else if Trees.atWord "loop" ts then g.endlessLoop
  else if Trees.atWord "match" ts then g.matching
  else if Trees.atLifetime ts then g.labelled
  else
    optionally (Trees.atAnyWord ["unsafe", "const", "try"]) (discard anyName)
    g.block true

/-- An operand without what may stand behind it. -/
def atom (structs : Bool) : Reader ExprForm := do
  let ts := (← get).rest
  let next := Trees.tail ts
  let brace := Trees.atGroup .brace
  if Trees.atLiteral ts then
    literal
    pure .other
  else if Trees.atWord "async" ts && (brace next || (Trees.atWord "move" next && brace (Trees.tail next)))
  then
    word "async"
    discard (word? "move")
    g.block false
    pure .other
  else if atClosure ts then
    g.closure structs
    pure .other
  else if Trees.atPathWord ts || Trees.atAnyOp ["::", "<"] ts
      || (Trees.atWord "try" ts && Trees.atAnyOp ["!", "::"] next) then g.pathExpr structs
  else if Trees.atGroup .parenthesis ts then
    g.parenthesized
    pure .other
  else if ← word? "break" then
    optionally Trees.atLifetime lifetime
    g.optionalValue structs
    pure .other
  else if ← word? "continue" then
    optionally Trees.atLifetime lifetime
    pure .other
  else if ← word? "return" then
    g.optionalValue true
    pure .other
  else if ← word? "yield" then
    g.optionalValue true
    pure .other
  else if Trees.atGroup .bracket ts then
    g.arrayExpr
    pure .other
  else if ← word? "let" then
    g.alternatives
    op "="
    discard (g.operand false)
    pure .other
  else if atBlockForm ts then
    g.blockForm
    pure .block
  else if Trees.atOp ".." ts then
    g.rangeTail structs (g.operand structs)
    pure .range
  else if ← word? "_" then pure .other
  else failure

/-- The parts of an index that is spelled like a number with a point, such as `0.1`. -/
def indexParts (spelling : String) : Option (String × String) :=
  let cs := spelling.toList
  let first := cs.takeWhile (· ≠ '.')
  match cs.drop first.length with
  | [] => none
  | _ :: second =>
    if (first ++ second).all fun c => '0' ≤ c && c ≤ '9' then
      some (String.ofList first, String.ofList second)
    else none

/-- A field, an index, a call of a method or the result of a future, behind its point. The answer is
whether another point has been read. -/
def selection : Reader Bool := do
  let parts := match (← get).rest with
    | .literal spelling :: _ => indexParts spelling
    | _ => none
  match parts with
  | some (first, second) =>
    drop 1
    write (.literal first :: Trees.ofMarks ['.'])
    if second = "" then pure true
    else
      write [.literal second]
      pure false
  | none =>
    if ← word? "await" then pure false
    else
      let named ← member
      let turbofish := named && (← sees (Trees.atOp "::"))
      if turbofish then discard g.angleArguments
      if turbofish || (named && (← sees (Trees.atGroup .parenthesis))) then
        discard (list .parenthesis (g.expr true))
      pure false

/-- What may stand behind an operand. -/
def trailers (first : ExprForm) : Reader ExprForm :=
  iterate (fun form => do
    let ts := (← get).rest
    if Trees.atGroup .parenthesis ts then
      discard (list .parenthesis (g.expr true))
      pure (some .other)
    else if Trees.atOp "." ts && !Trees.atOp ".." ts && form ≠ .range then
      op "."
      discard (iterate (fun more => do
        if more then some <$> g.selection else pure none) true)
      pure (some .other)
    else if Trees.atGroup .bracket ts then
      discard (group .bracket (g.expr true))
      pure (some .other)
    else if Trees.atOp "?" ts && form ≠ .range then
      op "?"
      pure (some .other)
    else pure none) first

/-- An operand with what stands in front of it and behind it. -/
def operandForm (structs : Bool) : Reader ExprForm := do
  discard g.outerAttributes
  let ts := (← get).rest
  if ← op? "&" then
    let raw := (← sees (Trees.atWord "raw"))
      && (← sees fun ts => Trees.atAnyWord ["mut", "const"] (Trees.tail ts))
    if raw then
      word "raw"
      discard anyName
    else discard (word? "mut")
    discard (g.operand structs)
    pure .other
  else if Trees.atAnyOp ["*", "!", "-"] ts then
    discard (anyOp? ["*", "!", "-"])
    discard (g.operand structs)
    pure .other
  else
    let form ← g.atom structs
    g.trailers form

/-- An expression. -/
def exprForm (structs : Bool) : Reader ExprForm := do
  let first ← g.operandForm structs
  g.operators structs (g.operand structs) first

/-- An expression that stands as a statement or behind the arrow of an arm: one in braces ends there,
unless a point or a question mark follows. -/
def standingForm : Reader ExprForm := do
  discard g.outerAttributes
  if ← sees atBlockForm then
    g.blockForm
    if ← sees fun ts => (Trees.atOp "." ts && !Trees.atOp ".." ts) || Trees.atOp "?" ts then
      let form ← g.trailers .other
      g.operators true (g.operand true) form
    else pure .block
  else g.exprForm true

end NativeBridge.Source.Grammar
