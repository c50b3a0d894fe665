import NativeBridge.Source.Grammar.Expression

/-!
# Statements and items

Functions with their signatures, blocks of methods, data types, and the statements of a body, among
which items may stand.
-/

namespace NativeBridge.Source.Grammar

open Reader

variable (g : Grammar)

/-! ## Signatures -/

/-- The receiver of a function. -/
def receiver : Reader ReceiverForm := do
  let reference ← op? "&"
  if reference then optionally Trees.atLifetime lifetime
  let changeable ← word? "mut"
  word "self"
  if reference then pure (if changeable then .exclusive else .shared)
  else if ← op? ":" then
    discard (g.type true)
    pure .typed
  else pure .value

/-- A typed parameter, or nothing for one that stands for any number of further arguments. A type
without a name is given a pattern that ignores the value. -/
def typedInput : Reader (Option Input) := do
  let ts := (← get).rest
  if Trees.atName ts && Trees.atOp "<" (Trees.tail ts) then
    write (.ident "_" :: Trees.ofMarks [':'])
    let type ← g.type true
    pure (some (.typed none type))
  else
    let binding ← g.pattern
    op ":"
    if ← op? "..." then pure none
    else
      let type ← g.type true
      pure (some (.typed binding type))

/-- A parameter. A receiver comes first, and nothing follows one that stands for any number of further
arguments. -/
def input (isFirst : Bool) : Reader (Option Input) := do
  discard g.outerAttributes
  if ← op? "..." then pure none
  else
    let received : Reader (Option Input) := do
      pure (some (.receiver (← g.receiver)))
    let i ← received <|> g.typedInput
    match i with
    | some (.receiver _) =>
      guard isFirst
      pure i
    | _ => pure i

/-- The parameters of a function. -/
def inputs : Reader (List Input) :=
  group .parenthesis do
    let (_, is) ← iterate (fun (goesOn, is) => do
      if !goesOn || (← atEnd) then pure none
      else
        let i ← g.input is.isEmpty
        if !(← atEnd) then op ","
        match i with
        | some i => pure (some (true, is ++ [i]))
        | none => pure (some (false, is))) (true, [])
    pure is

/-- A signature. -/
def signature : Reader Signature := do
  let (s, tokens) ← traced do
    discard (word? "const")
    let isAsync ← word? "async"
    discard (word? "unsafe")
    linkage
    word "fn"
    let n ← name
    let isGeneric ← g.generics
    let is ← g.inputs
    let output ← g.returnType true
    g.whereClause
    pure (⟨isAsync, isGeneric, n, is, output, []⟩ : Signature)
  pure { s with tokens := tokens }

/-- The words of a signature stand in front, up to the one that opens a function. -/
def atSignature (ts : Trees) : Bool :=
  let skip (word : String) (ts : Trees) : Trees := if Trees.atWord word ts then Trees.tail ts else ts
  let ts := skip "unsafe" (skip "async" (skip "const" ts))
  let ts :=
    if Trees.atWord "extern" ts then
      match Trees.tail ts with
      | .literal _ :: rest => rest
      | rest => rest
    else ts
  Trees.atWord "fn" ts

/-! ## Functions and blocks of methods -/

/-- The inner attributes and the statements of a body. -/
def bodyParts : Reader (List Attribute × Trees) :=
  group .brace do
    let inner ← g.innerAttributes
    let ((), body) ← traced g.statements
    pure (inner, body)

/-- A function behind its attributes. -/
def functionBehind (attributes : List Attribute) (mayBeDefault : Bool) : Reader FnItem := do
  let ((), visible) ← traced visibility
  let ((), defaultness) ← traced (if mayBeDefault then discard (word? "default") else pure ())
  let s ← g.signature
  let (inner, body) ← g.bodyParts
  pure ⟨attributes, visible, defaultness, s, inner, body⟩

/-- A function. -/
def functionItem : Reader FnItem := do g.functionBehind (← g.outerAttributes) false

/-- A constant or a static place behind its visibility. The answer tells whether it is a plain one, with
a value. -/
def constant : Reader Bool := do
  if !(← word? "const") then
    word "static"
    discard (word? "mut")
  if !(← word? "_") then discard name
  let isGeneric ← g.generics
  op ":"
  discard (g.type true)
  let hasValue ← op? "="
  if hasValue then discard (g.expr true)
  let conditional ← sees (Trees.atWord "where")
  g.whereClause
  op ";"
  pure (hasValue && !isGeneric && !conditional)

/-- A name for a type behind its visibility. The answer tells whether it is a plain one, without
bounds. -/
def typeAlias : Reader Bool := do
  word "type"
  discard name
  discard g.generics
  let bounded ← op? ":"
  if bounded then g.boundList fun ts => Trees.atWord "where" ts || Trees.atAnyOp ["=", ";"] ts
  g.whereClause
  let hasType ← op? "="
  if hasType then discard (g.type true)
  g.whereClause
  op ";"
  pure (hasType && !bounded)

/-- A call of a macro as an item. It may define a name. -/
def itemCall (defines : Bool) : Reader Unit := do
  discard plainPath
  op "!"
  if defines then discard name
  let d ← rawGroup
  if d ≠ .brace then op ";"

/-- Visibility, and whether the item is a default that may be replaced. -/
def itemStart : Reader Unit := do
  visibility
  discard (word? "default")

/-- What stands in a block of methods. A function without a body, and a constant or type that is not a
plain one, are kept as they stand. -/
def implItem : Reader ImplItem := do
  let ((item, written), raw) ← taken (traced do
    let attributes ← g.outerAttributes
    let before ← get
    itemStart
    let ts := (← get).rest
    if atSignature ts then
      let bodiless : Reader Bool := do
        discard g.signature
        op ";"
        pure true
      if ← bodiless <|> pure false then pure (some none)
      else
        set before
        some <$> some <$> g.functionBehind attributes true
    else if Trees.atWord "const" ts then
      pure (if ← g.constant then none else some none)
    else if Trees.atWord "type" ts then
      pure (if ← g.typeAlias then none else some none)
    else
      set before
      itemCall false
      pure none)
  pure (match item with
    | some (some f) => .function f
    | some none => .other raw
    | none => .other written)

/-- A block of methods, which may implement a trait. -/
def implBlock : Reader ImplBlock := do
  let ((isTrait, isGeneric, selfType), header) ← traced do
    discard g.outerAttributes
    discard (word? "default")
    discard (word? "unsafe")
    let opensGenerics ← sees atGenericsBehind
    word "impl"
    let isGeneric ← if opensGenerics then g.generics else pure false
    let negative ← sees fun ts => Trees.atOp "!" ts && !Trees.atGroup .brace (Trees.tail ts)
    let (first, tokens) ← traced do
      if negative then op "!"
      g.type true
    if ← word? "for" then
      match first with
      | .path _ _ _ =>
        let selfType ← g.type true
        g.whereClause
        pure (true, isGeneric, selfType)
      | _ => failure
    else
      g.whereClause
      pure (false, isGeneric, if negative then .other tokens else first)
  let (inner, items) ← group .brace do
    let (_, inner) ← traced g.innerAttributes
    let items ← collect do
      if ← atEnd then pure none else some <$> g.implItem
    pure (inner, items)
  pure ⟨isTrait, isGeneric, selfType, header, inner, items⟩

/-! ## Data types -/

/-- A field with a name. -/
def namedField : Reader Field := do
  let attributes ← g.outerAttributes
  visibility
  let n ← if ← sees (Trees.atWord "_") then anyName else name
  op ":"
  let type ← g.type true
  pure ⟨attributes, n, type⟩

/-- A field without a name. -/
def positionalField : Reader Unit := do
  discard g.outerAttributes
  visibility
  discard (g.type true)

/-- A variant. -/
def variant : Reader Unit := do
  discard g.outerAttributes
  visibility
  discard name
  let ts := (← get).rest
  if Trees.atGroup .brace ts then discard (list .brace g.namedField)
  else if Trees.atGroup .parenthesis ts then discard (list .parenthesis g.positionalField)
  if ← op? "=" then discard (g.expr true)

/-- What a structure is made of, behind its parameters. -/
def structShape : Reader DataShape := do
  let conditional ← sees (Trees.atWord "where")
  g.whereClause
  let ts := (← get).rest
  if !conditional && Trees.atGroup .parenthesis ts then
    discard (list .parenthesis g.positionalField)
    g.whereClause
    op ";"
    pure .positional
  else if Trees.atGroup .brace ts then .named <$> list .brace g.namedField
  else
    op ";"
    pure .unit

/-- A data type behind its attributes. -/
def dataBehind (attributes : List Attribute) : Reader DataItem := do
  visibility
  if ← word? "struct" then
    let n ← name
    let isGeneric ← g.generics
    let shape ← g.structShape
    pure ⟨attributes, n, isGeneric, shape⟩
  else
    let isEnum ← word? "enum"
    if !isEnum then word "union"
    let n ← name
    let isGeneric ← g.generics
    g.whereClause
    if isEnum then discard (list .brace g.variant) else discard (list .brace g.namedField)
    pure ⟨attributes, n, isGeneric, .alternatives⟩

/-- A data type. -/
def dataItem : Reader DataItem := do g.dataBehind (← g.outerAttributes)

/-! ## Statements -/

/-- Names brought into scope. -/
def useItem : Reader Unit := do
  visibility
  word "use"
  discard (op? "::")
  discard (iterate (fun more => do
    if !more then pure none
    else if Trees.atGroup .brace (← get).rest then
      discard rawGroup
      pure (some false)
    else if ← op? "*" then pure (some false)
    else
      discard pathWord
      if ← op? "::" then pure (some true)
      else
        if ← word? "as" then discard (word "_" <|> discard name)
        pure (some false)) true)
  op ";"

/-- The trees behind the visibility of an item. -/
def behindVisibility (ts : Trees) : Trees :=
  if Trees.atWord "pub" ts then
    if Trees.atGroup .parenthesis (Trees.tail ts) then Trees.tail (Trees.tail ts) else Trees.tail ts
  else ts

/-- A binding. -/
def binding : Reader Unit := do
  word "let"
  discard g.pattern
  if ← op? ":" then discard (g.type true)
  if ← op? "=" then
    discard (g.expr true)
    if ← word? "else" then g.block false
  op ";"

/-- A call of a macro with braces that ends a statement. -/
def statementCall : Reader Unit := do
  discard plainPath
  op "!"
  expect fun ts =>
    let behind := Trees.tail ts
    Trees.atGroup .brace ts && !Trees.atOp "?" behind
      && !(Trees.atOp "." behind && !Trees.atOp ".." behind)
  discard rawGroup
  discard (op? ";")

/-- A constant and no block or closure stands in front. -/
def atConstant (ts : Trees) : Bool :=
  let next := Trees.tail ts
  (Trees.atWord "const" ts && (Trees.atName next || Trees.atWord "_" next))
    || (Trees.atWord "static" ts && (Trees.atName next || Trees.atWord "mut" next))

/-- A statement. The answer tells whether a semicolon has to follow. -/
def statement : Reader Bool := do
  let attributes ← g.outerAttributes
  let ts := behindVisibility (← get).rest
  if Trees.atWord "let" ts then
    g.binding
    pure false
  else if atSignature ts then
    discard (g.functionBehind attributes false)
    pure false
  else if Trees.atAnyWord ["struct", "enum"] ts
      || (Trees.atWord "union" ts && Trees.atName (Trees.tail ts)) then
    discard (g.dataBehind attributes)
    pure false
  else if Trees.atWord "impl" ts || (Trees.atWord "unsafe" ts && Trees.atWord "impl" (Trees.tail ts))
  then
    discard g.implBlock
    pure false
  else if Trees.atWord "use" ts then
    useItem
    pure false
  else if Trees.atWord "type" ts then
    visibility
    discard g.typeAlias
    pure false
  else if atConstant ts then
    visibility
    discard g.constant
    pure false
  else
    let called : Reader Bool := do
      statementCall <|> itemCall true
      pure true
    if ← called <|> pure false then pure false
    else
      let form ← g.standing
      let closed ← op? ";"
      pure (!closed && form ≠ .block && form ≠ .bracedCall)

/-- The statements of a body. One that needs a semicolon stands last or has one. -/
def statementList : Reader Unit :=
  discard (collect do
    if ← op? ";" then pure (some ())
    else if ← atEnd then pure none
    else
      let needs ← g.statement
      if needs then expect List.isEmpty
      pure (some ()))

end NativeBridge.Source.Grammar
