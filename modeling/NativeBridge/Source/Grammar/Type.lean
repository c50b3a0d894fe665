import NativeBridge.Source.Grammar.Attribute

/-!
# Paths, types and generics

Paths with their arguments, bounds, types, and the generic parameters and conditions of items. In
angle brackets lifetimes are written in front of all else, and brackets without content in front of an
item's parameters are left out.
-/

namespace NativeBridge.Source.Grammar

open Reader

variable (g : Grammar)

/-! ## Lists in angle brackets -/

/-- An entry of a list in angle brackets. -/
structure AngleEntry where
  isLifetime : Bool
  /-- The type that the entry is, if it is one. -/
  type : Option TypeExpr
  tokens : Trees
  comma : Bool

/-- Writes entries one after the other, with a comma where one would have to stand. -/
def AngleEntry.written : Bool → List AngleEntry → Trees
  | _, [] => []
  | separated, e :: rest =>
    (if separated then [] else Trees.ofMarks [',']) ++ e.tokens
      ++ (if e.comma then Trees.ofMarks [','] else []) ++ AngleEntry.written e.comma rest

/-- Puts lifetimes first. -/
def AngleEntry.ordered (es : List AngleEntry) : List AngleEntry :=
  es.filter (·.isLifetime) ++ es.filter (!·.isLifetime)

/-- The entries of a list, up to its closing bracket and not written yet. -/
def angleEntries (entry : Reader (Bool × Option TypeExpr)) : Reader (List AngleEntry) :=
  collect do
    if ← sees (Trees.atOp ">") then pure none
    else
      let ((isLifetime, type), tokens) ← capture entry
      let comma := !(← sees (Trees.atOp ">"))
      if comma then skipOp ","
      pure (some ⟨isLifetime, type, tokens, comma⟩)

/-- A list in angle brackets. The answer is its first type. -/
def angleList (entry : Reader (Bool × Option TypeExpr)) : Reader (Option TypeExpr) := do
  op "<"
  let es ← angleEntries entry
  write (AngleEntry.written true (AngleEntry.ordered es))
  op ">"
  pure (es.findSome? (·.type))

/-! ## Paths -/

/-- Arguments of a name in a path. -/
inductive PathArguments
  | none
  /-- In angle brackets; the first type among them. -/
  | angle (type : Option TypeExpr)
  /-- Those of a function, in parentheses. -/
  | parenthesized

/-- A name in a path. -/
structure Segment where
  name : String
  arguments : PathArguments

/-- A path: whether it starts at a type in angle brackets, whether it starts with colons, and its
names. -/
structure PathForm where
  isQualified : Bool
  hasLead : Bool
  segments : List Segment

namespace PathForm

/-- No name has arguments. -/
def isPlain (p : PathForm) : Bool :=
  !p.isQualified && p.segments.all fun s => match s.arguments with | .none => true | _ => false

/-- The path is one name, with arguments in angle brackets at most. -/
def isSingle (p : PathForm) : Bool :=
  match p.segments with
  | [s] =>
    !p.isQualified && !p.hasLead && match s.arguments with | .parenthesized => false | _ => true
  | _ => false

/-- The first type among the arguments of a last name `Result`. -/
def ok? (p : PathForm) : Option TypeExpr :=
  match p.segments.getLast? with
  | some ⟨"Result", .angle type⟩ => type
  | _ => none

/-- The last name has no arguments. -/
def endsPlain (p : PathForm) : Bool :=
  match p.segments.getLast? with
  | some ⟨_, .none⟩ => true
  | _ => false

/-- The path with arguments in parentheses behind its last name. -/
def withParenthesized (p : PathForm) : PathForm :=
  match p.segments.getLast? with
  | some s => { p with segments := p.segments.dropLast ++ [⟨s.name, .parenthesized⟩] }
  | none => p

end PathForm

/-- A constant, or a bound or value of an associated type, or a type, or a lifetime. -/
def genericArgument : Reader (Bool × Option TypeExpr) := do
  let ts := (← get).rest
  if Trees.atLifetime ts && !Trees.atOp "+" (Trees.tail ts) then
    lifetime
    pure (true, none)
  else if Trees.atLiteral ts then
    literal
    pure (false, none)
  else if Trees.atGroup .brace ts then
    group .brace g.statements
    pure (false, none)
  else
    let type ← g.type true
    match type with
    | .path true _ _ =>
      if ← op? "=" then
        let ts := (← get).rest
        if Trees.atLiteral ts then literal
        else if Trees.atGroup .brace ts then group .brace g.statements
        else discard (g.type true)
        pure (false, none)
      else if ← op? ":" then
        discard (separated "+" (Trees.atAnyOp [",", ">"]) g.bound)
        pure (false, none)
      else pure (false, some type)
    | _ => pure (false, some type)

/-- The type that a function returns. -/
def returnType (plus : Bool) : Reader (Option TypeExpr) := do
  if ← op? "->" then some <$> g.type plus else pure none

/-- The arguments of a function type. The answer tells whether it returns something. -/
def parenthesizedArguments : Reader Bool := do
  discard (list .parenthesis (g.type true))
  pure (← g.returnType false).isSome

/-- Lifetimes, joined by plus signs. -/
def lifetimeBounds (ends : Trees → Bool) : Reader Unit := discard (separated "+" ends lifetime)

/-- A parameter that is a lifetime. A colon without bounds is left out. -/
def lifetimeParameter : Reader Unit := do
  lifetime
  if ← sees (Trees.atOp ":") then
    skipOp ":"
    let ((), bounds) ← capture do
      discard (iterate (fun more => do
        if more && (← sees Trees.atLifetime) then
          lifetime
          some <$> op? "+"
        else pure none) true)
    if !bounds.isEmpty then write (Trees.ofMarks [':'] ++ bounds)

/-- Lifetimes that a type is stated for. -/
def binder : Reader Unit := do
  word "for"
  op "<"
  discard (separated "," (Trees.atOp ">") do
    discard g.outerAttributes
    lifetimeParameter)
  op ">"

/-- The reader of arguments in angle brackets, colons in front permitted. -/
def angleArguments : Reader (Option TypeExpr) := do
  discard (op? "::")
  angleList (g.genericArgument)

/-- A double colon and a test of what is behind it. -/
def atColonsThen (test : Trees → Bool) (ts : Trees) : Bool := Trees.atOp "::" ts && test (ts.drop 2)

/-- A name of a path with its arguments. In an expression these need colons in front. -/
def segment (inExpr : Bool) : Reader Segment := do
  let ts := (← get).rest
  if Trees.atAnyWord ["super", "self", "crate", "try"] ts then
    pure ⟨← anyName, .none⟩
  else
    let n ← if Trees.atWord "Self" ts then anyName else name
    let ts := (← get).rest
    if (!inExpr && Trees.atOp "<" ts && !Trees.atOp "<=" ts) || atColonsThen (Trees.atOp "<") ts then
      pure ⟨n, .angle (← g.angleArguments)⟩
    else pure ⟨n, .none⟩

/-- Further names of a path. -/
def furtherSegments (inExpr : Bool) (p : PathForm) : Reader PathForm :=
  iterate (fun p => do
    let ts := (← get).rest
    if Trees.atOp "::" ts && !Trees.atGroup .parenthesis (ts.drop 2) then
      op "::"
      let s ← g.segment inExpr
      pure (some { p with segments := p.segments ++ [s] })
    else pure none) p

/-- A path that starts at no type. -/
def unqualifiedPath (inExpr : Bool) : Reader PathForm := do
  let lead ← op? "::"
  let s ← g.segment inExpr
  g.furtherSegments inExpr ⟨false, lead, [s]⟩

/-- Arguments of a function behind the last name of a path, if they stand there. Colons in front of
them are left out. -/
def functionArguments (goesOn : Bool) (p : PathForm) : Reader PathForm :=
  iterate (fun p => do
    let ts := (← get).rest
    if p.endsPlain
        && (Trees.atGroup .parenthesis ts || atColonsThen (Trees.atGroup .parenthesis) ts) then
      if Trees.atOp "::" ts then skipOp "::"
      let returns ← g.parenthesizedArguments
      let p := p.withParenthesized
      if goesOn && !returns then some <$> g.furtherSegments false p else pure (some p)
    else pure none) p

/-! ## Bounds -/

/-- A trait that a type has to implement. -/
def traitBound : Reader Unit := do
  optionally (Trees.atWord "for") g.binder
  if !(← op? "?") then
    if ← op? "~" then word "const"
  optionally (Trees.atWord "for") g.binder
  let p ← g.unqualifiedPath false
  discard (g.functionArguments false p)

/-- A bound. The answer tells whether it is a trait. -/
def boundForm : Reader Bool := do
  let ts := (← get).rest
  if Trees.atLifetime ts then
    lifetime
    pure false
  else
    if Trees.atGroup .parenthesis ts then group .parenthesis (g.traitBound)
    else g.traitBound
    pure true

/-- A bound can start here. -/
def opensBound (ts : Trees) : Bool :=
  Trees.atAnyName ts || Trees.atAnyOp ["::", "?", "~"] ts || Trees.atLifetime ts
    || Trees.atGroup .parenthesis ts

/-- Bounds joined by plus signs, at least one. The flag permits more than one; the answer tells
whether a trait is among them. -/
def bounds (plus : Bool) : Reader Bool := do
  let first ← g.bound
  iterate (fun isTrait => do
    if plus && (← sees (Trees.atOp "+")) then
      op "+"
      if ← sees opensBound then
        let next ← g.bound
        pure (some (isTrait || next))
      else pure (some isTrait)
    else pure none) first

/-- Bounds behind a colon, none permitted, up to what ends the list. -/
def boundList (ends : Trees → Bool) : Reader Unit :=
  discard (iterate (fun more => do
    if more && !(← sees ends) then
      discard (g.bound)
      some <$> op? "+"
    else pure none) true)

/-- A path, which may start at a type. In an expression its arguments need colons in front. -/
def path (inExpr : Bool) : Reader PathForm := do
  if ← op? "<" then
    discard (g.type true)
    if ← word? "as" then discard (g.unqualifiedPath false)
    op ">"
    op "::"
    let s ← g.segment inExpr
    iterate (fun p => do
      if ← op? "::" then
        let s ← g.segment inExpr
        pure (some { p with segments := p.segments ++ [s] })
      else pure none) ⟨true, false, [s]⟩
  else g.unqualifiedPath inExpr

/-- A path that is a type. -/
def typePath : Reader PathForm := do
  let p ← g.path false
  g.functionArguments true p

/-! ## Types -/

/-- The parameters of a function type. -/
def bareParameters : Reader Unit :=
  discard (list .parenthesis do
    discard g.outerAttributes
    let ts := (← get).rest
    if (Trees.atName ts || Trees.atAnyWord ["_", "self"] ts) && Trees.atOp ":" (Trees.tail ts)
        && !Trees.atOp "::" (Trees.tail ts) then
      discard anyName
      op ":"
    if ← sees (Trees.atOp "...") then op "..." else discard (g.type true))

/-- A function type. -/
def functionType : Reader Unit := do
  discard (word? "unsafe")
  linkage
  word "fn"
  g.bareParameters
  discard (g.returnType false)

/-- Further bounds behind a first one. -/
def moreBounds : Reader Unit := do
  op "+"
  optionally opensBound (discard (g.bounds true))

/-- What parentheses hold: a trait that need not be met, a list of types, or one type. The answer is
whether bounds may follow. -/
def parenthesizedType : Reader Bool :=
  group .parenthesis do
    let ts := (← get).rest
    if ts.isEmpty then pure false
    else if Trees.atOp "?" ts then
      g.traitBound
      pure true
    else
      let first ← g.type true
      if ← op? "," then
        discard (separated "," List.isEmpty (g.type true))
        pure false
      else
        match first with
        | .path _ _ _ => pure true
        | _ => pure false

/-- A type, and how its trees make one. -/
def typeForm (plus : Bool) : Reader (Trees → TypeExpr) := do
  let ts := (← get).rest
  if Trees.atGroup .invisible ts then
    discard (group .invisible (g.type true))
    return .other
  let stated := Trees.atWord "for" ts
  if stated then g.binder
  let ts := (← get).rest
  if !stated && Trees.atGroup .parenthesis ts then
    let mayGoOn ← g.parenthesizedType
    if plus && mayGoOn && (← sees (Trees.atOp "+")) then g.moreBounds
    pure .other
  else if Trees.atAnyWord ["fn", "unsafe", "extern"] ts then
    g.functionType
    pure .other
  else if Trees.atPathWord ts || (!stated && Trees.atAnyOp ["::", "<"] ts) then
    let p ← g.typePath
    let ts := (← get).rest
    if p.isQualified then pure (.path false p.ok?)
    else if p.isPlain && Trees.atOp "!" ts && !Trees.atOp "!=" ts then
      op "!"
      discard rawGroup
      pure .other
    else if stated || (plus && Trees.atOp "+" ts) then
      if plus && Trees.atOp "+" ts then g.moreBounds
      pure .other
    else pure (.path p.isSingle p.ok?)
  else if stated then failure
  else if ← word? "dyn" then
    discard (op? "*")
    guard (← g.bounds plus)
    pure .other
  else if Trees.atGroup .bracket ts then
    group .bracket do
      discard (g.type true)
      if ← op? ";" then discard (g.expr true)
    pure .other
  else if ← op? "*" then
    if !(← word? "const") then word "mut"
    discard (g.type false)
    pure .other
  else if ← op? "&" then
    optionally Trees.atLifetime lifetime
    discard (word? "mut")
    discard (g.type false)
    pure .reference
  else if Trees.atOp "!" ts && !Trees.atOp "!=" ts then
    op "!"
    pure .other
  else if ← word? "impl" then
    guard (← g.bounds plus)
    pure .implTrait
  else if ← word? "_" then pure .other
  else if Trees.atLifetime ts then
    guard (← g.bounds plus)
    pure .other
  else failure

/-- A type. -/
def typeExpr (plus : Bool) : Reader TypeExpr := do
  let (make, tokens) ← traced (g.typeForm plus)
  pure (make tokens)

/-! ## Generics -/

/-- A constant that stands for a parameter: a literal, a name or a block. -/
def constantArgument : Reader Unit := do
  let ts := (← get).rest
  if Trees.atLiteral ts then literal
  else if Trees.atName ts then discard name
  else group .brace g.statements

/-- A generic parameter. The answer tells whether it is a lifetime. -/
def genericParameter : Reader Bool := do
  discard g.outerAttributes
  let ts := (← get).rest
  if Trees.atLifetime ts then
    lifetimeParameter
    pure true
  else if ← word? "const" then
    discard name
    op ":"
    discard (g.type true)
    if ← op? "=" then g.constantArgument
    pure false
  else if ← word? "_" then pure false
  else
    discard name
    if ← sees (Trees.atOp ":") then
      skipOp ":"
      let ((), bounds) ← capture (g.boundList (Trees.atAnyOp [",", ">", "="]))
      if !bounds.isEmpty then write (Trees.ofMarks [':'] ++ bounds)
    if ← op? "=" then discard (g.type true)
    pure false

/-- Generic parameters. The answer tells whether there are any; brackets without content are left
out. -/
def generics : Reader Bool := do
  if ← sees (Trees.atOp "<") then
    skipOp "<"
    let es ← angleEntries do pure (← g.genericParameter, none)
    skipOp ">"
    if !es.isEmpty then
      write (Trees.ofMarks ['<'] ++ AngleEntry.written true (AngleEntry.ordered es)
        ++ Trees.ofMarks ['>'])
    pure !es.isEmpty
  else pure false

/-- What ends a bound in a condition. -/
def endsCondition (ts : Trees) : Bool :=
  ts.isEmpty || Trees.atGroup .brace ts || Trees.atAnyOp [",", ";", "="] ts
    || (Trees.atOp ":" ts && !Trees.atOp "::" ts)

/-- A condition: bounds of a lifetime or a type. -/
def condition : Reader Unit := do
  let ts := (← get).rest
  if Trees.atLifetime ts && Trees.atOp ":" (Trees.tail ts) then
    lifetime
    op ":"
    lifetimeBounds endsCondition
  else
    optionally (Trees.atWord "for") g.binder
    discard (g.type true)
    op ":"
    g.boundList endsCondition

/-- Conditions of an item. Without any, the word in front is left out. -/
def whereClause : Reader Unit := do
  if ← sees (Trees.atWord "where") then
    drop 1
    let ((), conditions) ← capture do
      discard (iterate (fun more => do
        if more && !(← sees endsCondition) then
          g.condition
          some <$> op? ","
        else pure none) true)
    if !conditions.isEmpty then write (.ident "where" :: conditions)

end NativeBridge.Source.Grammar
