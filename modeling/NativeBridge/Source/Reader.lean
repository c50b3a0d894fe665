import NativeBridge.Source.Tree

/-!
# Readers

A `Reader` takes the trees at the front of a sequence and writes them again, one by one, in the
spelling of the grammar: an operator is one unit, whose characters are joined to each other and not to
what follows. So what a reader has accepted is at hand as a sequence of trees that no longer depends
on how close the tokens stood.

Choices look ahead at the trees that are left; the tests for that are functions of a sequence.
-/

namespace NativeBridge.Source

/-! ## Looking ahead -/

namespace Trees

/-- An operator of the given characters stands in front: all but its last are joined. More may
follow. -/
def atMarks : List Char → Trees → Bool
  | [], _ => false
  | [c], .punct d _ :: _ => c = d
  | c :: cs, .punct d joint :: rest => c = d && joint && atMarks cs rest
  | _, _ => false

/-- An operator stands in front. -/
def atOp (op : String) (ts : Trees) : Bool := atMarks op.toList ts

def atAnyOp (ops : List String) (ts : Trees) : Bool := ops.any (atOp · ts)

/-- A lifetime stands in front. -/
def atLifetime : Trees → Bool
  | .punct '\'' true :: .ident _ :: _ => true
  | _ => false

/-- The given word stands in front. -/
def atWord (word : String) : Trees → Bool
  | .ident name :: _ => name = word
  | _ => false

def atAnyWord (words : List String) (ts : Trees) : Bool := words.any (atWord · ts)

/-- Words that are no names. -/
def keywords : List String :=
  ["_", "abstract", "as", "async", "await", "become", "box", "break", "const", "continue", "crate",
    "do", "dyn", "else", "enum", "extern", "false", "final", "fn", "for", "if", "impl", "in", "let",
    "loop", "macro", "match", "mod", "move", "mut", "override", "priv", "pub", "ref", "return",
    "Self", "self", "static", "struct", "super", "trait", "true", "try", "type", "typeof", "unsafe",
    "unsized", "use", "virtual", "where", "while", "yield"]

/-- A name stands in front. -/
def atName : Trees → Bool
  | .ident name :: _ => !keywords.contains name
  | _ => false

/-- A word stands in front, be it a name or not. -/
def atAnyName : Trees → Bool
  | .ident _ :: _ => true
  | _ => false

/-- A group stands in front. -/
def atGroup (d : Delimiter) : Trees → Bool
  | .group e _ :: _ => d = e
  | _ => false

/-- A name or one of the words that may open a path stands in front. -/
def atPathWord (ts : Trees) : Bool := atName ts || atAnyWord ["self", "Self", "super", "crate"] ts

/-- The spelling is that of a number. -/
def isNumber (spelling : String) : Bool := spelling.toList.head?.any fun c => '0' ≤ c && c ≤ '9'

/-- A literal stands in front: a truth value, a number behind a minus sign, or a literal token. -/
def atLiteral : Trees → Bool
  | .literal _ :: _ => true
  | .ident name :: _ => name = "true" || name = "false"
  | .punct '-' _ :: .literal spelling :: _ => isNumber spelling
  | _ => false

/-- The sequence without its first tree. A lifetime counts as one. -/
def tail : Trees → Trees
  | .punct '\'' true :: .ident _ :: rest => rest
  | _ :: rest => rest
  | [] => []

/-- The trees of an operator. -/
def ofMarks : List Char → Trees
  | [] => []
  | [c] => [.punct c false]
  | c :: cs => .punct c true :: ofMarks cs

end Trees

/-! ## Readers -/

/-- The trees that are left, and those that have been written, last first. -/
structure Cursor where
  rest : Trees
  written : Trees

/-- Takes trees and writes them again, or refuses. -/
abbrev Reader := StateT Cursor Option

namespace Reader

/-- What holds of the trees that are left. -/
def sees (test : Trees → Bool) : Reader Bool := do pure (test (← get).rest)

def atEnd : Reader Bool := sees List.isEmpty

/-- Goes on only if the test holds of the trees that are left. -/
def expect (test : Trees → Bool) : Reader Unit := do guard (← sees test)

def write (ts : Trees) : Reader Unit := modify fun c => { c with written := ts.reverse ++ c.written }

/-- Drops trees without writing them. -/
def drop (n : Nat) : Reader Unit := modify fun c => { c with rest := c.rest.drop n }

/-- Runs a reader and keeps what it writes apart. -/
def capture {α : Type} (p : Reader α) : Reader (α × Trees) := do
  let written := (← get).written
  modify fun c => { c with written := [] }
  let a ← p
  let inner := (← get).written
  modify fun c => { c with written := written }
  pure (a, inner.reverse)

/-- Runs a reader and gives what it writes besides its answer. -/
def traced {α : Type} (p : Reader α) : Reader (α × Trees) := do
  let (a, ts) ← capture p
  write ts
  pure (a, ts)

/-- Runs a reader and gives the trees that it took besides its answer. -/
def taken {α : Type} (p : Reader α) : Reader (α × Trees) := do
  let before := (← get).rest
  let a ← p
  pure (a, before.take (before.length - (← get).rest.length))

/-- An operator. -/
def op (s : String) : Reader Unit := do
  expect (Trees.atOp s)
  drop s.length
  write (Trees.ofMarks s.toList)

/-- Leaves an operator out. -/
def skipOp (s : String) : Reader Unit := do
  expect (Trees.atOp s)
  drop s.length

/-- Takes an operator if it stands in front, and tells whether it did. -/
def op? (s : String) : Reader Bool := do
  if ← sees (Trees.atOp s) then
    op s
    pure true
  else pure false

/-- Takes the first of some operators that stands in front, and tells whether there is one. -/
def anyOp? (ops : List String) : Reader Bool := do
  match ops.find? (Trees.atOp · (← get).rest) with
  | some s =>
    op s
    pure true
  | none => pure false

/-- A given word. -/
def word (s : String) : Reader Unit := do
  expect (Trees.atWord s)
  drop 1
  write [.ident s]

/-- Takes a word if it stands in front, and tells whether it did. -/
def word? (s : String) : Reader Bool := do
  if ← sees (Trees.atWord s) then
    word s
    pure true
  else pure false

/-- A word, be it a name or not. -/
def anyName : Reader String := do
  match (← get).rest with
  | .ident name :: _ =>
    drop 1
    write [.ident name]
    pure name
  | _ => failure

/-- A name. -/
def name : Reader String := do
  expect Trees.atName
  anyName

def lifetime : Reader Unit := do
  expect Trees.atLifetime
  drop 1
  write [.punct '\'' true]
  discard anyName

/-- A literal. A minus sign in front of a number stays a token of its own. -/
def literal : Reader Unit := do
  expect Trees.atLiteral
  match (← get).rest with
  | .punct _ _ :: .literal spelling :: _ =>
    drop 2
    write [.punct '-' false, .literal spelling]
  | t :: _ =>
    drop 1
    write [t]
  | [] => failure

/-- A literal token, by its spelling. -/
def literalToken : Reader String := do
  match (← get).rest with
  | .literal spelling :: _ =>
    drop 1
    write [.literal spelling]
    pure spelling
  | _ => failure

/-- A group whose content the reader takes up to its end. -/
def group {α : Type} (d : Delimiter) (p : Reader α) : Reader α := do
  match (← get).rest with
  | .group e inner :: _ =>
    guard (d = e)
    drop 1
    let (a, c) ← StateT.lift (p.run ⟨inner, []⟩)
    guard c.rest.isEmpty
    write [.group d c.written.reverse]
    pure a
  | _ => failure

/-- A group as it is, in delimiters that are written. -/
def rawGroup : Reader Delimiter := do
  match (← get).rest with
  | .group d inner :: _ =>
    guard (d ≠ .invisible)
    drop 1
    write [.group d inner]
    pure d
  | _ => failure

/-- Runs a reader if the test holds of the trees that are left. -/
def optionally (test : Trees → Bool) (p : Reader Unit) : Reader Unit := do
  if ← sees test then p

/-- Answers of a reader that is run until it has none, at most so many times. -/
def collectAtMost {α : Type} : Nat → Reader (Option α) → Reader (List α)
  | 0, _ => failure
  | n + 1, p => do
    match ← p with
    | some a => (a :: ·) <$> collectAtMost n p
    | none => pure []

/-- Answers of a reader that is run until it has none. Each answer takes a tree. -/
def collect {α : Type} (p : Reader (Option α)) : Reader (List α) := do
  collectAtMost ((← get).rest.length + 1) p

/-- The state that a step reaches when it is run until it has no next one, at most so many times. -/
def iterateAtMost {σ : Type} : Nat → (σ → Reader (Option σ)) → σ → Reader σ
  | 0, _, _ => failure
  | n + 1, step, s => do
    match ← step s with
    | some next => iterateAtMost n step next
    | none => pure s

/-- The state that a step reaches when it is run until it has no next one. Each step takes a tree. -/
def iterate {σ : Type} (step : σ → Reader (Option σ)) (s : σ) : Reader σ := do
  iterateAtMost ((← get).rest.length + 1) step s

/-- Items with an operator between them, up to the point where the test holds, the operator behind the
last one permitted. -/
def separated {α : Type} (separator : String) (ends : Trees → Bool) (item : Reader α) :
    Reader (List α) :=
  collect do
    if ← sees ends then pure none
    else
      let a ← item
      if !(← sees ends) then op separator
      pure (some a)

/-- Items with commas between them that fill a group. -/
def list {α : Type} (d : Delimiter) (item : Reader α) : Reader (List α) :=
  group d (separated "," List.isEmpty item)

/-- What a reader makes of a whole sequence: its answer, and the trees as written. -/
def readAll? {α : Type} (p : Reader α) (ts : Trees) : Option (α × Trees) := do
  let (a, c) ← p.run ⟨ts, []⟩
  if c.rest.isEmpty then some (a, c.written.reverse) else none

end Reader

end NativeBridge.Source
