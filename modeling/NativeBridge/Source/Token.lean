import NativeBridge.Source.Lexeme
import NativeBridge.Source.Tree

/-!
# Tokens

A text is split into tokens (`Token.ofText?`), blanks and comments left out, and tokens are put
together into trees (`Trees.ofTokens?`), each delimiter closed by its own kind. A comment that
documents what follows stands for an attribute `doc`.
-/

namespace NativeBridge.Source

/-- What a text is split into: the delimiters of groups, and all other tokens. -/
inductive Token
  | opening (d : Delimiter)
  | closing (d : Delimiter)
  | leaf (tree : Tree)

namespace Token

open Lexeme

/-! ## Blanks and comments -/

/-- White space, and the marks that set the direction of a text. -/
def isBlank (c : Char) : Bool :=
  let n := c.toNat
  c = ' ' || (0x09 ≤ n && n ≤ 0x0d) || n = 0x85 || n = 0xa0 || n = 0x1680
    || (0x2000 ≤ n && n ≤ 0x200a) || n = 0x200e || n = 0x200f || n = 0x2028 || n = 0x2029
    || n = 0x202f || n = 0x205f || n = 0x3000

/-- The text up to the end of its line. -/
def line : List Char → List Char
  | [] => []
  | '\n' :: _ => []
  | '\r' :: '\n' :: _ => []
  | c :: rest => c :: line rest

/-- The text behind a block comment, in which comments may be nested, from a given depth on. -/
def behindBlock : Nat → List Char → Rest
  | depth, '/' :: '*' :: rest => behindBlock (depth + 1) rest
  | depth, '*' :: '/' :: rest => if depth ≤ 1 then some rest else behindBlock (depth - 1) rest
  | depth, _ :: rest => behindBlock depth rest
  | _, [] => none

/-- A comment that runs to the end of its line and documents nothing. -/
def opensLineComment (cs : List Char) : Bool :=
  startsWithAny ["//"] cs && !startsWithAny ["//!"] cs
    && (!startsWithAny ["///"] cs || startsWithAny ["////"] cs)

/-- A block comment that documents nothing. -/
def opensBlockComment (cs : List Char) : Bool :=
  startsWithAny ["/*"] cs && !startsWithAny ["/*!"] cs
    && (!startsWithAny ["/**"] cs || startsWithAny ["/***", "/**/"] cs)

/-- The text behind one blank or comment, if it starts with one. -/
def behindBlank (cs : List Char) : Rest :=
  if opensLineComment cs then some (cs.drop (line cs).length)
  else if opensBlockComment cs then behindBlock 0 cs
  else
    match cs with
    | c :: rest => if isBlank c then some rest else none
    | [] => none

/-- The text behind blanks and comments. -/
def skipBlanks (cs : List Char) : List Char :=
  match behindBlank cs with
  | some rest => if _ : rest.length < cs.length then skipBlanks rest else cs
  | none => cs
termination_by cs.length

/-! ## Documentation -/

/-- The tokens of an attribute `doc`. An inner one describes what it stands in. -/
def documentation (inner : Bool) (content : List Char) : List Token :=
  let value : Trees :=
    [.ident "doc", .punct '=' false, .literal (Literal.ofText (String.ofList content))]
  leaf (.punct '#' false) :: ((if inner then [leaf (.punct '!' false)] else [])
    ++ [leaf (.group .bracket value)])

/-- A comment that documents: whether it is an inner one, its content, and the text behind it. -/
def docComment (cs : List Char) : Option (Bool × List Char × List Char) :=
  let ofLine (inner : Bool) : Option (Bool × List Char × List Char) :=
    let content := line (cs.drop 3)
    some (inner, content, cs.drop (3 + content.length))
  let ofBlock (inner : Bool) : Option (Bool × List Char × List Char) := do
    let rest ← behindBlock 0 cs
    some (inner, (cs.take (cs.length - rest.length - 2)).drop 3, rest)
  if startsWithAny ["//!"] cs then ofLine true
  else if startsWithAny ["/*!"] cs then ofBlock true
  else if startsWithAny ["///"] cs && !startsWithAny ["////"] cs then ofLine false
  else if startsWithAny ["/**"] cs && !startsWithAny ["/***"] cs then ofBlock false
  else none

/-! ## Tokens -/

/-- The punctuation character that the text starts with. The slash of a comment is none. -/
def mark? (cs : List Char) : Option Char :=
  if startsWithAny ["//", "/*"] cs then none
  else cs.head?.filter "~!@#$%^&*-=+|;:,<.>/?'".toList.contains

/-- A punctuation character is joined to one that follows at once. An apostrophe opens a lifetime and
is joined to its name. -/
def punctuation (cs : List Char) : Option (Tree × List Char) := do
  let c ← mark? cs
  let rest := cs.drop 1
  if c = '\'' then
    let behind ← markedName rest
    if behind.head? = some '\'' || (behind.head? = some '#' && !startsWithAny ["r#"] rest) then none
    else some (.punct c true, rest)
  else some (.punct c (mark? rest).isSome, rest)

/-- A token that is no delimiter, and the text behind it. -/
def leafOf (cs : List Char) : Option (Tree × List Char) :=
  match literal cs with
  | some rest => some (.literal (spelled cs rest), rest)
  | none =>
    match punctuation cs with
    | some p => some p
    | none => (identifier cs).map fun rest => (.ident (spelled cs rest), rest)

/-- The tokens at the front of a text that starts with no blank. -/
def front (cs : List Char) : Option (List Token × List Char) :=
  match (docComment cs).filter fun d => returnsPaired d.2.1 with
  | some (inner, content, rest) => some (documentation inner content, rest)
  | none =>
    match cs with
    | '(' :: rest => some ([opening .parenthesis], rest)
    | '[' :: rest => some ([opening .bracket], rest)
    | '\x7b' :: rest => some ([opening .brace], rest)
    | ')' :: rest => some ([closing .parenthesis], rest)
    | ']' :: rest => some ([closing .bracket], rest)
    | '\x7d' :: rest => some ([closing .brace], rest)
    | cs => (leafOf cs).map fun l => ([leaf l.1], l.2)

/-- The tokens of a sequence of characters. -/
def ofChars? (cs : List Char) : Option (List Token) :=
  let text := skipBlanks cs
  if text.isEmpty then some []
  else
    match front text with
    | some (tokens, rest) =>
      if _ : rest.length < cs.length then (tokens ++ ·) <$> ofChars? rest else none
    | none => none
termination_by cs.length

/-- The tokens of a text. A byte order mark in front is no part of it. -/
def ofText? (s : String) : Option (List Token) :=
  match s.toList with
  | '\ufeff' :: rest => ofChars? rest
  | cs => ofChars? cs

end Token

namespace Trees

/-- A group whose closing delimiter has not been met: what stands in front of it, last first, and its
delimiter. -/
abbrev Open := List (List Tree × Delimiter)

/-- Puts tokens together. The trees of the innermost open group are held last first. -/
def assemble : List Token → List Tree → Open → Option Trees
  | [], trees, [] => some trees.reverse
  | [], _, _ :: _ => none
  | .leaf t :: rest, trees, outer => assemble rest (t :: trees) outer
  | .opening d :: rest, trees, outer => assemble rest [] ((trees, d) :: outer)
  | .closing d :: rest, trees, (before, e) :: outer =>
    if d = e then assemble rest (.group d trees.reverse :: before) outer else none
  | .closing _ :: _, _, [] => none

/-- The trees of a sequence of tokens, if every delimiter is matched. -/
def ofTokens? (tokens : List Token) : Option Trees := assemble tokens [] []

/-- The trees of a text. -/
def ofText? (s : String) : Option Trees := Token.ofText? s >>= ofTokens?

end Trees

end NativeBridge.Source
