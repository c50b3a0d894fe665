import NativeBridge.Text.IdentifierStart
import NativeBridge.Text.IdentifierContinue
import NativeBridge.Source.Literal

/-!
# Lexemes

Identifiers and literals at the front of a text. Each reader takes the characters of a text and gives
what is behind the lexeme, or nothing if the text does not start with one; `Lexeme.spelled` is the
lexeme itself. A literal may carry a suffix, which is an identifier.
-/

namespace NativeBridge.Source.Lexeme

/-- What a reader leaves of a text. -/
abbrev Rest := Option (List Char)

def isIdentStart (c : Char) : Bool := c = '_' || Text.identifierStart.contains c

def isIdentContinue (c : Char) : Bool := Text.identifierContinue.contains c

/-- The characters that a reader took from a text. -/
def spelled (cs rest : List Char) : String := String.ofList (cs.take (cs.length - rest.length))

/-- The text behind the given start. -/
def after (start : String) (cs : List Char) : Rest :=
  if start.toList.isPrefixOf cs then some (cs.drop start.length) else none

/-- The text starts with one of the given texts. -/
def startsWithAny (starts : List String) (cs : List Char) : Bool :=
  starts.any fun s => s.toList.isPrefixOf cs

/-! ## Identifiers -/

/-- A name without a mark in front. -/
def name : List Char → Rest
  | c :: rest => if isIdentStart c then some (rest.dropWhile isIdentContinue) else none
  | [] => none

/-- Names that the mark `r#` cannot make plain. -/
def reserved : List String := ["_", "super", "self", "Self", "crate"]

/-- A name, marked with `r#` or not. -/
def markedName (cs : List Char) : Rest :=
  match after "r#" cs with
  | some inner => do
    let rest ← name inner
    if reserved.contains (spelled inner rest) then none else some rest
  | none => name cs

/-- An identifier. What starts like a string with a mark in front is none. -/
def identifier (cs : List Char) : Rest :=
  if startsWithAny ["r\"", "r#\"", "r##", "b\"", "b'", "br\"", "br#", "c\"", "cr\"", "cr#"] cs then none
  else markedName cs

/-- The text behind a suffix, if there is one. -/
def behindSuffix (cs : List Char) : List Char := (name cs).getD cs

/-! ## Quoted literals -/

/-- The rules that tell text, bytes and strings that end in a zero apart. -/
structure QuoteRules where
  /-- Characters that may stand as they are. -/
  plain : Char → Bool
  /-- The two digits behind `\x`. -/
  hex : Char → Char → Bool
  /-- The escape `\0` is permitted. -/
  zero : Bool
  /-- The value of an escape `\u`, if that is permitted. -/
  point : Nat → Bool

def isHex (c : Char) : Bool := (Literal.hexDigit? c).isSome

/-- Number of a Unicode scalar value. -/
def isScalar (n : Nat) : Bool := n < 0xD800 || (0xDFFF < n && n < 0x110000)

def textRules : QuoteRules where
  plain _ := true
  hex a b := '0' ≤ a && a ≤ '7' && isHex b
  zero := true
  point := isScalar

def byteRules : QuoteRules where
  plain c := c.toNat < 128
  hex a b := isHex a && isHex b
  zero := true
  point _ := false

def zeroEndedRules : QuoteRules where
  plain c := c ≠ '\x00'
  hex a b := isHex a && isHex b && !(a = '0' && b = '0')
  zero := false
  point n := isScalar n && n ≠ 0

/-- The digits of an escape `\u`, behind its brace: one to six, with underscores behind the first. -/
def pointEscape (rules : QuoteRules) (cs : List Char) : Rest :=
  let inner := cs.takeWhile fun c => isHex c || c = '_'
  let digits := inner.filter isHex
  if inner.head? = some '_' || digits.isEmpty || 6 < digits.length then none
  else if rules.point (Literal.hexValue digits) then after "\x7d" (cs.drop inner.length)
  else none

/-- An escape behind its backslash, but for one that continues a line. -/
def escape (rules : QuoteRules) : List Char → Rest
  | 'x' :: a :: b :: rest => if rules.hex a b then some rest else none
  | 'u' :: '\x7b' :: rest => pointEscape rules rest
  | '0' :: rest => if rules.zero then some rest else none
  | c :: rest => if "nrt\\'\"".toList.contains c then some rest else none
  | [] => none

/-- A carriage return stands only in front of a line feed. -/
def returnsPaired : List Char → Bool
  | [] => true
  | '\r' :: '\n' :: rest => returnsPaired rest
  | '\r' :: _ => false
  | _ :: rest => returnsPaired rest

/-- The text behind the blanks that continue a line. Something has to follow. -/
def continued (cs : List Char) : Rest :=
  let blanks := cs.takeWhile Literal.isBlank
  match cs.drop blanks.length with
  | [] => none
  | rest => if returnsPaired blanks then some rest else none

/-- A quoted literal behind its opening quote. -/
def quoted (rules : QuoteRules) (cs : List Char) : Rest :=
  match cs with
  | [] => none
  | '"' :: rest => some (behindSuffix rest)
  | '\r' :: rest =>
    match rest with
    | '\n' :: rest => quoted rules rest
    | _ => none
  | '\\' :: rest =>
    let next := if rest.head?.any fun c => c = '\n' || c = '\r' then continued rest else escape rules rest
    match next with
    | some next => if _ : next.length < rest.length + 1 then quoted rules next else none
    | none => none
  | c :: rest => if rules.plain c then quoted rules rest else none
termination_by cs.length
decreasing_by
  all_goals simp only [List.length_cons]
  all_goals omega

/-- A raw literal behind its opening quote: it ends at a quote with as many marks as opened it. -/
def rawQuoted (rules : QuoteRules) (marks : Nat) : List Char → Rest
  | [] => none
  | '\r' :: '\n' :: rest => rawQuoted rules marks rest
  | '\r' :: _ => none
  | c :: rest =>
    if c = '"' && marks ≤ (rest.takeWhile (· = '#')).length then some (behindSuffix (rest.drop marks))
    else if rules.plain c then rawQuoted rules marks rest
    else none

/-- A raw literal from its marks on. -/
def raw (rules : QuoteRules) (cs : List Char) : Rest :=
  let marks := (cs.takeWhile (· = '#')).length
  match cs.drop marks with
  | '"' :: rest => if marks ≤ 255 then rawQuoted rules marks rest else none
  | _ => none

/-- A string literal of one kind, plain or raw, by what stands in front of its quote. -/
def stringOf (rules : QuoteRules) (mark : String) (cs : List Char) : Rest :=
  match after (mark ++ "\"") cs with
  | some rest => quoted rules rest
  | none => after (mark ++ "r") cs >>= raw rules

/-- A literal of one character behind its opening quote. -/
def single (rules : QuoteRules) (cs : List Char) : Rest := do
  let rest ← match cs with
    | '\\' :: rest => escape rules rest
    | c :: rest => if rules.plain c then some rest else none
    | [] => none
  behindSuffix <$> after "'" rest

/-! ## Numbers -/

/-- The text behind a suffix of a number, at which the word has to end. -/
def numberEnd (cs : List Char) : Rest :=
  let rest := behindSuffix cs
  if rest.head?.any isIdentContinue then none else some rest

def isDigit (c : Char) : Bool := '0' ≤ c && c ≤ '9'

def isDigitOrMark (c : Char) : Bool := isDigit c || c = '_'

/-- The text behind an exponent whose letter has been read: a sign at most, and digits. -/
def exponent (cs : List Char) : Rest :=
  let lead := cs.dropWhile (· = '_')
  let digits := match lead with
    | '+' :: rest => rest
    | '-' :: rest => rest
    | rest => rest
  let body := digits.takeWhile isDigitOrMark
  if body.any isDigit then some (digits.drop body.length) else none

/-- The text behind the letter of an exponent. -/
def afterExponentMark : List Char → Rest
  | 'e' :: rest => some rest
  | 'E' :: rest => some rest
  | _ => none

/-- A number with a point or an exponent, without its suffix. A point in front of another point or a
name belongs to what follows; so does the letter of an exponent without digits, behind a point. -/
def decimalDigits (cs : List Char) : Rest :=
  match cs with
  | c :: _ =>
    if !isDigit c then none
    else
      match cs.dropWhile isDigitOrMark with
      | '.' :: rest =>
        if rest.head?.any fun c => c = '.' || isIdentStart c then none
        else
          let rest := rest.dropWhile isDigitOrMark
          match afterExponentMark rest with
          | some behind => some ((exponent behind).getD rest)
          | none => some rest
      | rest => afterExponentMark rest >>= exponent
  | [] => none

/-- The digits of an integer in the given base. -/
def integerDigits (base : Nat) (cs : List Char) : Rest :=
  let inBase := fun c => c = '_' || (Literal.hexDigit? c).any (· < base)
  let body := cs.takeWhile inBase
  let rest := cs.drop body.length
  if !body.any isHex || (base = 10 && body.head? = some '_') || rest.head?.any isDigit then none
  else some rest

/-- An integer without its suffix. -/
def integer (cs : List Char) : Rest :=
  match cs with
  | '0' :: 'x' :: rest => integerDigits 16 rest
  | '0' :: 'o' :: rest => integerDigits 8 rest
  | '0' :: 'b' :: rest => integerDigits 2 rest
  | _ => integerDigits 10 cs

/-- A literal: a string of characters, of bytes or ended by a zero, a byte, a character or a number. -/
def literal (cs : List Char) : Rest :=
  stringOf textRules "" cs <|> stringOf byteRules "b" cs <|> stringOf zeroEndedRules "c" cs
    <|> (after "b'" cs >>= single byteRules) <|> (after "'" cs >>= single textRules)
    <|> (decimalDigits cs >>= numberEnd) <|> (integer cs >>= numberEnd)

end NativeBridge.Source.Lexeme
