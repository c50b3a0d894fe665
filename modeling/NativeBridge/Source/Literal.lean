import NativeBridge.Text.Quoted

/-!
# String literals

`Literal.ofText` spells a text as a string literal, and `Literal.text?` reads the text of a literal
that is a string, plain or raw.
-/

namespace NativeBridge.Source.Literal

/-- How one character stands in a literal in front of others. A zero before an octal digit is written
with two digits, so that the digit is not taken for a part of it. -/
def escape (c : Char) (next : Option Char) : String :=
  if c = '\x00' && next.any fun d => '0' ≤ d && d ≤ '7' then "\\x00" else Text.escape c

def escapeAll : List Char → String
  | [] => ""
  | c :: rest => escape c rest.head? ++ escapeAll rest

/-- The literal with the given text. -/
def ofText (s : String) : String := "\"" ++ escapeAll s.toList ++ "\""

def hexDigit? (c : Char) : Option Nat :=
  if '0' ≤ c && c ≤ '9' then some (c.toNat - '0'.toNat)
  else if 'a' ≤ c && c ≤ 'f' then some (c.toNat - 'a'.toNat + 10)
  else if 'A' ≤ c && c ≤ 'F' then some (c.toNat - 'A'.toNat + 10)
  else none

/-- Value of hexadecimal digits, in which underscores may stand. -/
def hexValue (digits : List Char) : Nat :=
  (digits.filterMap hexDigit?).foldl (fun n d => 16 * n + d) 0

def isBlank (c : Char) : Bool := c = ' ' || c = '\t' || c = '\n' || c = '\r'

theorem length_dropWhile_lt (p : Char → Bool) {cs : List Char} {n : Nat} (h : cs.length < n) :
    (cs.dropWhile p).length < n :=
  Nat.lt_of_le_of_lt (cs.dropWhile_sublist p).length_le h

/-- Text of a plain literal behind its opening quote: escapes are read, a line that ends in a
backslash continues at the next character that is not blank, and a carriage return before a line feed
is dropped. -/
def readPlain : List Char → List Char
  | [] => []
  | '"' :: _ => []
  | '\\' :: 'x' :: a :: b :: rest => Char.ofNat (hexValue [a, b]) :: readPlain rest
  | '\\' :: 'u' :: '\x7b' :: rest =>
    Char.ofNat (hexValue (rest.takeWhile (· ≠ '\x7d'))) ::
      readPlain ((rest.dropWhile (· ≠ '\x7d')).drop 1)
  | '\\' :: 'n' :: rest => '\n' :: readPlain rest
  | '\\' :: 'r' :: rest => '\r' :: readPlain rest
  | '\\' :: 't' :: rest => '\t' :: readPlain rest
  | '\\' :: '0' :: rest => '\x00' :: readPlain rest
  | '\\' :: c :: rest => if isBlank c then readPlain (rest.dropWhile isBlank) else c :: readPlain rest
  | '\r' :: '\n' :: rest => '\n' :: readPlain rest
  | c :: rest => c :: readPlain rest
termination_by cs => cs.length
decreasing_by
  all_goals simp only [List.length_cons, List.length_drop]
  all_goals
    first
    | omega
    | refine length_dropWhile_lt _ ?_; omega
    | refine Nat.lt_of_le_of_lt (Nat.sub_le _ _) (length_dropWhile_lt _ ?_); omega

/-- Text of a raw literal behind its opening quote, closed by a quote and as many marks as opened
it. -/
def readRaw (marks : Nat) : List Char → List Char
  | [] => []
  | c :: rest =>
    if c = '"' && (rest.takeWhile (· = '#')).length ≥ marks then [] else c :: readRaw marks rest

/-- The text of a string literal. Byte strings and other literals have none. -/
def text? (spelling : String) : Option String :=
  match spelling.toList with
  | '"' :: rest => some (String.ofList (readPlain rest))
  | 'r' :: rest =>
    let marks := (rest.takeWhile (· = '#')).length
    match rest.drop marks with
    | '"' :: rest => some (String.ofList (readRaw marks rest))
    | _ => none
  | _ => none

end NativeBridge.Source.Literal
