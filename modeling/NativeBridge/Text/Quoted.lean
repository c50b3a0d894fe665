import NativeBridge.Text.GraphemeExtend
import NativeBridge.Text.Unprintable

/-!
# Quoted text

How a string is shown when its exact content matters. `quote` puts it between double quotes and
writes every character by `escape`: the five control letters, the quote and the backslash by a
backslash escape, what cannot be seen on its own by its code point in hexadecimal, and every other
character as it is. An apostrophe needs no escape, and neither does printable text beyond ASCII.
-/

namespace NativeBridge.Text

/-- Lower-case hexadecimal digits of a number, without leading zeros. -/
def hex (n : Nat) : String :=
  String.ofList (Nat.toDigits 16 n)

/-- At least `width` hexadecimal digits, filled up with zeros on the left. -/
def hexPadded (width n : Nat) : String :=
  let digits := Nat.toDigits 16 n
  String.ofList (List.replicate (width - digits.length) '0' ++ digits)

/-- A code point written as a braced hexadecimal escape. -/
def escapeCodePoint (c : Char) : String :=
  "\\u\x7b" ++ hex c.toNat ++ "\x7d"

/-- The character can be read on its own: it is printable and does not attach to another one. -/
def isPlain (c : Char) : Bool :=
  if c.toNat < 0x7f then 0x20 ≤ c.toNat
  else !graphemeExtend.contains c && !unprintable.contains c

/-- How one character stands inside quotes. -/
def escape (c : Char) : String :=
  if c = '\x00' then "\\0"
  else if c = '\t' then "\\t"
  else if c = '\r' then "\\r"
  else if c = '\n' then "\\n"
  else if c = '"' then "\\\""
  else if c = '\\' then "\\\\"
  else if isPlain c then c.toString
  else escapeCodePoint c

/-- The text between double quotes. -/
def quote (s : String) : String :=
  "\"" ++ String.join (s.toList.map escape) ++ "\""

end NativeBridge.Text
