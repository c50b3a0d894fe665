import Mathlib.Tactic.SplitIfs
import NativeBridge.Source.Literal

/-!
# Literals read back

A literal is read as the text that it was made of (`Literal.text?_ofText`). Character by character :
what stands for one in a literal is read as that one (`Literal.readPlain_escape`), be it the character
itself, an escape with a letter, or its code point in hexadecimal.
-/

namespace NativeBridge.Source.Literal

/-! ## Code points -/

theorem hexDigit?_digitChar : ∀ d < 16, hexDigit? (Nat.digitChar d) = some d := by decide

/-- The digits of a number are read as the number. -/
theorem hexValue_toDigits (n : Nat) : hexValue (Nat.toDigits 16 n) = n := by
  induction n using Nat.strongRecOn with
  | ind n ih =>
    rw [Nat.toDigits_eq_if (by decide)]
    split_ifs with small
    · simp [hexValue, hexDigit?_digitChar n small]
    · have digit : hexDigit? (Nat.digitChar (n % 16)) = some (n % 16) :=
        hexDigit?_digitChar _ (Nat.mod_lt _ (by decide))
      have before : hexValue (Nat.toDigits 16 (n / 16)) = n / 16 := ih _ (by omega)
      rw [hexValue] at before ⊢
      rw [List.filterMap_append, List.foldl_append, before]
      simp only [List.filterMap_cons, digit, List.filterMap_nil, List.foldl_cons, List.foldl_nil]
      omega

theorem ne_brace_of_mem_toDigits {n : Nat} {c : Char} (mem : c ∈ Nat.toDigits 16 n) :
    c ≠ '\x7d' := by
  induction n using Nat.strongRecOn with
  | ind n ih =>
    have digit : ∀ d < 16, Nat.digitChar d ≠ '\x7d' := by decide
    rw [Nat.toDigits_eq_if (by decide)] at mem
    split_ifs at mem with small
    · rw [List.mem_singleton.1 mem]
      exact digit n small
    · rcases List.mem_append.1 mem with before | last
      · exact ih (n / 16) (by omega) before
      · rw [List.mem_singleton.1 last]
        exact digit _ (Nat.mod_lt _ (by decide))

/-- A code point in braces is read up to the closing one. -/
theorem readPlain_escapeCodePoint (c : Char) (rest : List Char) :
    readPlain ((Text.escapeCodePoint c).toList ++ rest) = c :: readPlain rest := by
  have digits : ∀ d ∈ Nat.toDigits 16 c.toNat, decide (d ≠ '\x7d') = true := fun d mem =>
    decide_eq_true (ne_brace_of_mem_toDigits mem)
  have spelled : (Text.escapeCodePoint c).toList ++ rest =
      '\\' :: 'u' :: '\x7b' :: (Nat.toDigits 16 c.toNat ++ '\x7d' :: rest) := by
    simp [Text.escapeCodePoint, Text.hex]
  rw [spelled, readPlain, List.takeWhile_append_of_pos digits, List.dropWhile_append_of_pos digits,
    List.takeWhile_cons_of_neg (by decide), List.dropWhile_cons_of_neg (by decide), List.append_nil,
    hexValue_toDigits, Char.ofNat_toNat]
  rfl

/-! ## Characters -/

/-- What stands for a character is read as the character, whatever follows. -/
theorem readPlain_escape (c : Char) (next : Option Char) (rest : List Char) :
    readPlain ((escape c next).toList ++ rest) = c :: readPlain rest := by
  unfold escape Text.escape
  split_ifs with octal zero tab carriage feed quote backslash plain
  · rw [Bool.and_eq_true, decide_eq_true_eq] at octal
    rw [octal.1]
    simp [readPlain, hexValue, hexDigit?]
  · rw [zero]
    simp [readPlain]
  · rw [tab]
    simp [readPlain]
  · rw [carriage]
    simp [readPlain]
  · rw [feed]
    simp [readPlain]
  · rw [quote]
    simp [readPlain, isBlank]
  · rw [backslash]
    simp [readPlain, isBlank]
  · rw [Char.toString_eq_singleton, String.toList_singleton, List.singleton_append, readPlain] <;>
      simp_all
  · exact readPlain_escapeCodePoint c rest

/-- Escaped characters are read back up to the quote. By induction on the characters. -/
theorem readPlain_escapeAll (cs rest : List Char) :
    readPlain ((escapeAll cs).toList ++ '"' :: rest) = cs := by
  induction cs with
  | nil => simp [escapeAll, readPlain]
  | cons c cs ih =>
    rw [escapeAll, String.toList_append, List.append_assoc, readPlain_escape, ih]

/-- A literal has the text that it was made of. -/
theorem text?_ofText (s : String) : text? (ofText s) = some s := by
  have spelled : (ofText s).toList = '"' :: ((escapeAll s.toList).toList ++ ['"']) := by
    simp [ofText]
  rw [text?, spelled]
  change some (String.ofList (readPlain _)) = some s
  rw [readPlain_escapeAll, String.ofList_toList]

end NativeBridge.Source.Literal
