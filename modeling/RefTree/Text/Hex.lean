namespace RefTree
namespace Text

/-!
# Hexadecimal digits

Escapes name a code point by a fixed number of hexadecimal digits.  Writing uses small letters
only; reading accepts both cases.
-/

/-- The last `width` hexadecimal digits of a number, most significant first. -/
def hexDigits : (width : Nat) -> Nat -> List Char
  | 0, _ => []
  | width + 1, n => hexDigits width (n / 16) ++ [Nat.digitChar (n % 16)]

/-- The value of a hexadecimal digit, in either case. -/
def hexValue? (c : Char) : Option Nat :=
  if '0' ≤ c && c ≤ '9' then some (c.toNat - '0'.toNat)
  else if 'a' ≤ c && c ≤ 'f' then some (c.toNat - 'a'.toNat + 10)
  else if 'A' ≤ c && c ≤ 'F' then some (c.toNat - 'A'.toNat + 10)
  else none

/-- Read a number from hexadecimal digits, given the value of those already read.  Any other
character makes the whole reading fail. -/
def hexNumber? : (sofar : Nat) -> List Char -> Option Nat
  | sofar, [] => some sofar
  | sofar, c :: rest =>
      match hexValue? c with
      | some digit => hexNumber? (sofar * 16 + digit) rest
      | none => none

/-- Fixed-width hexadecimal text has exactly its width. -/
@[simp]
theorem length_hexDigits (width n : Nat) : (hexDigits width n).length = width := by
  induction width generalizing n with
  | zero => rfl
  | succ width inductionHypothesis => simp [hexDigits, inductionHypothesis]

end Text
end RefTree
