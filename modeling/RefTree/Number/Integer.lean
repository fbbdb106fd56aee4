import RefTree.Text.Blank
import RefTree.Text.DecimalDigit

namespace RefTree
namespace Number

/-!
# Integers as text

Writing an integer gives its shortest decimal form.  Reading is more permissive than writing:
surrounding blanks, a sign, digits of any script, leading zeros, and single underscores between
digits are accepted.  The one bound is on length: a numeral of more than `maxDigits` digits is
refused, where leading zeros count and underscores do not.

The same bound holds for the integers that can be written.  Writing does not check it here, since
all integers of a document that was read keep to it.
-/

/-- The greatest number of digits that a numeral may have. -/
def maxDigits : Nat := 4300

/-- The text of an integer, which is meant to have at most `maxDigits` digits. -/
def integerText (n : Int) : String :=
  if n < 0 then "-" ++ n.natAbs.repr else n.natAbs.repr

/-- The values of digits that may be separated by single underscores.  The list must start and
end with a digit. -/
def digitValues? : List Char -> Option (List Nat)
  | [] => none
  | [c] => (Text.digitValue? c).map fun digit => [digit]
  | c :: '_' :: rest =>
      match Text.digitValue? c, digitValues? rest with
      | some digit, some digits => some (digit :: digits)
      | _, _ => none
  | c :: rest =>
      match Text.digitValue? c, digitValues? rest with
      | some digit, some digits => some (digit :: digits)
      | _, _ => none

/-- The number whose decimal digits are given, most significant first. -/
def ofDigits (digits : List Nat) : Nat :=
  digits.foldl (fun value digit => value * 10 + digit) 0

def natural? (chars : List Char) : Option Nat :=
  match digitValues? chars with
  | some digits => if digits.length ≤ maxDigits then some (ofDigits digits) else none
  | none => none

def integer? (text : String) : Option Int :=
  match Text.trimChars Text.isNumberBlank text.toList with
  | '-' :: rest => (natural? rest).map fun n => -(n : Int)
  | '+' :: rest => (natural? rest).map fun n => (n : Int)
  | chars => (natural? chars).map fun n => (n : Int)

end Number
end RefTree
