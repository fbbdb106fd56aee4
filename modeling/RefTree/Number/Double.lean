namespace RefTree
namespace Number

/-!
# Double-precision numbers

A finite double is a sign, a significand below 2^53 and a power of two not below 2^-1074.  It is
kept in this exact form, because the library only reads doubles from decimal text, writes them
back, and drops their fractional part; no floating-point arithmetic takes place.
-/

/-- A double-precision number.  `finite negative significand exponent` is the number
`significand * 2 ^ exponent` with the given sign, so that zero has both signs. -/
inductive Double where
  | finite (negative : Bool) (significand : Nat) (exponent : Int)
  | infinite (negative : Bool)
  | nan
  deriving DecidableEq, Repr

namespace Double

/-- The quotient of two naturals, rounded to the nearest natural; a tie goes to the even one. -/
def roundedQuotient (numerator denominator : Nat) : Nat :=
  let quotient := numerator / denominator
  let remainder := numerator % denominator
  if 2 * remainder < denominator then quotient
  else if 2 * remainder = denominator && quotient % 2 = 0 then quotient
  else quotient + 1

/-- The quotient of a positive fraction by a power of two, rounded. -/
def roundedScaled (numerator denominator : Nat) (exponent : Int) : Nat :=
  if 0 ≤ exponent then roundedQuotient numerator (denominator * Nat.pow 2 exponent.toNat)
  else roundedQuotient (numerator * Nat.pow 2 (-exponent).toNat) denominator

/-- The power of two of the double nearest to a positive fraction.  With this power the quotient
has fifty-three bits, or fewer where the smallest power is reached. -/
def exponentFor (numerator denominator : Nat) : Int :=
  let guess : Int := (numerator.log2 : Int) - denominator.log2 - 53
  let bound : Nat := Nat.pow 2 53
  let exceeds : Bool :=
    if 0 ≤ guess then bound * (denominator * Nat.pow 2 guess.toNat) ≤ numerator
    else bound * denominator ≤ numerator * Nat.pow 2 (-guess).toNat
  max (if exceeds then guess + 1 else guess) (-1074)

/-- The double nearest to a positive fraction; a tie goes to the even significand, and what
would exceed the greatest finite double is infinite. -/
def ofFraction (negative : Bool) (numerator denominator : Nat) : Double :=
  let exponent := exponentFor numerator denominator
  let significand := roundedScaled numerator denominator exponent
  let carried := significand = Nat.pow 2 53
  let exponent := if carried then exponent + 1 else exponent
  let significand := if carried then Nat.pow 2 52 else significand
  if 971 < exponent then .infinite negative else .finite negative significand exponent

/-- The double nearest to `digits * 10 ^ exponent`.  Numbers far outside the range of doubles are
recognised by their number of digits, so that no huge power is computed. -/
def ofDecimal (negative : Bool) (digits : Nat) (exponent : Int) : Double :=
  let magnitude : Int := digits.repr.length + exponent
  if digits = 0 || magnitude < -340 then .finite negative 0 (-1074)
  else if 320 < magnitude then .infinite negative
  else if 0 ≤ exponent then ofFraction negative (digits * Nat.pow 10 exponent.toNat) 1
  else ofFraction negative digits (Nat.pow 10 (-exponent).toNat)

/-- The integer part of a finite double, and nothing for the others.  The fraction is dropped, so
the result lies between zero and the number. -/
def truncate? : Double -> Option Int
  | .finite negative significand exponent =>
      let size : Nat :=
        if 0 ≤ exponent then significand * Nat.pow 2 exponent.toNat
        else significand / Nat.pow 2 (-exponent).toNat
      some (if negative then -(size : Int) else size)
  | _ => none

/-- Decide whether the number is zero, of either sign. -/
def isZero : Double -> Bool
  | .finite _ significand _ => significand == 0
  | _ => false

/-- Decide whether the number is below one.  What is not a number is not below anything. -/
def isBelowOne : Double -> Bool
  | .finite negative significand exponent =>
      negative || significand == 0 ||
        (exponent < 0 && significand / Nat.pow 2 (-exponent).toNat == 0)
  | .infinite negative => negative
  | .nan => false

end Double
end Number
end RefTree
