import RefTree.Number.Double

namespace RefTree
namespace Number
namespace Double

/-!
# The shortest decimal text of a double

A finite double is written with the fewest decimal digits that read back as the same double; of
several such decimals the nearest is taken, and a tie goes to the even last digit.  The search is
exact: for one digit, two digits, and so on, it looks at the two neighbours of the number on the
grid with that many digits and accepts one that lies in the interval of reals that round to the
double.
-/

/-- A number in decimal, `digits * 10 ^ exponent`. -/
structure Decimal where
  digits : Nat
  exponent : Int
  deriving DecidableEq, Repr

/-- The interval of reals that round to a positive double, over a common denominator.  The ends
belong to the interval exactly when the significand is even.  Below a power of two the neighbour
is nearer, so the lower gap is half as wide there. -/
structure Interval where
  value : Nat
  low : Nat
  high : Nat
  denominator : Nat
  closed : Bool

/-- The interval of the double `significand * 2 ^ exponent`. -/
def interval (significand : Nat) (exponent : Int) : Interval :=
  let unit : Nat := if 0 ≤ exponent then Nat.pow 2 exponent.toNat else 1
  let denominator : Nat := if 0 ≤ exponent then 1 else Nat.pow 2 (-exponent).toNat
  let gap := if significand = Nat.pow 2 52 && (-1074 : Int) < exponent then 1 else 2
  { value := 4 * significand * unit
    low := (4 * significand - gap) * unit
    high := (4 * significand + 2) * unit
    denominator := 4 * denominator
    closed := significand % 2 == 0 }

/-- The power of ten of the first digit of a positive fraction. -/
def decimalMagnitude (numerator denominator : Nat) : Int :=
  if denominator ≤ numerator then (numerator / denominator).repr.length - 1
  else -((denominator - 1) / numerator).repr.length

/-- The same interval measured in units of a power of ten. -/
def Interval.inUnits (range : Interval) (power : Int) : Interval :=
  if 0 ≤ power then { range with denominator := range.denominator * Nat.pow 10 power.toNat }
  else
    let factor := Nat.pow 10 (-power).toNat
    { range with
      value := range.value * factor
      low := range.low * factor
      high := range.high * factor }

/-- Decide whether an integral multiple of the unit lies in the interval. -/
def Interval.contains (range : Interval) (multiple : Nat) : Bool :=
  let point := multiple * range.denominator
  if range.closed then range.low ≤ point && point ≤ range.high
  else range.low < point && point < range.high

/-- The multiple of the unit that represents the double, if a neighbour of its value does. -/
def Interval.neighbour? (range : Interval) : Option Nat :=
  let below := range.value / range.denominator
  let above := below + 1
  match range.contains below, range.contains above with
  | false, false => none
  | true, false => some below
  | false, true => some above
  | true, true => some (roundedQuotient range.value range.denominator)

/-- The representative with a given number of digits, if there is one. -/
def withDigits? (range : Interval) (magnitude : Int) (count : Nat) : Option Decimal :=
  let power := magnitude + 1 - count
  (range.inUnits power).neighbour?.map fun multiple => ⟨multiple, power⟩

/-- The shortest decimal that reads back as the double.  Seventeen digits always suffice. -/
def shortest (significand : Nat) (exponent : Int) : Decimal :=
  let range := interval significand exponent
  let magnitude := decimalMagnitude range.value range.denominator
  (((List.range 17).map (· + 1)).findSome? (withDigits? range magnitude)).getD ⟨0, 0⟩

/-- Lay out decimal digits, where the decimal point stands after `point` of them.  Numbers from
1e-4 up to but not including 1e16 are written positionally, always with a fractional part; the
others have one digit before the point, and an exponent with a sign and at least two digits. -/
def layout (digits : List Char) (point : Int) : String :=
  let count : Int := digits.length
  let zeros (n : Int) : List Char := List.replicate n.toNat '0'
  if -4 < point && point ≤ 16 then
    if point ≤ 0 then String.ofList ('0' :: '.' :: zeros (-point) ++ digits)
    else if count ≤ point then String.ofList (digits ++ zeros (point - count) ++ ['.', '0'])
    else String.ofList (digits.take point.toNat ++ '.' :: digits.drop point.toNat)
  else
    let lead := digits.take 1
    let tail := digits.drop 1
    let fraction := if tail.isEmpty then [] else '.' :: tail
    let exponent := point - 1
    let sign := if exponent < 0 then "e-" else "e+"
    let size := exponent.natAbs.repr
    let size := if size.length < 2 then "0" ++ size else size
    String.ofList (lead ++ fraction) ++ sign ++ size

/-- Remove the zeros at the end of a list of digits. -/
def withoutTrailingZeros (digits : List Char) : List Char :=
  (digits.reverse.dropWhile (· == '0')).reverse

def finiteText (negative : Bool) (significand : Nat) (exponent : Int) : String :=
  let size :=
    if significand = 0 then "0.0"
    else
      let decimal := shortest significand exponent
      let digits := decimal.digits.repr.toList
      layout (withoutTrailingZeros digits) (digits.length + decimal.exponent)
  if negative then "-" ++ size else size

/-- The text of a double, with the names of the numbers that are not finite. -/
def textWith (infinity notANumber : String) : Double -> String
  | .finite negative significand exponent => finiteText negative significand exponent
  | .infinite negative => if negative then "-" ++ infinity else infinity
  | .nan => notANumber

end Double
end Number
end RefTree
