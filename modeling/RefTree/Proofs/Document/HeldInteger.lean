import Mathlib.Algebra.Order.Field.Power
import Mathlib.Data.Rat.Floor
import RefTree.Document.Shown
import RefTree.Proofs.Number.Numeral

namespace RefTree

/-!
# The integers that values stand for

Three kinds of values stand for an integer: an integer itself, a finite double, of which the
fraction is dropped, and a text that is a numeral.  A finite double is taken for the rational number
that it is, so that dropping the fraction can be said without its significand and its power of two.
No other value stands for an integer; truth values in particular do not.
-/

namespace Number

/-- A number without its fraction: the integer next to it on the side of zero. -/
def truncated (number : ℚ) : Int :=
  if 0 ≤ number then ⌊number⌋ else ⌈number⌉

theorem truncated_of_nonneg {size : ℚ} (nonneg : 0 ≤ size) : truncated size = ⌊size⌋ :=
  if_pos nonneg

/-- On the other side of zero the fraction is dropped alike. -/
theorem truncated_neg {size : ℚ} (nonneg : 0 ≤ size) : truncated (-size) = -⌊size⌋ := by
  rw [truncated]
  split
  · rename_i both
    have zero : size = 0 := le_antisymm (neg_nonneg.mp both) nonneg
    rw [zero, neg_zero, Int.floor_zero, neg_zero]
  · exact Int.ceil_neg

namespace Double

/-- The distance of a finite double from zero. -/
def size (significand : Nat) (exponent : Int) : ℚ :=
  significand * 2 ^ exponent

/-- The number that a finite double is. -/
def number? : Double -> Option ℚ
  | .finite negative significand exponent =>
      some (if negative then -size significand exponent else size significand exponent)
  | .infinite _ | .nan => none

theorem size_nonneg (significand : Nat) (exponent : Int) : 0 ≤ size significand exponent :=
  mul_nonneg (Nat.cast_nonneg _) (zpow_nonneg (by norm_num) _)

theorem floor_size (significand : Nat) (exponent : Int) :
    ⌊size significand exponent⌋ =
      ((if 0 ≤ exponent then significand * Nat.pow 2 exponent.toNat
        else significand / Nat.pow 2 (-exponent).toNat : Nat) : Int) := by
  split
  · rename_i nonneg
    obtain ⟨power, rfl⟩ := Int.eq_ofNat_of_zero_le nonneg
    have whole : size significand power = ((significand * 2 ^ power : Nat) : ℚ) := by
      rw [size, zpow_natCast, Nat.cast_mul, Nat.cast_pow, Nat.cast_ofNat]
    rw [whole, Int.floor_natCast]
    rfl
  · rename_i negative
    obtain ⟨power, positive⟩ := Int.eq_ofNat_of_zero_le (show 0 ≤ -exponent by omega)
    have fraction : size significand exponent = (significand : ℚ) / ((2 ^ power : Nat) : ℚ) := by
      rw [size, ← neg_neg exponent, positive, zpow_neg, zpow_natCast, Nat.cast_pow, Nat.cast_ofNat,
        div_eq_mul_inv]
    rw [fraction, Rat.floor_natCast_div_natCast, positive]
    rfl

/-- The integer part of a double is the number that it is without its fraction. -/
theorem truncate?_eq (double : Double) : double.truncate? = double.number?.map truncated := by
  cases double with
  | infinite negative => rfl
  | nan => rfl
  | finite negative significand exponent =>
      have nonneg := size_nonneg significand exponent
      rw [truncate?, number?, Option.map_some, ← floor_size]
      cases negative with
      | true => rw [if_pos rfl, if_pos rfl, truncated_neg nonneg]
      | false => rw [if_neg Bool.false_ne_true, if_neg Bool.false_ne_true,
          truncated_of_nonneg nonneg]

end Double
end Number

namespace Document
namespace Value

/-- A value stands for an integer. -/
inductive StandsFor : Value -> Int -> Prop
  | int (n : Int) : StandsFor (.int n) n
  | double {double : Number.Double} {number : ℚ} (finite : double.number? = some number) :
      StandsFor (.double double) (Number.truncated number)
  | text {text : String} {n : Int} (numeral : Number.IsNumeral text n) : StandsFor (.text text) n

theorem double_standsFor_iff {double : Number.Double} {n : Int} :
    (Value.double double).StandsFor n ↔ double.truncate? = some n := by
  rw [Number.Double.truncate?_eq, Option.map_eq_some_iff]
  constructor
  · intro stands
    cases stands with
    | double finite => exact ⟨_, finite, rfl⟩
  · rintro ⟨number, finite, rfl⟩
    exact .double finite

theorem text_standsFor_iff {text : String} {n : Int} :
    (Value.text text).StandsFor n ↔ Number.integer? text = some n := by
  rw [Number.integer?_eq_some_iff]
  constructor
  · intro stands
    cases stands with
    | text numeral => exact numeral
  · exact .text

/-- The integer that is read from a value is the one that it stands for. -/
theorem integer_eq_ok_iff {value : Value} {n : Int} :
    value.integer = .ok n ↔ value.StandsFor n := by
  cases value with
  | int m =>
      constructor
      · intro read
        cases read
        exact .int n
      · intro stands
        cases stands
        rfl
  | double double =>
      rw [double_standsFor_iff]
      cases double with
      | finite negative significand exponent => simp [integer, Number.Double.truncate?]
      | infinite negative => simp [integer, Number.Double.truncate?]
      | nan => simp [integer, Number.Double.truncate?]
  | text text =>
      rw [text_standsFor_iff, integer]
      cases Number.integer? text <;> simp
  | null | bool _ | list _ | object _ =>
      constructor
      · intro read
        cases read
      · intro stands
        cases stands

end Value
end Document
end RefTree
