import Mathlib.Algebra.Group.Nat.Defs
import RefTree.Number.Double
import RefTree.Number.Integer

namespace RefTree
namespace Number
namespace Double

/-!
# How large a double can be

A double that comes from decimal text is finite only up to a certain power of two, so its integer
part is bounded.  The bound proved here is far from sharp.  Rounding adds at most one unit of the
power that was chosen, so nothing need be known about the choice but its greatest value.
-/

/-- The integer part of `significand * 2 ^ exponent`. -/
def wholePart (significand : Nat) (exponent : Int) : Nat :=
  if 0 ≤ exponent then significand * 2 ^ exponent.toNat
  else significand / 2 ^ (-exponent).toNat

theorem natAbs_of_truncate? {negative : Bool} {significand : Nat} {exponent n : Int}
    (whole : (finite negative significand exponent).truncate? = some n) :
    n.natAbs = wholePart significand exponent := by
  cases whole
  cases negative with
  | true => exact (Int.natAbs_neg _).trans (Int.natAbs_natCast _)
  | false => exact Int.natAbs_natCast _

theorem wholePart_zero (exponent : Int) : wholePart 0 exponent = 0 := by
  unfold wholePart
  split <;> simp

section Powers

variable {exponent : Int} {power : Nat}

theorem wholePart_le (bounded : exponent ≤ power) (significand : Nat) :
    wholePart significand exponent ≤ significand * 2 ^ power := by
  unfold wholePart
  split
  · exact Nat.mul_le_mul_left _ (Nat.pow_le_pow_right (by decide) (by omega))
  · calc significand / 2 ^ (-exponent).toNat
        ≤ significand := Nat.div_le_self _ _
      _ ≤ significand * 2 ^ power := Nat.le_mul_of_pos_right _ (Nat.two_pow_pos power)

theorem roundedQuotient_le (numerator denominator : Nat) :
    roundedQuotient numerator denominator ≤ numerator / denominator + 1 := by
  unfold roundedQuotient
  simp only
  split
  · omega
  · split <;> omega

/-- Rounding to a multiple of a power of two adds at most that power. -/
theorem wholePart_roundedScaled_le {numerator denominator : Nat} (positive : 0 < denominator)
    (bounded : exponent ≤ power) :
    wholePart (roundedScaled numerator denominator exponent) exponent ≤
      numerator / denominator + 2 ^ power := by
  unfold wholePart roundedScaled
  split
  · have unit : 2 ^ exponent.toNat ≤ 2 ^ power := Nat.pow_le_pow_right (by decide) (by omega)
    calc roundedQuotient numerator (denominator * 2 ^ exponent.toNat) * 2 ^ exponent.toNat
        ≤ (numerator / (denominator * 2 ^ exponent.toNat) + 1) * 2 ^ exponent.toNat :=
          Nat.mul_le_mul_right _ (roundedQuotient_le _ _)
      _ = numerator / denominator / 2 ^ exponent.toNat * 2 ^ exponent.toNat +
            2 ^ exponent.toNat := by rw [Nat.add_mul, Nat.one_mul, Nat.div_div_eq_div_mul]
      _ ≤ numerator / denominator + 2 ^ power := Nat.add_le_add (Nat.div_mul_le_self _ _) unit
  · have below : numerator * 2 ^ (-exponent).toNat / denominator <
        2 ^ (-exponent).toNat * (numerator / denominator + 1) := by
      rw [Nat.div_lt_iff_lt_mul positive]
      calc numerator * 2 ^ (-exponent).toNat
          < denominator * (numerator / denominator + 1) * 2 ^ (-exponent).toNat :=
            Nat.mul_lt_mul_of_pos_right (Nat.lt_mul_div_succ numerator positive)
              (Nat.two_pow_pos _)
        _ = 2 ^ (-exponent).toNat * (numerator / denominator + 1) * denominator := by
            rw [Nat.mul_comm, Nat.mul_comm denominator, Nat.mul_assoc]
    have rounded : roundedQuotient (numerator * 2 ^ (-exponent).toNat) denominator ≤
        2 ^ (-exponent).toNat * (numerator / denominator + 1) :=
      Nat.le_trans (roundedQuotient_le _ _) below
    calc roundedQuotient (numerator * 2 ^ (-exponent).toNat) denominator / 2 ^ (-exponent).toNat
        ≤ numerator / denominator + 1 := Nat.div_le_of_le_mul rounded
      _ ≤ numerator / denominator + 2 ^ power := Nat.add_le_add_left (Nat.two_pow_pos power) _

/-- The integer part of a rounded fraction exceeds the fraction by no more than the greatest power
times the significand after a carry. -/
theorem natAbs_le_of_ofFraction (greatest : 971 ≤ power) {negative : Bool}
    {numerator denominator : Nat} (positive : 0 < denominator) {n : Int}
    (whole : (ofFraction negative numerator denominator).truncate? = some n) :
    n.natAbs ≤ numerator / denominator + 2 ^ 52 * 2 ^ power := by
  unfold ofFraction at whole
  simp only at whole
  -- After a carry the significand is known; otherwise only rounding has to be accounted for.
  by_cases carried :
      roundedScaled numerator denominator (exponentFor numerator denominator) = Nat.pow 2 53
  · simp only [carried, if_true] at whole
    split at whole
    · cases whole
    · rename_i bounded
      have atMost : exponentFor numerator denominator + 1 ≤ power := by omega
      rw [natAbs_of_truncate? whole]
      exact Nat.le_trans (wholePart_le atMost _) (Nat.le_add_left _ _)
  · simp only [carried, if_false] at whole
    split at whole
    · cases whole
    · rename_i bounded
      have atMost : exponentFor numerator denominator ≤ power := by omega
      rw [natAbs_of_truncate? whole]
      exact Nat.le_trans (wholePart_roundedScaled_le positive atMost)
        (Nat.add_le_add_left (Nat.le_mul_of_pos_left _ (Nat.two_pow_pos 52)) _)

/-- A decimal that is not recognised as infinite is below a fixed power of ten, and so is the
integer part of the double nearest to it. -/
theorem natAbs_le_of_ofDecimal (greatest : 971 ≤ power) {negative : Bool} {digits : Nat}
    {exponent n : Int} (whole : (ofDecimal negative digits exponent).truncate? = some n) :
    n.natAbs ≤ 10 ^ power + 2 ^ 52 * 2 ^ power := by
  unfold ofDecimal at whole
  simp only at whole
  split at whole
  · rw [natAbs_of_truncate? whole, wholePart_zero]
    exact Nat.zero_le _
  split at whole
  · cases whole
  rename_i small
  -- What is left has few digits before its point, whatever the sign of the exponent.
  have written : digits < 10 ^ digits.repr.length :=
    (Nat.length_repr_le_iff Nat.length_repr_pos).mp (Nat.le_refl _)
  split at whole
  · have below : digits * 10 ^ exponent.toNat / 1 ≤ 10 ^ power := by
      rw [Nat.div_one]
      calc digits * 10 ^ exponent.toNat
          ≤ 10 ^ digits.repr.length * 10 ^ exponent.toNat :=
            Nat.mul_le_mul_right _ (Nat.le_of_lt written)
        _ = 10 ^ (digits.repr.length + exponent.toNat) := (Nat.pow_add _ _ _).symm
        _ ≤ 10 ^ power := Nat.pow_le_pow_right (by decide) (by omega)
    exact Nat.le_trans (natAbs_le_of_ofFraction greatest (by decide) whole)
      (Nat.add_le_add_right below _)
  · have below : digits / 10 ^ (-exponent).toNat ≤ 10 ^ power := by
      apply Nat.div_le_of_le_mul
      calc digits
          ≤ 10 ^ digits.repr.length := Nat.le_of_lt written
        _ ≤ 10 ^ ((-exponent).toNat + power) := Nat.pow_le_pow_right (by decide) (by omega)
        _ = 10 ^ (-exponent).toNat * 10 ^ power := Nat.pow_add _ _ _
    have positive : 0 < Nat.pow 10 (-exponent).toNat := Nat.pow_pos (by decide)
    exact Nat.le_trans (natAbs_le_of_ofFraction greatest positive whole)
      (Nat.add_le_add_right below _)

end Powers

/-- A double that comes from decimal text has an integer part of fewer digits than an integer may
have. -/
theorem natAbs_lt_of_ofDecimal {negative : Bool} {digits : Nat} {exponent n : Int}
    (whole : (ofDecimal negative digits exponent).truncate? = some n) :
    n.natAbs < 10 ^ maxDigits := by
  have enough : ∀ power : Nat, power + 53 < maxDigits ->
      10 ^ power + 2 ^ 52 * 2 ^ power < 10 ^ maxDigits := by
    intro power short
    calc 10 ^ power + 2 ^ 52 * 2 ^ power
        ≤ 10 ^ power * 1 + 10 ^ power * 10 ^ 52 := by
          rw [Nat.mul_comm (2 ^ 52), Nat.mul_one]
          exact Nat.add_le_add_left (Nat.mul_le_mul (Nat.pow_le_pow_left (by decide) power)
            (by decide)) _
      _ = 10 ^ power * (1 + 10 ^ 52) := (Nat.mul_add _ _ _).symm
      _ ≤ 10 ^ power * 10 ^ 53 := Nat.mul_le_mul_left _ (by decide)
      _ = 10 ^ (power + 53) := (Nat.pow_add _ _ _).symm
      _ < 10 ^ maxDigits := Nat.pow_lt_pow_right (by decide) short
  exact Nat.lt_of_le_of_lt (natAbs_le_of_ofDecimal (Nat.le_refl 971) whole) (enough 971 (by decide))

end Double
end Number
end RefTree
