import ApiBlueprint.Decimal.Binary64
import Mathlib.Tactic.Ring

/-! Rounding does not take a ratio over a natural that it does not exceed. -/

namespace ApiBlueprint

theorem roundRatio_le {numerator denominator limit : Nat} (positive : 0 < denominator)
    (bounded : numerator ≤ limit * denominator) : roundRatio numerator denominator ≤ limit := by
  have quotient : numerator / denominator ≤ limit := Nat.div_le_of_le_mul (by rwa [Nat.mul_comm])
  have division := Nat.div_add_mod' numerator denominator
  -- A quotient that is rounded up leaves a remainder, so it was below the limit.
  have below (remains : 0 < numerator % denominator) : numerator / denominator + 1 ≤ limit := by
    have less : numerator / denominator * denominator < limit * denominator := by omega
    exact Nat.lt_of_mul_lt_mul_right less
  have parity : numerator / denominator % 2 < 2 := Nat.mod_lt _ (by decide)
  unfold roundRatio
  simp only
  split
  · exact quotient
  · have up := below (by omega)
    split
    · exact up
    · omega

namespace Magnitude

def AtMost (x : Magnitude) (limit : Nat) : Prop := x.toRatio.1 ≤ limit * x.toRatio.2

theorem shifted_neg (value : Nat) {exponent : Int} (negative : exponent < 0) :
    shifted value exponent = (value, 2 ^ (-exponent).toNat) := by
  rw [shifted, if_neg (by omega), Nat.one_shiftLeft]

theorem snd_shifted_pos (value : Nat) (exponent : Int) : 0 < (shifted value exponent).2 := by
  unfold shifted
  split
  · exact Nat.one_pos
  · rw [Nat.one_shiftLeft]
    exact Nat.two_pow_pos _

theorem snd_toRatio_pos (x : Magnitude) : 0 < x.toRatio.2 := snd_shifted_pos _ _

/-- A ratio below `2 ^ 51` takes a negative exponent. -/
theorem estimate_neg {numerator denominator limit : Nat} (some : numerator ≠ 0)
    (bounded : numerator ≤ limit * denominator)
    (small : limit < 2 ^ 51) : (numerator.log2 : Int) - denominator.log2 - 52 < 0 := by
  have low : 2 ^ numerator.log2 ≤ numerator := Nat.log2_self_le some
  have high : denominator < 2 ^ (denominator.log2 + 1) := Nat.lt_log2_self
  have chain : 2 ^ numerator.log2 < 2 ^ (52 + denominator.log2) := by
    calc
      2 ^ numerator.log2 ≤ limit * denominator := Nat.le_trans low bounded
      _ ≤ 2 ^ 51 * denominator := Nat.mul_le_mul_right _ (Nat.le_of_lt small)
      _ < 2 ^ 51 * 2 ^ (denominator.log2 + 1) := Nat.mul_lt_mul_of_pos_left high (by decide)
      _ = 2 ^ (52 + denominator.log2) := by ring
  have exponents := (Nat.pow_lt_pow_iff_right (by decide)).mp chain
  omega

theorem quotientAt_le {numerator denominator limit : Nat} {exponent : Int} (negative : exponent < 0)
    (positive : 0 < denominator) (bounded : numerator ≤ limit * denominator) :
    quotientAt numerator denominator exponent ≤ limit * 2 ^ (-exponent).toNat := by
  unfold quotientAt
  rw [shifted_neg 1 negative]
  simp only [Nat.mul_one]
  apply roundRatio_le positive
  calc
    numerator * 2 ^ (-exponent).toNat ≤ limit * denominator * 2 ^ (-exponent).toNat :=
      Nat.mul_le_mul_right _ bounded
    _ = limit * 2 ^ (-exponent).toNat * denominator := by ring

theorem ofRatio_atMost {numerator denominator limit : Nat} (positive : 0 < denominator)
    (bounded : numerator ≤ limit * denominator) (small : limit < 2 ^ 51) :
    (ofRatio numerator denominator).AtMost limit := by
  unfold ofRatio
  split
  · exact Nat.zero_le _
  · rename_i some
    have estimate := estimate_neg some bounded small
    generalize (numerator.log2 : Int) - denominator.log2 - 52 = guess at estimate
    simp only
    generalize fits : max _ (-1074 : Int) = exponent
    have negative : exponent < 0 := by
      rw [← fits]
      split <;> omega
    have quotient := quotientAt_le negative positive bounded
    split
    · rename_i full
      obtain ⟨less, enough⟩ : ∃ less, (-exponent).toNat = less + 1 := ⟨(-exponent).toNat - 1, by omega⟩
      have half : 2 ^ 52 ≤ limit * 2 ^ less := by
        have twice : 2 * 2 ^ 52 ≤ 2 * (limit * 2 ^ less) := by
          calc
            2 * 2 ^ 52 = quotientAt numerator denominator exponent := full.symm
            _ ≤ limit * 2 ^ (less + 1) := by rwa [enough] at quotient
            _ = 2 * (limit * 2 ^ less) := by ring
        omega
      -- With no room below the point the limit itself would be too large.
      have room : less ≠ 0 := by
        rintro rfl
        omega
      have later : exponent + 1 < 0 := by omega
      have same : (-(exponent + 1)).toNat = less := by omega
      unfold AtMost toRatio
      rw [shifted_neg _ later, same]
      exact half
    · unfold AtMost toRatio
      rw [shifted_neg _ negative]
      exact quotient

theorem mul_atMost {x y : Magnitude} {limit : Nat} (x_le : x.AtMost 1) (y_le : y.AtMost limit)
    (small : limit < 2 ^ 51) : (x.mul y).AtMost limit := by
  apply ofRatio_atMost (Nat.mul_pos x.snd_toRatio_pos y.snd_toRatio_pos) _ small
  calc
    x.toRatio.1 * y.toRatio.1 ≤ 1 * x.toRatio.2 * (limit * y.toRatio.2) := Nat.mul_le_mul x_le y_le
    _ = limit * (x.toRatio.2 * y.toRatio.2) := by ring

end Magnitude
end ApiBlueprint
