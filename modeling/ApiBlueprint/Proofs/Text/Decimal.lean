import ApiBlueprint.Text.Basic
import Mathlib.Data.Nat.Digits.Defs

/-! The decimal digits of a number, and the number that they stand for. -/

namespace ApiBlueprint
namespace Text

def decimalFrom (value : Nat) (digits : Text) : Nat :=
  digits.foldl (fun value c => value * 10 + digitValue c) value

theorem le_decimalFrom (value : Nat) (digits : Text) : value ≤ decimalFrom value digits := by
  induction digits generalizing value with
  | nil => exact Nat.le_refl value
  | cons c rest ih =>
    have step : value ≤ value * 10 + digitValue c := by omega
    exact Nat.le_trans step (ih _)

theorem ofNat_small {n : Nat} (small : n < 10) : ofNat n = [n.digitChar] :=
  Nat.toDigits_of_lt_base small

theorem ofNat_large {n : Nat} (large : 10 ≤ n) : ofNat n = ofNat (n / 10) ++ [(n % 10).digitChar] :=
  Nat.toDigits_of_base_le (by decide) large

theorem digitValue_digitChar {n : Nat} (small : n < 10) : digitValue n.digitChar = n := by
  have all : ∀ m < 10, digitValue m.digitChar = m := by decide
  exact all n small

theorem digitChar_ne_zero {n : Nat} (small : n < 10) (positive : 0 < n) : n.digitChar ≠ '0' := by
  have all : ∀ m < 10, 0 < m → m.digitChar ≠ '0' := by decide
  exact all n small positive

theorem ofNat_digits (n : Nat) : ∀ c ∈ ofNat n, isDigit c = true := by
  intro c member
  have digit : c.isDigit = true := Nat.isDigit_of_mem_toDigits (by decide) (by decide) member
  simpa [isDigit, Char.isDigit, Char.le_def] using digit

/-- By induction on the number without its last digit. -/
theorem decimal_ofNat (n : Nat) : decimalFrom 0 (ofNat n) = n := by
  induction n using Nat.strong_induction_on with
  | _ n ih =>
    by_cases small : n < 10
    · rw [ofNat_small small]
      simp [decimalFrom, digitValue_digitChar small]
    · have start := ih (n / 10) (by omega)
      have last := digitValue_digitChar (n := n % 10) (by omega)
      unfold decimalFrom at start ⊢
      rw [ofNat_large (by omega), List.foldl_append, start, List.foldl_cons, List.foldl_nil, last]
      omega

theorem exists_ofNat_cons {n : Nat} (positive : 0 < n) :
    ∃ c rest, ofNat n = c :: rest ∧ c ≠ '0' := by
  induction n using Nat.strong_induction_on with
  | _ n ih =>
    by_cases small : n < 10
    · exact ⟨_, [], ofNat_small small, digitChar_ne_zero small positive⟩
    · obtain ⟨c, rest, equal, notZero⟩ := ih (n / 10) (by omega) (by omega)
      exact ⟨c, rest ++ [(n % 10).digitChar], by rw [ofNat_large (by omega), equal]; rfl, notZero⟩

theorem length_ofNat_le {n width : Nat} (small : n < 10 ^ (width + 1)) : (ofNat n).length ≤ width + 1 := by
  induction width generalizing n with
  | zero => rw [ofNat_small (by omega), List.length_singleton]
  | succ width ih =>
    by_cases large : 10 ≤ n
    · have shorter := ih (n := n / 10) (by omega)
      rw [ofNat_large large, List.length_append, List.length_singleton]
      omega
    · rw [ofNat_small (by omega), List.length_singleton]
      omega

theorem decimal_zeros (count : Nat) (digits : Text) :
    decimal (List.replicate count '0' ++ digits) = decimal digits := by
  induction count with
  | zero => rfl
  | succ count ih => exact ih

/-- The text is the decimal numeral of the value, without zeros before it. -/
structure IsNumeral (value : Nat) (text : Text) : Prop where
  nonempty : text ≠ []
  digits : ∀ c ∈ text, isDigit c = true
  plain : text.head? = some '0' → text = ['0']
  value : decimal text = value

theorem isNumeral_ofNat (n : Nat) : IsNumeral n (ofNat n) where
  nonempty := Nat.toDigits_ne_nil
  digits := ofNat_digits n
  plain := by
    intro zero
    rcases Nat.eq_zero_or_pos n with rfl | positive
    · rfl
    · obtain ⟨c, rest, same, other⟩ := exists_ofNat_cons positive
      rw [same] at zero
      exact absurd (Option.some.inj zero) other
  value := decimal_ofNat n

structure IsPadded (width value : Nat) (text : Text) : Prop where
  length : text.length = width
  digits : ∀ c ∈ text, isDigit c = true
  value : decimal text = value

end Text
end ApiBlueprint
