import ApiBlueprint.Json.Writer
import ApiBlueprint.Proofs.Json.Fits
import ApiBlueprint.Proofs.Text.Decimal

/-! Strings and integers as they are written, whatever follows them, are read back. -/

namespace ApiBlueprint
namespace JsonReader

open Json (writeCharacter writeString writeInteger hexDigit)

theorem hexValue_hexDigit {n : Nat} (small : n < 16) : hexValue? (hexDigit n) = some n := by
  have all : ∀ m < 16, hexValue? (hexDigit m) = some m := by decide
  exact all n small

theorem hexUnit_control {code : Nat} (small : code < 256) (rest : Text) :
    hexUnit ('0' :: '0' :: hexDigit (code / 16) :: hexDigit (code % 16) :: rest) = .ok (code, rest) := by
  have high := hexValue_hexDigit (n := code / 16) (by omega)
  have low := hexValue_hexDigit (n := code % 16) (by omega)
  have zero : hexValue? '0' = some 0 := rfl
  have whole : code / 16 * 16 + code % 16 = code := by omega
  simp [hexUnit, hexUnit?, zero, high, low, whole]

theorem unicodeEscape_control {c : Char} (control : c.toNat < 32) (rest : Text) :
    unicodeEscape ('0' :: '0' :: hexDigit (c.toNat / 16) :: hexDigit (c.toNat % 16) :: rest) =
      .ok (c, rest) := by
  have notLow : isLowSurrogate c.toNat = false := by
    simp only [isLowSurrogate, Bool.and_eq_false_imp, decide_eq_true_eq, decide_eq_false_iff_not]
    omega
  have notHigh : isHighSurrogate c.toNat = false := by
    simp only [isHighSurrogate, Bool.and_eq_false_imp, decide_eq_true_eq, decide_eq_false_iff_not]
    omega
  unfold unicodeEscape
  rw [hexUnit_control (by omega)]
  simp [bind, Except.bind, notLow, notHigh, Char.ofNat_toNat]

theorem stringStep_writeCharacter (c : Char) (rest : Text) :
    stringStep (writeCharacter c ++ rest) = .ok (some c, rest) := by
  unfold writeCharacter
  split
  · rename_i quote
    subst quote
    rfl
  split
  · rename_i backslash
    subst backslash
    rfl
  split
  · rename_i same
    subst same
    rfl
  split
  · rename_i same
    subst same
    rfl
  split
  · rename_i same
    subst same
    rfl
  split
  · rename_i same
    subst same
    rfl
  split
  · rename_i same
    subst same
    rfl
  split
  · rename_i control
    simp [stringStep, escape, unicodeEscape_control control, bind, Except.bind, pure, Except.pure]
  · rename_i quote backslash _ _ _ _ _ control
    simp [stringStep, quote, backslash, control]

theorem string_of_step {text behind rest value : Text} {c : Char}
    (step : stringStep text = .ok (some c, behind)) (more : string behind = .ok (value, rest)) :
    string text = .ok (c :: value, rest) := by
  rw [string]
  split
  · simp_all
  · simp_all
  · rename_i d after found
    obtain ⟨same, rfl⟩ := Prod.mk.inj (Except.ok.inj (step.symm.trans found))
    obtain rfl := Option.some.inj same
    exact bind_eq_ok.mpr ⟨(value, rest), more, rfl⟩

theorem string_written (text rest : Text) :
    string (text.flatMap writeCharacter ++ '"' :: rest) = .ok (text, rest) := by
  induction text with
  | nil =>
    have close : stringStep ('"' :: rest) = .ok (none, rest) := rfl
    rw [List.flatMap_nil, List.nil_append, string]
    split
    · simp_all
    · simp_all
    · simp_all
  | cons c text ih =>
    rw [List.flatMap_cons, List.append_assoc]
    exact string_of_step (stringStep_writeCharacter c _) ih

def EndsNumber (text : Text) : Prop :=
  ∀ c ∈ text.head?, Text.isDigit c = false ∧ c ≠ '.' ∧ isExponentMark c = false

theorem EndsNumber.not_digit {text : Text} (ends : EndsNumber text) : startsWithDigit text = false := by
  cases text with
  | nil => rfl
  | cons c rest => exact (ends c rfl).1

theorem afterWhole_ends {negative : Bool} {significand : Nat} {rest : Text} (ends : EndsNumber rest) :
    afterWhole negative significand rest = .ok (integer negative significand, rest) := by
  unfold afterWhole
  rw [ends.not_digit]
  cases rest with
  | nil => rfl
  | cons c tail =>
    obtain ⟨-, point, mark⟩ := ends c rfl
    simp [point, mark]

theorem digits_append {written rest : Text} (all : ∀ c ∈ written, Text.isDigit c = true)
    (stops : startsWithDigit rest = false) {value : Nat}
    (fits : Text.decimalFrom value written ≤ maxUnsigned) :
    digits value (written ++ rest) = (Text.decimalFrom value written, written.length, rest) := by
  induction written generalizing value with
  | nil =>
    cases rest with
    | nil => rfl
    | cons c tail =>
      have other : Text.isDigit c = false := stops
      simp [digits, other, Text.decimalFrom]
  | cons c written ih =>
    have digit : Text.isDigit c = true := all c List.mem_cons_self
    have next : value * 10 + Text.digitValue c ≤ maxUnsigned :=
      Nat.le_trans (Text.le_decimalFrom _ written) fits
    have more := ih (fun d member => all d (List.mem_cons_of_mem c member)) fits
    simp only [List.cons_append, digits, digit, next, decide_true, Bool.and_self, if_true, more]
    rfl

theorem unsigned_ofNat_append (negative : Bool) {n : Nat} {rest : Text} (fits : n ≤ maxUnsigned)
    (stops : startsWithDigit rest = false) :
    unsigned negative (Text.ofNat n ++ rest) = afterWhole negative n rest := by
  rcases Nat.eq_zero_or_pos n with rfl | positive
  · have zero : Text.ofNat 0 = ['0'] := rfl
    simp [zero, unsigned, stops]
  · obtain ⟨c, written, equal, notZero⟩ := Text.exists_ofNat_cons positive
    have all := Text.ofNat_digits n
    have whole := Text.decimal_ofNat n
    rw [equal] at all whole
    have digit : Text.isDigit c = true := all c List.mem_cons_self
    have first : Text.decimalFrom (Text.digitValue c) written = n := by
      simpa [Text.decimalFrom] using whole
    have whole : Text.decimalFrom (Text.digitValue c) written ≤ maxUnsigned := first ▸ fits
    have read := digits_append (fun d member => all d (List.mem_cons_of_mem c member)) stops whole
    rw [first] at read
    rw [equal, List.cons_append]
    simp [unsigned, notZero, digit, read]

theorem unsigned_ofNat (negative : Bool) {n : Nat} {rest : Text} (fits : n ≤ maxUnsigned)
    (ends : EndsNumber rest) :
    unsigned negative (Text.ofNat n ++ rest) = .ok (integer negative n, rest) :=
  (unsigned_ofNat_append negative fits ends.not_digit).trans (afterWhole_ends ends)

theorem scalar_of_unsigned {text rest : Text} {number : JsonNumber}
    (read : unsigned false text = .ok (number, rest)) : scalar text = .ok (.number number, rest) := by
  cases text with
  | nil => simp [unsigned, failAt] at read
  | cons c tail =>
    have digit : Text.isDigit c = true := by
      by_contra other
      have notZero : c ≠ '0' := by
        rintro rfl
        exact other rfl
      simp [unsigned, other, notZero, failAt] at read
    have quote : c ≠ '"' := by
      rintro rfl
      cases digit
    have minus : c ≠ '-' := by
      rintro rfl
      cases digit
    simp [scalar, quote, minus, digit, read, bind, Except.bind, pure, Except.pure]

/-- An integer of 64 bits, whatever stands behind it that does not go on with it. -/
theorem scalar_writeInteger {value : Int} {rest : Text} (inRange : (JsonNumber.integer value).InRange)
    (ends : EndsNumber rest) :
    scalar (writeInteger value ++ rest) = .ok (.number (.integer value), rest) := by
  obtain ⟨low, high⟩ := inRange value rfl
  have unsignedMax : maxUnsigned = 2 ^ 64 - 1 := rfl
  unfold writeInteger
  split
  · rename_i negative
    have fits : value.natAbs ≤ maxUnsigned := by omega
    have read := unsigned_ofNat true fits ends
    have large : ¬ Nat.pow 2 63 < value.natAbs := by
      have magnitude : value.natAbs ≤ 2 ^ 63 := by omega
      exact Nat.not_lt.mpr magnitude
    have signed : integer true value.natAbs = .integer value := by
      have same : -(value.natAbs : Int) = value := by omega
      have some : value.natAbs ≠ 0 := by omega
      simp only [integer, some, large, same]
      rfl
    rw [signed] at read
    simp [scalar, read, bind, Except.bind, pure, Except.pure]
  · rename_i positive
    have fits : value.natAbs ≤ maxUnsigned := by omega
    have read := unsigned_ofNat false fits ends
    have plain : integer false value.natAbs = .integer value := by
      have same : (value.natAbs : Int) = value := by omega
      simp only [integer, same]
      rfl
    rw [plain] at read
    exact scalar_of_unsigned read

end JsonReader
end ApiBlueprint
