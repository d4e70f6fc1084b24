import ApiBlueprint.Placeholder.Kind
import ApiBlueprint.Proofs.Decimal.Bound
import ApiBlueprint.Proofs.Json.Number
import ApiBlueprint.Proofs.Random.Range

/-!
Placeholders whose text is a number or a boolean of JSON by itself, without quotes around it, and the
values that these texts have.
-/

namespace ApiBlueprint

namespace RandomStream

theorem magnitudeBelow_atMost {high : Nat} (small : high < 2 ^ 51) (stream : RandomStream) :
    (stream.magnitudeBelow high).1.AtMost high := by
  have word : stream.nextLongWord.1 / Nat.pow 2 12 ≤ 1 * Nat.pow 2 52 := by
    have less := stream.nextLongWord_lt
    change _ < 2 ^ 64 at less
    change _ / 2 ^ 12 ≤ 1 * 2 ^ 52
    omega
  have unit := Magnitude.ofRatio_atMost (by decide) word (by decide)
  have whole := Magnitude.ofRatio_atMost Nat.one_pos (Nat.le_of_eq (Nat.mul_one high).symm) small
  exact Magnitude.mul_atMost unit whole small

end RandomStream

def Magnitude.hundredths (x : Magnitude) : Nat := roundRatio (x.toRatio.1 * 100) x.toRatio.2

def Magnitude.ofHundredths (n : Nat) : Magnitude := (ofNat n).div (powerOfTen 2)

theorem Magnitude.hundredths_le {x : Magnitude} {limit : Nat} (atMost : x.AtMost limit) :
    x.hundredths ≤ limit * 100 := by
  apply roundRatio_le x.snd_toRatio_pos
  calc
    x.toRatio.1 * 100 ≤ limit * x.toRatio.2 * 100 := Nat.mul_le_mul_right 100 atMost
    _ = limit * 100 * x.toRatio.2 := by ring

theorem Placeholder.twoPlaces_eq (x : Magnitude) :
    twoPlaces x = Text.ofNat (x.hundredths / 100) ++ '.' :: Instant.padded 2 (x.hundredths % 100) :=
  rfl

theorem Instant.padded_two {n : Nat} (small : n < 100) :
    padded 2 n = [(n / 10).digitChar, (n % 10).digitChar] := by
  have all : ∀ m < 100, padded 2 m = [(m / 10).digitChar, (m % 10).digitChar] := by decide +kernel
  exact all n small

namespace JsonReader

theorem value_of_unsigned {n : Nat} {tail rest : Text} {number : JsonNumber} (depth : Nat)
    (read : unsigned false (Text.ofNat n ++ tail) = .ok (number, rest)) :
    value depth (Text.ofNat n ++ tail) = .ok (.number number, rest) := by
  have scalar := scalar_of_unsigned read
  obtain ⟨c, more, equal⟩ := List.exists_cons_of_ne_nil (Nat.toDigits_ne_nil (n := n) (b := 10))
  have digit := Text.ofNat_digits n c (by rw [Text.ofNat, equal]; exact List.mem_cons_self)
  obtain ⟨solid, -, bracket, brace⟩ := isDigit_solid digit
  rw [Text.ofNat, equal, List.cons_append] at scalar ⊢
  rwa [value_scalar solid bracket brace]

theorem value_ofNat {n : Nat} {rest : Text} (fits : n ≤ maxUnsigned) (ends : EndsNumber rest)
    (depth : Nat) : value depth (Text.ofNat n ++ rest) = .ok (.ofNat n, rest) :=
  value_of_unsigned depth (unsigned_ofNat false fits ends)

theorem digits_padded {n : Nat} {rest : Text} (whole : n ≤ maxUnsigned) (ends : EndsNumber rest) :
    digits (n / 100) (Instant.padded 2 (n % 100) ++ rest) = (n, 2, rest) := by
  have small : n % 100 < 100 := Nat.mod_lt n (by decide)
  rw [Instant.padded_two small]
  have tens := Text.digitValue_digitChar (n := n % 100 / 10) (by omega)
  have units := Text.digitValue_digitChar (n := n % 100 % 10) (by omega)
  have value : Text.decimalFrom (n / 100) [(n % 100 / 10).digitChar, (n % 100 % 10).digitChar] = n := by
    simp only [Text.decimalFrom, List.foldl_cons, List.foldl_nil, tens, units]
    omega
  have all : ∀ c ∈ [(n % 100 / 10).digitChar, (n % 100 % 10).digitChar], Text.isDigit c = true := by
    have digit : ∀ m < 10, Text.isDigit m.digitChar = true := by decide
    exact List.forall_mem_cons.mpr ⟨digit _ (by omega), List.forall_mem_singleton.mpr (digit _ (by omega))⟩
  rw [digits_append all ends.not_digit (by rwa [value]), value]
  rfl

theorem value_twoPlaces {x : Magnitude} {rest : Text} (fits : x.hundredths ≤ maxUnsigned)
    (ends : EndsNumber rest) (depth : Nat) :
    value depth (Placeholder.twoPlaces x ++ rest) =
      .ok (.number (.binary ⟨false, .ofHundredths x.hundredths⟩), rest) := by
  rw [Placeholder.twoPlaces_eq, List.append_assoc]
  apply value_of_unsigned
  rw [unsigned_ofNat_append false (by omega) rfl]
  calc
    afterWhole false (x.hundredths / 100) ('.' :: Instant.padded 2 (x.hundredths % 100) ++ rest) =
        fraction false (x.hundredths / 100) 0 (Instant.padded 2 (x.hundredths % 100) ++ rest) := rfl
    _ = afterDigits false x.hundredths (-2) rest := by
      unfold fraction
      rw [digits_padded fits ends]
      simp [ends.not_digit]
    _ = binary false x.hundredths (-2) rest := afterDigits_ends ends
    _ = .ok (.binary ⟨false, .ofHundredths x.hundredths⟩, rest) := by
      have scaled : (Magnitude.ofNat x.hundredths).scaleByTen (-2) =
          some (.ofHundredths x.hundredths) := by
        rw [Magnitude.scaleByTen]
        rfl
      rw [binary, scaled]

end JsonReader

inductive BarePlaceholder where
  | age | integer | decimal | boolean
  deriving DecidableEq, Repr

namespace BarePlaceholder

def kind : BarePlaceholder → Placeholder
  | age => .age
  | integer => .integer
  | decimal => .decimal
  | boolean => .boolean

def value (placeholder : BarePlaceholder) (stream : RandomStream) : Json :=
  match placeholder with
  | age => .ofNat ((stream.below 73).1 + 18)
  | integer => .ofNat (stream.below 10000).1
  | decimal =>
    .number (.binary ⟨false, .ofHundredths (stream.magnitudeBelow 1000).1.hundredths⟩)
  | boolean => .boolean stream.coin.1

theorem value_draw (placeholder : BarePlaceholder) (stream : RandomStream) {rest : Text}
    (ends : JsonReader.EndsNumber rest) (depth : Nat) :
    JsonReader.value depth ((placeholder.kind.draw stream).1 ++ rest) =
      .ok (placeholder.value stream, rest) := by
  have unsignedMax : JsonReader.maxUnsigned = 2 ^ 64 - 1 := rfl
  cases placeholder with
  | age =>
    have below : (stream.below 73).1 < 73 := RandomStream.below_lt (by decide) stream
    have fits : (stream.below 73).1 + 18 ≤ JsonReader.maxUnsigned := by omega
    exact JsonReader.value_ofNat fits ends depth
  | integer =>
    have below : (stream.below 10000).1 < 10000 := RandomStream.below_lt (by decide) stream
    have fits : (stream.below 10000).1 ≤ JsonReader.maxUnsigned := by omega
    exact JsonReader.value_ofNat fits ends depth
  | decimal =>
    have bounded : (stream.magnitudeBelow 1000).1.hundredths ≤ 1000 * 100 :=
      Magnitude.hundredths_le (RandomStream.magnitudeBelow_atMost (by decide) stream)
    have fits : (stream.magnitudeBelow 1000).1.hundredths ≤ JsonReader.maxUnsigned := by omega
    exact JsonReader.value_twoPlaces fits ends depth
  | boolean =>
    simp only [kind, Placeholder.draw, value]
    cases stream.coin.1 with
    | true => exact JsonReader.value_scalar rfl (by decide) (by decide) _ _
    | false => exact JsonReader.value_scalar rfl (by decide) (by decide) _ _

end BarePlaceholder
end ApiBlueprint
