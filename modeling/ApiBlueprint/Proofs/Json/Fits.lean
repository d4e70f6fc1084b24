import ApiBlueprint.Proofs.Fixture.Balance
import ApiBlueprint.Proofs.Json.Members

/-!
What a reader of JSON can give: integers of 64 bits, members in the order of their keys, and
containers nested no deeper than allowed.
-/

namespace ApiBlueprint

def JsonNumber.InRange (number : JsonNumber) : Prop :=
  ∀ value : Int, number = .integer value →
    -0x8000000000000000 ≤ value ∧ value < 0x10000000000000000

/-- Numbers are in range, members are sorted, and containers nest at most `depth` deep. -/
inductive Json.Fits : Nat → Json → Prop
  | null {depth : Nat} : Fits depth .null
  | boolean {depth : Nat} (value : Bool) : Fits depth (.boolean value)
  | number {depth : Nat} {value : JsonNumber} (inRange : value.InRange) : Fits depth (.number value)
  | string {depth : Nat} (value : Text) : Fits depth (.string value)
  | array {depth : Nat} {items : List Json} (each : ∀ item ∈ items, Fits depth item) :
    Fits (depth + 1) (.array items)
  | object {depth : Nat} {members : List (Text × Json)} (sorted : Json.IsSorted members)
    (each : ∀ member ∈ members, Fits depth member.2) : Fits (depth + 1) (.object members)

namespace JsonReader

theorem digitValue_le {c : Char} (digit : Text.isDigit c = true) : Text.digitValue c ≤ 9 := by
  obtain ⟨-, high⟩ : 48 ≤ c.toNat ∧ c.toNat ≤ 57 := by
    simpa [Text.isDigit, Char.le_def, UInt32.le_iff_toNat_le] using digit
  have zero : '0'.toNat = 48 := rfl
  rw [Text.digitValue, zero]
  omega

theorem digits_le {value : Nat} (fits : value ≤ maxUnsigned) (text : Text) :
    (digits value text).1 ≤ maxUnsigned := by
  induction text generalizing value with
  | nil => exact fits
  | cons c rest ih =>
    simp only [digits]
    split
    · rename_i next
      simp only [Bool.and_eq_true, decide_eq_true_eq] at next
      exact ih next.2
    · exact fits

theorem integer_inRange {negative : Bool} {significand : Nat} (fits : significand ≤ maxUnsigned) :
    (integer negative significand).InRange := by
  intro value same
  have bound : significand < 2 ^ 64 := by
    have positive : 0 < Nat.pow 2 64 := by decide
    exact Nat.lt_of_le_pred positive fits
  unfold integer at same
  split at same
  · obtain rfl : (significand : Int) = value := JsonNumber.integer.inj same
    omega
  · split at same
    · cases same
    · rename_i small
      obtain rfl : -(significand : Int) = value := JsonNumber.integer.inj same
      simp only [Bool.or_eq_true, decide_eq_true_eq, not_or, not_lt] at small
      have magnitude : significand ≤ 2 ^ 63 := small.2
      omega

theorem binary_inRange (value : Binary64) : (JsonNumber.binary value).InRange := by
  intro other same
  cases same

section Numbers

variable {negative : Bool} {significand : Nat} {start : Int} {text rest : Text} {number : JsonNumber}

theorem inRange_of_binary (read : binary negative significand start text = .ok (number, rest)) :
    number.InRange := by
  unfold binary at read
  split at read
  · obtain ⟨rfl, -⟩ := Prod.mk.inj (Except.ok.inj read)
    exact binary_inRange _
  · simp [failAt] at read

theorem inRange_of_exponent (read : exponent negative significand start text = .ok (number, rest)) :
    number.InRange := by
  unfold exponent at read
  split at read
  split at read
  · simp [failAt] at read
  · split at read
    · simp [failAt] at read
    · split at read
      · exact inRange_of_binary read
      · split at read
        · simp [failAt] at read
        · obtain ⟨rfl, -⟩ := Prod.mk.inj (Except.ok.inj read)
          exact binary_inRange _

theorem inRange_of_afterDigits
    (read : afterDigits negative significand start text = .ok (number, rest)) : number.InRange := by
  cases text with
  | nil => exact inRange_of_binary read
  | cons c tail =>
    simp only [afterDigits] at read
    split at read
    · exact inRange_of_exponent read
    · exact inRange_of_binary read

theorem inRange_of_fraction (read : fraction negative significand start text = .ok (number, rest)) :
    number.InRange := by
  unfold fraction at read
  split at read
  split at read
  · exact inRange_of_afterDigits read
  · split at read
    · simp [failAt] at read
    · exact inRange_of_afterDigits read

theorem inRange_of_afterWhole (fits : significand ≤ maxUnsigned)
    (read : afterWhole negative significand text = .ok (number, rest)) : number.InRange := by
  unfold afterWhole at read
  split at read
  · simp only at read
    split at read
    · exact inRange_of_fraction read
    · exact inRange_of_afterDigits read
  · cases text with
    | nil =>
      obtain ⟨rfl, -⟩ := Prod.mk.inj (Except.ok.inj read)
      exact integer_inRange fits
    | cons c tail =>
      simp only at read
      split at read
      · exact inRange_of_fraction read
      · split at read
        · exact inRange_of_exponent read
        · obtain ⟨rfl, -⟩ := Prod.mk.inj (Except.ok.inj read)
          exact integer_inRange fits

theorem inRange_of_unsigned (read : unsigned negative text = .ok (number, rest)) :
    number.InRange := by
  cases text with
  | nil => simp [unsigned, failAt] at read
  | cons c tail =>
    simp only [unsigned] at read
    split at read
    · split at read
      · simp [failAt] at read
      · exact inRange_of_afterWhole (Nat.zero_le _) read
    · split at read
      · rename_i digit
        have one : Text.digitValue c ≤ maxUnsigned :=
          Nat.le_trans (digitValue_le digit) (by decide)
        exact inRange_of_afterWhole (digits_le one tail) read
      · simp [failAt] at read

end Numbers

theorem fits_of_scalar {depth : Nat} {text rest : Text} {item : Json}
    (read : scalar text = .ok (item, rest)) : item.Fits depth := by
  cases text with
  | nil => simp [scalar, failAt] at read
  | cons c tail =>
    simp only [scalar] at read
    split at read
    · obtain ⟨⟨value, behind⟩, -, finish⟩ := bind_eq_ok.mp read
      obtain ⟨rfl, -⟩ := Prod.mk.inj (pure_eq_ok.mp finish)
      exact Json.Fits.string value
    split at read
    · obtain ⟨⟨value, behind⟩, found, finish⟩ := bind_eq_ok.mp read
      obtain ⟨rfl, -⟩ := Prod.mk.inj (pure_eq_ok.mp finish)
      exact Json.Fits.number (inRange_of_unsigned found)
    split at read
    · obtain ⟨⟨value, behind⟩, found, finish⟩ := bind_eq_ok.mp read
      obtain ⟨rfl, -⟩ := Prod.mk.inj (pure_eq_ok.mp finish)
      exact Json.Fits.number (inRange_of_unsigned found)
    split at read
    · obtain ⟨behind, -, finish⟩ := bind_eq_ok.mp read
      obtain ⟨rfl, -⟩ := Prod.mk.inj (pure_eq_ok.mp finish)
      exact Json.Fits.null
    split at read
    · obtain ⟨behind, -, finish⟩ := bind_eq_ok.mp read
      obtain ⟨rfl, -⟩ := Prod.mk.inj (pure_eq_ok.mp finish)
      exact Json.Fits.boolean true
    split at read
    · obtain ⟨behind, -, finish⟩ := bind_eq_ok.mp read
      obtain ⟨rfl, -⟩ := Prod.mk.inj (pure_eq_ok.mp finish)
      exact Json.Fits.boolean false
    · simp [failAt] at read

section Containers

variable {value : Text → Except Failure (Json × Text)} {holds : Json → Prop}

theorem forall_mem_items (each : ∀ text item rest, value text = .ok (item, rest) → holds item)
    {fuel : Nat} {text rest : Text} {list : List Json}
    (read : items value fuel text = .ok (list, rest)) : ∀ item ∈ list, holds item := by
  induction fuel generalizing text list with
  | zero => simp [items, failAt] at read
  | succ fuel ih =>
    simp only [items] at read
    obtain ⟨⟨item, behind⟩, found, finish⟩ := bind_eq_ok.mp read
    have first := each text item behind found
    simp only at finish
    split at finish
    · simp [failAt] at finish
    · obtain ⟨rfl, -⟩ := Prod.mk.inj (Except.ok.inj finish)
      simpa using first
    · split at finish
      · simp [failAt] at finish
      · simp [failAt] at finish
      · obtain ⟨⟨others, after⟩, more, done⟩ := bind_eq_ok.mp finish
        obtain ⟨rfl, rfl⟩ := Prod.mk.inj (pure_eq_ok.mp done)
        exact List.forall_mem_cons.mpr ⟨first, ih more⟩
    · simp [failAt] at finish

theorem forall_mem_array (each : ∀ text item rest, value text = .ok (item, rest) → holds item)
    {text rest : Text} {list : List Json} (read : array value text = .ok (list, rest)) :
    ∀ item ∈ list, holds item := by
  unfold array at read
  split at read
  · simp [failAt] at read
  · obtain ⟨rfl, -⟩ := Prod.mk.inj (Except.ok.inj read)
    intro item inside
    cases inside
  · exact forall_mem_items each read

theorem forall_mem_members (each : ∀ text item rest, value text = .ok (item, rest) → holds item)
    {fuel : Nat} {text rest : Text} {list : List (Text × Json)}
    (read : members value fuel text = .ok (list, rest)) : ∀ member ∈ list, holds member.2 := by
  induction fuel generalizing text list with
  | zero => simp [members, failAt] at read
  | succ fuel ih =>
    simp only [members] at read
    obtain ⟨⟨key, behindKey⟩, -, read⟩ := bind_eq_ok.mp read
    obtain ⟨behindColon, -, read⟩ := bind_eq_ok.mp read
    obtain ⟨⟨item, behind⟩, found, finish⟩ := bind_eq_ok.mp read
    have first := each behindColon item behind found
    simp only at finish
    split at finish
    · simp [failAt] at finish
    · obtain ⟨rfl, -⟩ := Prod.mk.inj (Except.ok.inj finish)
      simpa using first
    · split at finish
      · simp [failAt] at finish
      · obtain ⟨⟨others, after⟩, more, done⟩ := bind_eq_ok.mp finish
        obtain ⟨rfl, rfl⟩ := Prod.mk.inj (pure_eq_ok.mp done)
        exact List.forall_mem_cons.mpr ⟨first, ih more⟩
      · simp [failAt] at finish
      · simp [failAt] at finish
    · simp [failAt] at finish

theorem forall_mem_object (each : ∀ text item rest, value text = .ok (item, rest) → holds item)
    {text rest : Text} {list : List (Text × Json)} (read : object value text = .ok (list, rest)) :
    ∀ member ∈ list, holds member.2 := by
  unfold object at read
  split at read
  · simp [failAt] at read
  · obtain ⟨rfl, -⟩ := Prod.mk.inj (Except.ok.inj read)
    intro member inside
    cases inside
  · exact forall_mem_members each read
  · simp [failAt] at read

end Containers

theorem fits_of_value {depth : Nat} {text rest : Text} {item : Json}
    (read : value depth text = .ok (item, rest)) : item.Fits depth := by
  induction depth using Nat.strong_induction_on generalizing text rest item with
  | _ depth ih =>
    rcases value_cases read with leaf | ⟨less, tail, list, rfl, -, found, rfl⟩ |
      ⟨less, tail, list, rfl, -, found, rfl⟩
    · exact fits_of_scalar leaf
    · exact Json.Fits.array (forall_mem_array (fun _ _ _ => ih less (Nat.lt_succ_self less)) found)
    · have each := forall_mem_object (fun _ _ _ => ih less (Nat.lt_succ_self less)) found
      exact Json.Fits.object (Json.sortMembers_isSorted list) fun member inside =>
        each member (Json.mem_sortMembers inside)

end JsonReader
end ApiBlueprint
