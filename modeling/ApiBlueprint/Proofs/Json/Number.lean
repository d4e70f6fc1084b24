import ApiBlueprint.Proofs.Fixture.Extraction
import ApiBlueprint.Proofs.Json.Pretty

/-!
A number is read to its end and no further: what stands behind it changes nothing if a number cannot
go on with it. Literals of numbers are the texts that read as one.
-/

namespace ApiBlueprint
namespace JsonReader

section Runs

variable {rest : Text}

theorem startsWithDigit_append (ends : EndsNumber rest) (text : Text) :
    startsWithDigit (text ++ rest) = startsWithDigit text := by
  cases text with
  | nil => exact ends.not_digit
  | cons c text => rfl

theorem dropWhile_isDigit_append (ends : EndsNumber rest) (text : Text) :
    (text ++ rest).dropWhile Text.isDigit = text.dropWhile Text.isDigit ++ rest := by
  induction text with
  | nil =>
    cases rest with
    | nil => rfl
    | cons c tail => exact List.dropWhile_cons_of_neg (by simp [(ends c rfl).1])
  | cons c text ih =>
    rw [List.cons_append, List.dropWhile_cons, List.dropWhile_cons, ih]
    split <;> rfl

theorem takeWhile_isDigit_append (ends : EndsNumber rest) (text : Text) :
    (text ++ rest).takeWhile Text.isDigit = text.takeWhile Text.isDigit := by
  induction text with
  | nil =>
    cases rest with
    | nil => rfl
    | cons c tail => exact List.takeWhile_cons_of_neg (by simp [(ends c rfl).1])
  | cons c text ih => rw [List.cons_append, List.takeWhile_cons, List.takeWhile_cons, ih]

theorem digits_append_rest (ends : EndsNumber rest) (value : Nat) (text : Text) :
    digits value (text ++ rest) =
      ((digits value text).1, (digits value text).2.1, (digits value text).2.2 ++ rest) := by
  induction text generalizing value with
  | nil =>
    cases rest with
    | nil => rfl
    | cons c tail => simp [digits, (ends c rfl).1]
  | cons c text ih =>
    simp only [List.cons_append, digits]
    split
    · rw [ih]
    · rfl

theorem exponentDigits_append (ends : EndsNumber rest) (value : Nat) (text : Text) :
    exponentDigits value (text ++ rest) =
      ((exponentDigits value text).1, (exponentDigits value text).2 ++ rest) := by
  induction text generalizing value with
  | nil =>
    cases rest with
    | nil => rfl
    | cons c tail => simp [exponentDigits, (ends c rfl).1]
  | cons c text ih =>
    simp only [List.cons_append, exponentDigits]
    split
    · split
      · rw [ih]
      · rfl
    · rfl

end Runs

section Parts

variable {rest text tail : Text} {number : JsonNumber} {negative : Bool} {significand : Nat}
  {start : Int}

theorem binary_append (read : binary negative significand start text = .ok (number, tail)) :
    binary negative significand start (text ++ rest) = .ok (number, tail ++ rest) := by
  unfold binary at read ⊢
  split at read
  · obtain ⟨rfl, rfl⟩ := Prod.mk.inj (Except.ok.inj read)
    rfl
  · cases read

def exponentSign (text : Text) : Bool × Text :=
  match text with
  | '+' :: rest => (false, rest)
  | '-' :: rest => (true, rest)
  | _ => (false, text)

theorem exponentSign_append (nonempty : text ≠ []) (rest : Text) :
    exponentSign (text ++ rest) = ((exponentSign text).1, (exponentSign text).2 ++ rest) := by
  obtain ⟨c, text, rfl⟩ := List.exists_cons_of_ne_nil nonempty
  by_cases plus : c = '+'
  · rw [plus]
    rfl
  · by_cases minus : c = '-'
    · rw [minus]
      rfl
    · simp [exponentSign, plus, minus]

theorem exponent_eq (negative : Bool) (significand : Nat) (start : Int) (text : Text) :
    exponent negative significand start text =
      if (exponentSign text).2.isEmpty then failAt .endInValue []
      else if !startsWithDigit (exponentSign text).2 then failAt .invalidNumber (exponentSign text).2
      else
        match exponentDigits 0 (exponentSign text).2 with
        | (some value, rest) =>
          binary negative significand
            (if (exponentSign text).1 then start - value else start + value) rest
        | (none, rest) =>
          if significand ≠ 0 && !(exponentSign text).1 then failAt .numberOutOfRange rest 0
          else .ok (.binary ⟨negative, .zero⟩, rest.dropWhile Text.isDigit) := rfl

theorem exponent_append (ends : EndsNumber rest)
    (read : exponent negative significand start text = .ok (number, tail)) :
    exponent negative significand start (text ++ rest) = .ok (number, tail ++ rest) := by
  have nonempty : text ≠ [] := by
    rintro rfl
    cases read
  rw [exponent_eq] at read ⊢
  rw [exponentSign_append nonempty]
  split at read
  · cases read
  · rename_i some
    have some' : ((exponentSign text).2 ++ rest).isEmpty = false := by simp_all
    simp only [some', Bool.false_eq_true, if_false, startsWithDigit_append ends,
      exponentDigits_append ends]
    split at read
    · cases read
    · rename_i digit
      rw [if_neg digit]
      split at read
      · rename_i value behind found
        simp only [found]
        exact binary_append read
      · rename_i behind found
        simp only [found]
        split at read
        · cases read
        · rename_i fits
          obtain ⟨rfl, rfl⟩ := Prod.mk.inj (Except.ok.inj read)
          rw [if_neg fits, dropWhile_isDigit_append ends]

theorem afterDigits_ends (ends : EndsNumber rest) :
    afterDigits negative significand start rest = binary negative significand start rest := by
  cases rest with
  | nil => rfl
  | cons c more => simp [afterDigits, (ends c rfl).2.2]

theorem afterDigits_append (ends : EndsNumber rest)
    (read : afterDigits negative significand start text = .ok (number, tail)) :
    afterDigits negative significand start (text ++ rest) = .ok (number, tail ++ rest) := by
  cases text with
  | nil =>
    rw [List.nil_append, afterDigits_ends ends]
    exact binary_append read
  | cons c text =>
    simp only [afterDigits, List.cons_append] at read ⊢
    split at read
    · rename_i mark
      rw [if_pos mark]
      exact exponent_append ends read
    · rename_i other
      rw [if_neg other]
      exact binary_append read

theorem fraction_append (ends : EndsNumber rest)
    (read : fraction negative significand start text = .ok (number, tail)) :
    fraction negative significand start (text ++ rest) = .ok (number, tail ++ rest) := by
  unfold fraction at read ⊢
  rw [digits_append_rest ends]
  generalize digits significand text = run at read ⊢
  obtain ⟨value, count, behind⟩ := run
  simp only [startsWithDigit_append ends, dropWhile_isDigit_append ends] at read ⊢
  split at read
  · rename_i digit
    rw [if_pos digit]
    exact afterDigits_append ends read
  · rename_i other
    rw [if_neg other]
    split at read
    · cases read
    · rename_i some
      rw [if_neg some]
      exact afterDigits_append ends read

theorem afterWhole_append (ends : EndsNumber rest)
    (read : afterWhole negative significand text = .ok (number, tail)) :
    afterWhole negative significand (text ++ rest) = .ok (number, tail ++ rest) := by
  cases text with
  | nil =>
    obtain ⟨rfl, rfl⟩ := Prod.mk.inj (Except.ok.inj read)
    exact afterWhole_ends ends
  | cons c text =>
    unfold afterWhole at read ⊢
    rw [startsWithDigit_append ends, takeWhile_isDigit_append ends, dropWhile_isDigit_append ends]
    split at read
    · rename_i digit
      rw [if_pos digit]
      generalize (c :: text).dropWhile Text.isDigit = behind at read ⊢
      generalize ((c :: text).takeWhile Text.isDigit).length = dropped at read ⊢
      simp only at read ⊢
      split at read
      · exact fraction_append ends read
      · rename_i notPoint
        have whole := afterDigits_append ends read
        split
        · rename_i more point
          cases behind with
          | nil => exact absurd rfl (ends '.' (by rw [← List.nil_append rest, point]; rfl)).2.1
          | cons d behind =>
            obtain ⟨rfl, -⟩ := List.cons.inj point
            exact absurd rfl (notPoint behind)
        · exact whole
    · rename_i other
      rw [if_neg other]
      simp only [List.cons_append] at read ⊢
      split at read
      · rename_i point
        rw [if_pos point]
        exact fraction_append ends read
      · rename_i notPoint
        rw [if_neg notPoint]
        split at read
        · rename_i mark
          rw [if_pos mark]
          exact exponent_append ends read
        · rename_i other
          obtain ⟨rfl, rfl⟩ := Prod.mk.inj (Except.ok.inj read)
          rw [if_neg other]
          rfl

theorem unsigned_append (ends : EndsNumber rest)
    (read : unsigned negative text = .ok (number, tail)) :
    unsigned negative (text ++ rest) = .ok (number, tail ++ rest) := by
  cases text with
  | nil => cases read
  | cons c text =>
    simp only [unsigned, List.cons_append, startsWithDigit_append ends, digits_append_rest ends]
      at read ⊢
    split at read
    · rename_i zero
      rw [if_pos zero]
      split at read
      · cases read
      · rename_i other
        rw [if_neg other]
        exact afterWhole_append ends read
    · rename_i notZero
      rw [if_neg notZero]
      split at read
      · rename_i digit
        rw [if_pos digit]
        exact afterWhole_append ends read
      · cases read

theorem scalar_number_append (ends : EndsNumber rest)
    (read : scalar text = .ok (.number number, tail)) :
    scalar (text ++ rest) = .ok (.number number, tail ++ rest) := by
  have same {negative : Bool} {text : Text}
      (read : (unsigned negative text >>= fun found => pure (Json.number found.1, found.2)) =
        .ok (Json.number number, tail)) :
      (unsigned negative (text ++ rest) >>= fun found => pure (Json.number found.1, found.2)) =
        .ok (Json.number number, tail ++ rest) := by
    obtain ⟨⟨value, behind⟩, found, same⟩ := bind_eq_ok.mp read
    obtain ⟨equal, rfl⟩ := Prod.mk.inj (pure_eq_ok.mp same)
    obtain rfl := Json.number.inj equal
    exact bind_eq_ok.mpr ⟨_, unsigned_append ends found, rfl⟩
  have keyword {item : Json} {expected text : Text} (different : item ≠ .number number)
      (read : (do return (item, ← word expected text)) = Except.ok (Json.number number, tail)) :
      False := by
    obtain ⟨_, -, same⟩ := bind_eq_ok.mp read
    exact different (Prod.mk.inj (pure_eq_ok.mp same)).1
  cases text with
  | nil => cases read
  | cons c text =>
    simp only [scalar, List.cons_append] at read ⊢
    split at read
    · obtain ⟨_, -, same⟩ := bind_eq_ok.mp read
      cases (Prod.mk.inj (pure_eq_ok.mp same)).1
    · rename_i notQuote
      rw [if_neg notQuote]
      split at read
      · rename_i minus
        rw [if_pos minus]
        exact same read
      · rename_i notMinus
        rw [if_neg notMinus]
        split at read
        · rename_i digit
          rw [if_pos digit]
          exact same read
        · split at read
          · exact (keyword (by simp) read).elim
          · split at read
            · exact (keyword (by simp) read).elim
            · split at read
              · exact (keyword (by simp) read).elim
              · cases read

end Parts

end JsonReader

def Json.isNumberCharacter (c : Char) : Bool :=
  Text.isDigit c || ['+', '-', '.', 'e', 'E'].contains c

structure NumberLiteral where
  text : Text
  value : JsonNumber
  characters : ∀ c ∈ text, Json.isNumberCharacter c = true
  reads : Json.read text = .ok (.number value)

namespace NumberLiteral

theorem isSpace_eq_false {c : Char} (number : Json.isNumberCharacter c = true) :
    JsonReader.isSpace c = false := by
  by_contra space
  simp only [JsonReader.isSpace, Bool.not_eq_false, Bool.or_eq_true, decide_eq_true_eq] at space
  rcases space with ((rfl | rfl) | rfl) | rfl <;> revert number <;> decide

theorem exists_cons (literal : NumberLiteral) : ∃ c tail, literal.text = c :: tail := by
  obtain ⟨rest, read, -⟩ := Json.read_eq_ok_iff.mp literal.reads
  apply List.exists_cons_of_ne_nil
  intro empty
  rw [empty] at read
  cases read

/-- A literal is read back whatever stands behind it but more of a number. -/
theorem value_append (literal : NumberLiteral) {rest : Text} (ends : JsonReader.EndsNumber rest)
    (depth : Nat) :
    JsonReader.value depth (literal.text ++ rest) = .ok (.number literal.value, rest) := by
  obtain ⟨c, tail, equal⟩ := literal.exists_cons
  have first : Json.isNumberCharacter c = true :=
    literal.characters c (equal ▸ List.mem_cons_self)
  have solid := isSpace_eq_false first
  have bracket : c ≠ '[' := by
    rintro rfl
    cases first
  have brace : c ≠ '{' := by
    rintro rfl
    cases first
  obtain ⟨behind, read, blank⟩ := Json.read_eq_ok_iff.mp literal.reads
  rw [equal, JsonReader.value_scalar solid bracket brace, ← equal] at read
  obtain ⟨taken, whole, -⟩ := JsonReader.scalar_skips read
  -- What is left unread is blank, and a literal has no blank in it.
  obtain rfl : behind = [] := by
    rw [List.eq_nil_iff_forall_not_mem]
    intro d member
    have number := literal.characters d (whole ▸ List.mem_append_right taken member)
    have space := List.dropWhile_eq_nil_iff.mp blank d member
    rw [isSpace_eq_false number] at space
    cases space
  have found := JsonReader.scalar_number_append ends read
  rw [List.nil_append] at found
  rw [equal, List.cons_append] at found ⊢
  rwa [JsonReader.value_scalar solid bracket brace]

end NumberLiteral
end ApiBlueprint
