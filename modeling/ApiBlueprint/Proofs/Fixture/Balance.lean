import ApiBlueprint.Json.Reader
import ApiBlueprint.Proofs.Fixture.Passage
import ApiBlueprint.Proofs.Outcome
import Mathlib.Data.List.TakeWhile

/-!
Every reader of JSON takes a balanced stretch of text, so the scanner of spans stands behind a value
as it stood before it. An object therefore ends where the scanner closes its span.
-/

namespace ApiBlueprint
namespace Span

/-- What was read of `text` to get to `rest` takes the scanner from `start` to `stop` at any depth. -/
def Reaches (start stop : Nat → SpanState) (text rest : Text) : Prop :=
  ∃ taken, text = taken ++ rest ∧ ∀ depth, Passes (start depth) (stop depth) taken

theorem reaches_of_passes {start stop : Nat → SpanState} {taken : Text}
    (passes : ∀ depth, Passes (start depth) (stop depth) taken) (rest : Text) :
    Reaches start stop (taken ++ rest) rest :=
  ⟨taken, rfl, passes⟩

theorem reaches_refl (state : Nat → SpanState) (text : Text) : Reaches state state text text :=
  ⟨[], rfl, fun depth => passes_nil (state depth)⟩

theorem reaches_trans {first second third : Nat → SpanState} {text middle rest : Text}
    (before : Reaches first second text middle) (behind : Reaches second third middle rest) :
    Reaches first third text rest := by
  obtain ⟨left, rfl, passesLeft⟩ := before
  obtain ⟨right, rfl, passesRight⟩ := behind
  refine ⟨left ++ right, by simp, fun depth => ?_⟩
  exact passes_append (passesLeft depth) (passesRight depth)

/-- What was read of `text` to get to `rest` is balanced. -/
abbrev Skips (text rest : Text) : Prop := Reaches outside outside text rest

theorem skips_balanced {taken : Text} (balanced : Balanced taken) (rest : Text) :
    Skips (taken ++ rest) rest :=
  reaches_of_passes balanced rest

theorem skips_plain {c : Char} (plain : IsPlain c) (rest : Text) : Skips (c :: rest) rest :=
  reaches_of_passes (fun depth => passes_plain depth plain) rest

theorem skips_braces {text rest : Text} (inner : Skips text ('}' :: rest)) :
    Skips ('{' :: text) rest := by
  obtain ⟨taken, rfl, balanced⟩ := inner
  have braces := skips_balanced (balanced_braces balanced) rest
  simpa using braces

theorem skips_dropWhile {test : Char → Bool} (plain : ∀ c, test c → IsPlain c) (text : Text) :
    Skips text (text.dropWhile test) := by
  have balanced : Balanced (text.takeWhile test) :=
    balanced_of_plain fun c member => plain c (List.mem_takeWhile_imp member)
  have skips := skips_balanced balanced (text.dropWhile test)
  rwa [List.takeWhile_append_dropWhile] at skips

end Span

namespace JsonReader

open ApiBlueprint.Span

theorem plain_of_isSpace (c : Char) (space : isSpace c) : IsPlain c := by
  simp only [isSpace, Bool.or_eq_true, decide_eq_true_eq] at space
  rcases space with ((rfl | rfl) | rfl) | rfl <;> decide

theorem plain_of_isDigit (c : Char) (digit : Text.isDigit c) : IsPlain c := by
  simp only [Text.isDigit, Bool.and_eq_true, decide_eq_true_eq] at digit
  refine ⟨?_, ?_, ?_⟩ <;> rintro rfl <;> revert digit <;> decide

theorem plain_of_isExponentMark (c : Char) (mark : isExponentMark c) : IsPlain c := by
  simp only [isExponentMark, Bool.or_eq_true, decide_eq_true_eq] at mark
  rcases mark with rfl | rfl <;> decide

theorem skipSpace_skips (text : Text) : Skips text (skipSpace text) :=
  skips_dropWhile plain_of_isSpace text

theorem digits_dropped_skips (text : Text) : Skips text (text.dropWhile Text.isDigit) :=
  skips_dropWhile plain_of_isDigit text

theorem word_skips {expected text rest : Text} (plain : ∀ c ∈ expected, IsPlain c)
    (read : word expected text = .ok rest) : Skips text rest := by
  induction expected generalizing text with
  | nil =>
    obtain rfl : text = rest := by simpa [word] using read
    exact reaches_refl _ _
  | cons c more ih =>
    cases text with
    | nil => simp [word] at read
    | cons d tail =>
      simp only [word] at read
      split at read
      · rename_i same
        subst same
        have behind := ih (fun e member => plain e (List.mem_cons_of_mem c member)) read
        exact reaches_trans (skips_plain (plain c List.mem_cons_self) tail) behind
      · simp at read

theorem ordinary_of_hexValue {c : Char} {value : Nat} (hex : hexValue? c = some value) :
    c ≠ '"' ∧ c ≠ '\\' := by
  constructor <;> rintro rfl <;> revert hex <;> simp [hexValue?, Text.isDigit]

theorem hexUnit_reaches {text rest : Text} {unit : Nat} (read : hexUnit text = .ok (unit, rest)) :
    Reaches inside inside text rest := by
  unfold hexUnit at read
  split at read
  · rename_i result found
    obtain rfl : result = (unit, rest) := by simpa using read
    unfold hexUnit? at found
    split at found
    · rename_i a b c d tail
      simp only [bind, Option.bind_eq_some_iff, pure, Option.some.injEq, Prod.mk.injEq] at found
      obtain ⟨_, hexA, _, hexB, _, hexC, _, hexD, _, rfl⟩ := found
      have step {e : Char} {value : Nat} (hex : hexValue? e = some value) (depth : Nat) :
          Passes (inside depth) (inside depth) [e] :=
        passes_inside depth (ordinary_of_hexValue hex).1 (ordinary_of_hexValue hex).2
      have all (depth : Nat) : Passes (inside depth) (inside depth) [a, b, c, d] :=
        passes_append (step hexA depth) (passes_append (step hexB depth)
          (passes_append (step hexC depth) (step hexD depth)))
      exact reaches_of_passes all _
    · simp at found
  · split at read <;> simp [failAt] at read

theorem lowHalf_reaches {high : Nat} {text rest : Text} {value : Char}
    (read : lowHalf high text = .ok (value, rest)) : Reaches inside inside text rest := by
  unfold lowHalf at read
  split at read <;> try simp [failAt] at read
  rename_i tail
  obtain ⟨⟨low, behind⟩, unit, finish⟩ := bind_eq_ok.mp read
  simp only at finish
  split at finish
  · obtain ⟨-, rfl⟩ := Prod.mk.inj (Except.ok.inj finish)
    have escape := reaches_of_passes (fun depth => passes_escape depth 'u') tail
    exact reaches_trans escape (hexUnit_reaches unit)
  · simp at finish

theorem unicodeEscape_reaches {text rest : Text} {value : Char}
    (read : unicodeEscape text = .ok (value, rest)) : Reaches inside inside text rest := by
  unfold unicodeEscape at read
  obtain ⟨⟨unit, behind⟩, found, finish⟩ := bind_eq_ok.mp read
  have digits := hexUnit_reaches found
  simp only at finish
  split at finish
  · simp [failAt] at finish
  · split at finish
    · exact reaches_trans digits (lowHalf_reaches finish)
    · obtain ⟨-, rfl⟩ := Prod.mk.inj (Except.ok.inj finish)
      exact digits

theorem escape_reaches {text rest : Text} {value : Char} (read : escape text = .ok (value, rest)) :
    Reaches inside inside ('\\' :: text) rest := by
  cases text with
  | nil => simp [escape, failAt] at read
  | cons c tail =>
    have escapes := reaches_of_passes (fun depth => passes_escape depth c) tail
    simp only [escape] at read
    split at read
    · exact reaches_trans escapes (unicodeEscape_reaches read)
    · split at read
      · obtain ⟨-, rfl⟩ := Prod.mk.inj (Except.ok.inj read)
        exact escapes
      · simp [failAt] at read

theorem stringStep_reaches {text rest : Text} {value : Option Char}
    (read : stringStep text = .ok (value, rest)) :
    Reaches inside (if value.isSome then inside else outside) text rest := by
  cases text with
  | nil => simp [stringStep, failAt] at read
  | cons c tail =>
    simp only [stringStep] at read
    split at read
    · rename_i quote
      obtain ⟨rfl, rfl⟩ := Prod.mk.inj (Except.ok.inj read)
      subst quote
      exact reaches_of_passes passes_closing_quote tail
    · rename_i quote
      split at read
      · rename_i backslash
        obtain ⟨⟨escaped, behind⟩, found, finish⟩ := bind_eq_ok.mp read
        obtain ⟨rfl, rfl⟩ := Prod.mk.inj (pure_eq_ok.mp finish)
        subst backslash
        exact escape_reaches found
      · rename_i backslash
        split at read
        · simp [failAt] at read
        · obtain ⟨rfl, rfl⟩ := Prod.mk.inj (Except.ok.inj read)
          exact reaches_of_passes (fun depth => passes_inside depth quote backslash) tail

theorem string_cases {text rest value : Text} (read : string text = .ok (value, rest)) :
    (stringStep text = .ok (none, rest) ∧ value = []) ∨
      ∃ c behind more, stringStep text = .ok (some c, behind) ∧ string behind = .ok (more, rest) ∧
        value = c :: more := by
  rw [string] at read
  split at read
  · simp at read
  · rename_i behind step
    obtain ⟨rfl, rfl⟩ := Prod.mk.inj (Except.ok.inj read)
    exact Or.inl ⟨step, rfl⟩
  · rename_i c behind step
    obtain ⟨⟨more, after⟩, found, finish⟩ := bind_eq_ok.mp read
    obtain ⟨rfl, rfl⟩ := Prod.mk.inj (pure_eq_ok.mp finish)
    exact Or.inr ⟨c, behind, more, step, found, rfl⟩

theorem string_reaches {text rest value : Text} (read : string text = .ok (value, rest)) :
    Reaches inside outside text rest := by
  induction length : text.length using Nat.strong_induction_on generalizing text value with
  | _ count ih =>
    rcases string_cases read with ⟨step, -⟩ | ⟨c, behind, more, step, found, -⟩
    · exact stringStep_reaches step
    · have shorter : behind.length < count := length ▸ string_step_length step
      exact reaches_trans (stringStep_reaches step) (ih behind.length shorter found rfl)

theorem quoted_skips {text rest value : Text} (read : string text = .ok (value, rest)) :
    Skips ('"' :: text) rest :=
  reaches_trans (reaches_of_passes passes_opening_quote text) (string_reaches read)

theorem digits_skips (value : Nat) (text : Text) : Skips text (digits value text).2.2 := by
  induction text generalizing value with
  | nil => exact reaches_refl _ _
  | cons c rest ih =>
    simp only [digits]
    split
    · rename_i fits
      have digit : Text.isDigit c := by simp_all
      exact reaches_trans (skips_plain (plain_of_isDigit c digit) rest) (ih _)
    · exact reaches_refl _ _

theorem exponentDigits_skips (value : Nat) (text : Text) :
    Skips text (exponentDigits value text).2 := by
  induction text generalizing value with
  | nil => exact reaches_refl _ _
  | cons c rest ih =>
    simp only [exponentDigits]
    split
    · rename_i digit
      have first := skips_plain (plain_of_isDigit c digit) rest
      split
      · exact reaches_trans first (ih _)
      · exact first
    · exact reaches_refl _ _

theorem rest_of_binary {negative : Bool} {significand : Nat} {power : Int} {behind rest : Text}
    {number : JsonNumber} (read : binary negative significand power behind = .ok (number, rest)) :
    behind = rest := by
  unfold binary at read
  split at read
  · exact (Prod.mk.inj (Except.ok.inj read)).2
  · simp [failAt] at read

theorem exponent_skips {negative : Bool} {significand : Nat} {start : Int} {text rest : Text}
    {number : JsonNumber} (read : exponent negative significand start text = .ok (number, rest)) :
    Skips text rest := by
  unfold exponent at read
  split at read
  rename_i down digits signed
  have sign : Skips text digits := by
    split at signed
    · obtain ⟨-, rfl⟩ := Prod.mk.inj signed
      exact @skips_plain '+' (by decide) _
    · obtain ⟨-, rfl⟩ := Prod.mk.inj signed
      exact @skips_plain '-' (by decide) _
    · obtain ⟨-, rfl⟩ := Prod.mk.inj signed
      exact reaches_refl _ _
  apply reaches_trans sign
  have taken := exponentDigits_skips 0 digits
  split at read
  · simp [failAt] at read
  · split at read
    · simp [failAt] at read
    · split at read
      · rename_i value behind found
        rw [found] at taken
        exact rest_of_binary read ▸ taken
      · rename_i behind found
        rw [found] at taken
        split at read
        · simp [failAt] at read
        · obtain ⟨-, rfl⟩ := Prod.mk.inj (Except.ok.inj read)
          exact reaches_trans taken (digits_dropped_skips behind)

theorem afterDigits_skips {negative : Bool} {significand : Nat} {start : Int} {text rest : Text}
    {number : JsonNumber} (read : afterDigits negative significand start text = .ok (number, rest)) :
    Skips text rest := by
  cases text with
  | nil =>
    obtain rfl := rest_of_binary read
    exact reaches_refl _ _
  | cons c tail =>
    simp only [afterDigits] at read
    split at read
    · rename_i mark
      exact reaches_trans (skips_plain (plain_of_isExponentMark c mark) tail) (exponent_skips read)
    · obtain rfl := rest_of_binary read
      exact reaches_refl _ _

theorem fraction_skips {negative : Bool} {significand : Nat} {start : Int} {text rest : Text}
    {number : JsonNumber} (read : fraction negative significand start text = .ok (number, rest)) :
    Skips text rest := by
  have taken := digits_skips significand text
  unfold fraction at read
  generalize digits significand text = split at read taken
  obtain ⟨value, count, behind⟩ := split
  simp only at read taken
  split at read
  · have dropped := digits_dropped_skips behind
    exact reaches_trans taken (reaches_trans dropped (afterDigits_skips read))
  · split at read
    · simp [failAt] at read
    · exact reaches_trans taken (afterDigits_skips read)

theorem afterWhole_skips {negative : Bool} {significand : Nat} {text rest : Text}
    {number : JsonNumber} (read : afterWhole negative significand text = .ok (number, rest)) :
    Skips text rest := by
  have point (tail : Text) : Skips ('.' :: tail) tail := skips_plain (by decide) tail
  unfold afterWhole at read
  split at read
  · have dropped := digits_dropped_skips text
    simp only at read
    split at read
    · rename_i tail found
      rw [found] at dropped
      exact reaches_trans dropped (reaches_trans (point tail) (fraction_skips read))
    · exact reaches_trans dropped (afterDigits_skips read)
  · cases text with
    | nil =>
      obtain ⟨-, rfl⟩ := Prod.mk.inj (Except.ok.inj read)
      exact reaches_refl _ _
    | cons c tail =>
      simp only at read
      split at read
      · rename_i isPoint
        subst isPoint
        exact reaches_trans (point tail) (fraction_skips read)
      · split at read
        · rename_i mark
          have first := skips_plain (plain_of_isExponentMark c mark) tail
          exact reaches_trans first (exponent_skips read)
        · obtain ⟨-, rfl⟩ := Prod.mk.inj (Except.ok.inj read)
          exact reaches_refl _ _

theorem unsigned_skips {negative : Bool} {text rest : Text} {number : JsonNumber}
    (read : unsigned negative text = .ok (number, rest)) : Skips text rest := by
  cases text with
  | nil => simp [unsigned, failAt] at read
  | cons c tail =>
    simp only [unsigned] at read
    split at read
    · rename_i zero
      subst zero
      split at read
      · simp [failAt] at read
      · exact reaches_trans (skips_plain (by decide) tail) (afterWhole_skips read)
    · split at read
      · rename_i digit
        have first := skips_plain (plain_of_isDigit c digit) tail
        have more := digits_skips (Text.digitValue c) tail
        exact reaches_trans first (reaches_trans more (afterWhole_skips read))
      · simp [failAt] at read

theorem behind_skipSpace {c : Char} {text tail : Text} (found : skipSpace text = c :: tail)
    (plain : IsPlain c) : Skips text tail := by
  have space := skipSpace_skips text
  rw [found] at space
  exact reaches_trans space (skips_plain plain tail)

theorem colon_skips {text rest : Text} (read : colon text = .ok rest) : Skips text rest := by
  unfold colon at read
  split at read
  · simp at read
  · rename_i tail found
    obtain rfl := Except.ok.inj read
    exact behind_skipSpace found (by decide)
  · simp at read

theorem keyword_skips {first : Char} {more tail rest : Text} {item json : Json}
    (plain : ∀ c ∈ first :: more, IsPlain c)
    (read : (do return (json, ← word more tail)) = (.ok (item, rest) : Except Failure (Json × Text))) :
    Skips (first :: tail) rest := by
  obtain ⟨behind, found, finish⟩ := bind_eq_ok.mp read
  obtain ⟨-, rfl⟩ := Prod.mk.inj (pure_eq_ok.mp finish)
  have here : IsPlain first := plain first List.mem_cons_self
  have later : ∀ c ∈ more, IsPlain c := fun c member => plain c (List.mem_cons_of_mem first member)
  exact reaches_trans (skips_plain here tail) (word_skips later found)

theorem scalar_skips {text rest : Text} {item : Json} (read : scalar text = .ok (item, rest)) :
    Skips text rest := by
  cases text with
  | nil => simp [scalar, failAt] at read
  | cons c tail =>
    simp only [scalar] at read
    split at read
    · rename_i quote
      subst quote
      obtain ⟨⟨value, behind⟩, found, finish⟩ := bind_eq_ok.mp read
      obtain ⟨-, rfl⟩ := Prod.mk.inj (pure_eq_ok.mp finish)
      exact quoted_skips found
    split at read
    · rename_i minus
      subst minus
      obtain ⟨⟨value, behind⟩, found, finish⟩ := bind_eq_ok.mp read
      obtain ⟨-, rfl⟩ := Prod.mk.inj (pure_eq_ok.mp finish)
      exact reaches_trans (skips_plain (by decide) tail) (unsigned_skips found)
    split at read
    · obtain ⟨⟨value, behind⟩, found, finish⟩ := bind_eq_ok.mp read
      obtain ⟨-, rfl⟩ := Prod.mk.inj (pure_eq_ok.mp finish)
      exact unsigned_skips found
    split at read
    · rename_i first
      exact first ▸ keyword_skips (by simp [IsPlain]) read
    split at read
    · rename_i first
      exact first ▸ keyword_skips (by simp [IsPlain]) read
    split at read
    · rename_i first
      exact first ▸ keyword_skips (by simp [IsPlain]) read
    · simp [failAt] at read

section Containers

variable {value : Text → Except Failure (Json × Text)}

theorem items_skips (skips : ∀ text item rest, value text = .ok (item, rest) → Skips text rest)
    {fuel : Nat} {text rest : Text} {list : List Json}
    (read : items value fuel text = .ok (list, rest)) : Skips text rest := by
  induction fuel generalizing text list with
  | zero => simp [items, failAt] at read
  | succ fuel ih =>
    simp only [items] at read
    obtain ⟨⟨item, behind⟩, found, finish⟩ := bind_eq_ok.mp read
    have first := skips text item behind found
    simp only at finish
    split at finish
    · simp [failAt] at finish
    · rename_i tail bracket
      obtain ⟨-, rfl⟩ := Prod.mk.inj (Except.ok.inj finish)
      exact reaches_trans first (behind_skipSpace bracket (by decide))
    · rename_i tail comma
      have untilNext := reaches_trans first (behind_skipSpace comma (by decide))
      split at finish
      · simp [failAt] at finish
      · simp [failAt] at finish
      · obtain ⟨⟨others, after⟩, more, done⟩ := bind_eq_ok.mp finish
        obtain ⟨-, rfl⟩ := Prod.mk.inj (pure_eq_ok.mp done)
        exact reaches_trans untilNext (reaches_trans (skipSpace_skips tail) (ih more))
    · simp [failAt] at finish

theorem array_skips (skips : ∀ text item rest, value text = .ok (item, rest) → Skips text rest)
    {text rest : Text} {list : List Json} (read : array value text = .ok (list, rest)) :
    Skips text rest := by
  unfold array at read
  split at read
  · simp [failAt] at read
  · rename_i tail bracket
    obtain ⟨-, rfl⟩ := Prod.mk.inj (Except.ok.inj read)
    exact behind_skipSpace bracket (by decide)
  · exact reaches_trans (skipSpace_skips text) (items_skips skips read)

/-- The brace that closes an object is the first character that is not skipped. -/
theorem members_skips (skips : ∀ text item rest, value text = .ok (item, rest) → Skips text rest)
    {fuel : Nat} {text rest : Text} {list : List (Text × Json)}
    (read : members value fuel ('"' :: text) = .ok (list, rest)) :
    Skips ('"' :: text) ('}' :: rest) := by
  induction fuel generalizing text list with
  | zero => simp [members, failAt] at read
  | succ fuel ih =>
    simp only [members, List.drop_succ_cons, List.drop_zero] at read
    obtain ⟨⟨key, behindKey⟩, keyFound, read⟩ := bind_eq_ok.mp read
    obtain ⟨behindColon, colonFound, read⟩ := bind_eq_ok.mp read
    obtain ⟨⟨item, behind⟩, itemFound, finish⟩ := bind_eq_ok.mp read
    have member : Skips ('"' :: text) behind :=
      reaches_trans (quoted_skips keyFound)
        (reaches_trans (colon_skips colonFound) (skips behindColon item behind itemFound))
    simp only at finish
    split at finish
    · simp [failAt] at finish
    · rename_i tail brace
      obtain ⟨-, rfl⟩ := Prod.mk.inj (Except.ok.inj finish)
      exact reaches_trans member (brace ▸ skipSpace_skips behind)
    · rename_i tail comma
      have untilNext := reaches_trans member (behind_skipSpace comma (by decide))
      split at finish
      · simp [failAt] at finish
      · rename_i next quote
        obtain ⟨⟨others, after⟩, more, done⟩ := bind_eq_ok.mp finish
        obtain ⟨-, rfl⟩ := Prod.mk.inj (pure_eq_ok.mp done)
        exact reaches_trans untilNext (reaches_trans (quote ▸ skipSpace_skips tail) (ih more))
      · simp [failAt] at finish
      · simp [failAt] at finish
    · simp [failAt] at finish

theorem object_skips (skips : ∀ text item rest, value text = .ok (item, rest) → Skips text rest)
    {text rest : Text} {list : List (Text × Json)} (read : object value text = .ok (list, rest)) :
    Skips text ('}' :: rest) := by
  have space := skipSpace_skips text
  unfold object at read
  split at read
  · simp [failAt] at read
  · rename_i tail brace
    obtain ⟨-, rfl⟩ := Prod.mk.inj (Except.ok.inj read)
    exact brace ▸ space
  · rename_i tail quote
    exact reaches_trans (quote ▸ space) (members_skips skips read)
  · simp [failAt] at read

end Containers

/-- A value is an array, an object or no container; a container takes one level of depth. -/
theorem value_cases {depth : Nat} {text rest : Text} {item : Json}
    (read : value depth text = .ok (item, rest)) :
    scalar (skipSpace text) = .ok (item, rest) ∨
      (∃ less tail list, depth = less + 1 ∧ skipSpace text = '[' :: tail ∧
        array (value less) tail = .ok (list, rest) ∧ item = .array list) ∨
      ∃ less tail list, depth = less + 1 ∧ skipSpace text = '{' :: tail ∧
        object (value less) tail = .ok (list, rest) ∧ item = .object (Json.sortMembers list) := by
  unfold value at read
  split at read
  · rename_i less tail bracket
    obtain ⟨⟨list, behind⟩, found, finish⟩ := bind_eq_ok.mp read
    obtain ⟨rfl, rfl⟩ := Prod.mk.inj (pure_eq_ok.mp finish)
    exact Or.inr (Or.inl ⟨less, tail, list, rfl, bracket, found, rfl⟩)
  · rename_i less tail brace
    obtain ⟨⟨list, behind⟩, found, finish⟩ := bind_eq_ok.mp read
    obtain ⟨rfl, rfl⟩ := Prod.mk.inj (pure_eq_ok.mp finish)
    exact Or.inr (Or.inr ⟨less, tail, list, rfl, brace, found, rfl⟩)
  · simp [failAt] at read
  · simp [failAt] at read
  · exact Or.inl read

theorem value_skips {depth : Nat} {text rest : Text} {item : Json}
    (read : value depth text = .ok (item, rest)) : Skips text rest := by
  induction depth using Nat.strong_induction_on generalizing text rest item with
  | _ depth ih =>
    rcases value_cases read with leaf | ⟨less, tail, list, rfl, bracket, found, -⟩ |
      ⟨less, tail, list, rfl, brace, found, -⟩
    · exact reaches_trans (skipSpace_skips text) (scalar_skips leaf)
    · have inner := array_skips (fun _ _ _ => ih less (Nat.lt_succ_self less)) found
      exact reaches_trans (behind_skipSpace bracket (by decide)) inner
    · have inner := object_skips (fun _ _ _ => ih less (Nat.lt_succ_self less)) found
      exact reaches_trans (brace ▸ skipSpace_skips text) (skips_braces inner)

/-- A text that starts with a brace can only be read as an object, and the scanner closes the span
of that brace where the object ends. -/
theorem object_of_brace {depth : Nat} {text rest : Text} {item : Json}
    (read : value depth ('{' :: text) = .ok (item, rest)) :
    (∃ list, item = .object list) ∧ ∃ inner, text = inner ++ '}' :: rest ∧ Balanced inner := by
  rcases value_cases read with leaf | ⟨less, tail, list, rfl, bracket, found, -⟩ |
    ⟨less, tail, list, rfl, brace, found, rfl⟩
  · simp [scalar, skipSpace, isSpace, Text.isDigit, failAt] at leaf
  · simp [skipSpace, isSpace] at bracket
  · obtain rfl : text = tail := by simpa [skipSpace, isSpace] using brace
    exact ⟨⟨_, rfl⟩, object_skips (fun _ _ _ => value_skips) found⟩

theorem close_eq_of_read {depth : Nat} {text rest : Text} {item : Json}
    (read : value depth ('{' :: text) = .ok (item, rest)) :
    ∃ span, text = span ++ rest ∧ close .opened text = some (span, rest) := by
  obtain ⟨-, inner, rfl, balanced⟩ := object_of_brace read
  exact ⟨inner ++ ['}'], by simp, close_balanced balanced rest⟩

end JsonReader
end ApiBlueprint
