import ApiBlueprint.Proofs.Fixture.Balance
import ApiBlueprint.Proofs.Json.Pretty

/-!
Spaces and tabs behind the line feeds of a JSON text. No token of a value reaches over a line feed,
so what is read without them is read with them, and leaves a rest that differs in them only.
-/

namespace ApiBlueprint

/-- The second text is the first with spaces and tabs put behind some of its line feeds. -/
inductive Spaced : Text → Text → Prop
  | nil : Spaced [] []
  | cons (c : Char) {text spaced : Text} (rest : Spaced text spaced) : Spaced (c :: text) (c :: spaced)
  | line {indent text spaced : Text} (blank : ∀ c ∈ indent, c = ' ' ∨ c = '\t')
      (rest : Spaced text spaced) : Spaced ('\n' :: text) ('\n' :: (indent ++ spaced))

namespace Spaced

variable {text spaced : Text}

theorem refl (text : Text) : Spaced text text := by
  induction text with
  | nil => exact nil
  | cons c text ih => exact cons c ih

theorem of_nil (widens : Spaced [] spaced) : spaced = [] := by
  cases widens
  rfl

theorem uncons {c : Char} (widens : Spaced (c :: text) spaced) :
    ∃ more, spaced = c :: more ∧ (c ≠ '\n' → Spaced text more) := by
  cases widens with
  | cons _ rest => exact ⟨_, rfl, fun _ => rest⟩
  | line blank rest => exact ⟨_, rfl, fun other => absurd rfl other⟩

theorem head_eq (widens : Spaced text spaced) : spaced.head? = text.head? := by
  cases widens <;> rfl

theorem isEmpty_eq (widens : Spaced text spaced) : spaced.isEmpty = text.isEmpty := by
  cases widens <;> rfl

theorem length_le (widens : Spaced text spaced) : text.length ≤ spaced.length := by
  induction widens with
  | nil => exact Nat.le_refl _
  | cons c rest ih => exact Nat.succ_le_succ ih
  | line blank rest ih =>
    simp only [List.length_cons, List.length_append]
    omega

theorem takeWhile_eq (widens : Spaced text spaced) (test : Char → Bool) (stops : test '\n' = false) :
    spaced.takeWhile test = text.takeWhile test := by
  induction widens with
  | nil => rfl
  | cons c rest ih => rw [List.takeWhile_cons, List.takeWhile_cons, ih]
  | line blank rest ih => simp [stops]

theorem dropWhile (widens : Spaced text spaced) (test : Char → Bool) (stops : test '\n' = false) :
    Spaced (text.dropWhile test) (spaced.dropWhile test) := by
  induction widens with
  | nil => exact nil
  | @cons c text spaced rest ih =>
    rw [List.dropWhile_cons, List.dropWhile_cons]
    split
    · exact ih
    · exact cons c rest
  | line blank rest ih =>
    rw [List.dropWhile_cons_of_neg (by simp [stops]), List.dropWhile_cons_of_neg (by simp [stops])]
    exact line blank rest

theorem skipSpace (widens : Spaced text spaced) :
    Spaced (JsonReader.skipSpace text) (JsonReader.skipSpace spaced) := by
  unfold JsonReader.skipSpace
  induction widens with
  | nil => exact nil
  | @cons c text spaced rest ih =>
    rw [List.dropWhile_cons, List.dropWhile_cons]
    split
    · exact ih
    · exact cons c rest
  | @line indent text spaced blank rest ih =>
    have space : ∀ c ∈ indent, JsonReader.isSpace c = true := by
      intro c member
      rcases blank c member with rfl | rfl <;> rfl
    rw [List.dropWhile_cons_of_pos rfl, List.dropWhile_cons_of_pos rfl,
      List.dropWhile_append_of_pos space]
    exact ih

theorem skipSpace_cons {c : Char} {tail : Text} (widens : Spaced text spaced)
    (found : JsonReader.skipSpace text = c :: tail) :
    ∃ more, JsonReader.skipSpace spaced = c :: more ∧ Spaced tail more := by
  have skipped := widens.skipSpace
  rw [found] at skipped
  obtain ⟨more, same, behind⟩ := skipped.uncons
  refine ⟨more, same, behind ?_⟩
  rintro rfl
  have solid := List.head?_dropWhile_not JsonReader.isSpace text
  rw [← JsonReader.skipSpace, found] at solid
  cases solid

end Spaced

namespace JsonReader

/-- What the first reading has, the second one has too, with the like behind it. -/
def Follows {α : Type} (first second : Except Failure (α × Text)) : Prop :=
  ∀ result rest, first = .ok (result, rest) → ∃ more, second = .ok (result, more) ∧ Spaced rest more

section Follows

variable {α β : Type}

theorem follows_failure (failure : Failure) (second : Except Failure (α × Text)) :
    Follows (.error failure) second := by
  intro result rest read
  cases read

theorem follows_ok (result : α) {rest more : Text} (widens : Spaced rest more) :
    Follows (.ok (result, rest)) (.ok (result, more)) := by
  intro other behind read
  obtain ⟨rfl, rfl⟩ := Prod.mk.inj (Except.ok.inj read)
  exact ⟨more, rfl, widens⟩

theorem follows_bind {first second : Except Failure (α × Text)}
    {next : α × Text → Except Failure (β × Text)} (before : Follows first second)
    (behind : ∀ result rest more, Spaced rest more → Follows (next (result, rest)) (next (result, more))) :
    Follows (first >>= next) (second >>= next) := by
  intro result rest read
  obtain ⟨⟨inner, tail⟩, found, finish⟩ := bind_eq_ok.mp read
  obtain ⟨more, found', widens⟩ := before inner tail found
  obtain ⟨last, done, widens'⟩ := behind inner tail more widens result rest finish
  exact ⟨last, bind_eq_ok.mpr ⟨(inner, more), found', done⟩, widens'⟩

theorem follows_map {first second : Except Failure (α × Text)} (change : α → β)
    (before : Follows first second) :
    Follows (do let (result, rest) ← first; return (change result, rest))
      (do let (result, rest) ← second; return (change result, rest)) :=
  follows_bind before fun result _ _ widens => follows_ok (change result) widens

end Follows

section Tokens

variable {text spaced : Text}

theorem word_follows {expected rest : Text} (oneLine : '\n' ∉ expected) (widens : Spaced text spaced)
    (read : word expected text = .ok rest) :
    ∃ more, word expected spaced = .ok more ∧ Spaced rest more := by
  induction expected generalizing text spaced with
  | nil =>
    obtain rfl : text = rest := by simpa [word] using read
    exact ⟨spaced, rfl, widens⟩
  | cons c expected ih =>
    cases text with
    | nil => simp [word] at read
    | cons d tail =>
      obtain ⟨more, rfl, behind⟩ := widens.uncons
      simp only [word] at read ⊢
      split at read
      · rename_i same
        subst same
        simp only [List.mem_cons, not_or] at oneLine
        rw [if_pos rfl]
        exact ih oneLine.2 (behind fun feed => oneLine.1 feed.symm) read
      · cases read

theorem hexUnit_follows (widens : Spaced text spaced) : Follows (hexUnit text) (hexUnit spaced) := by
  intro unit rest read
  unfold hexUnit at read
  split at read
  · rename_i result found
    obtain rfl : result = (unit, rest) := by simpa using read
    unfold hexUnit? at found
    split at found
    · rename_i a b c d tail
      simp only [bind, Option.bind_eq_some_iff, pure, Option.some.injEq, Prod.mk.injEq] at found
      obtain ⟨_, hexA, _, hexB, _, hexC, _, hexD, rfl, rfl⟩ := found
      have solid {e : Char} {value : Nat} (hex : hexValue? e = some value) : e ≠ '\n' := by
        rintro rfl
        cases hex
      obtain ⟨_, rfl, behindA⟩ := widens.uncons
      obtain ⟨_, rfl, behindB⟩ := (behindA (solid hexA)).uncons
      obtain ⟨_, rfl, behindC⟩ := (behindB (solid hexB)).uncons
      obtain ⟨more, rfl, behindD⟩ := (behindC (solid hexC)).uncons
      refine ⟨more, ?_, behindD (solid hexD)⟩
      simp [hexUnit, hexUnit?, hexA, hexB, hexC, hexD]
    · cases found
  · split at read <;> simp [failAt] at read

theorem lowHalf_follows (high : Nat) (widens : Spaced text spaced) :
    Follows (lowHalf high text) (lowHalf high spaced) := by
  intro value rest read
  unfold lowHalf at read
  split at read <;> try simp [failAt] at read
  rename_i tail
  obtain ⟨_, rfl, behindSlash⟩ := widens.uncons
  obtain ⟨_, rfl, behindLetter⟩ := (behindSlash (by decide)).uncons
  refine follows_bind (hexUnit_follows (behindLetter (by decide))) (fun low _ _ widens => ?_) value rest
    read
  simp only
  split
  · exact follows_ok _ widens
  · exact follows_failure _ _

theorem unicodeEscape_follows (widens : Spaced text spaced) :
    Follows (unicodeEscape text) (unicodeEscape spaced) := by
  refine follows_bind (hexUnit_follows widens) fun unit rest more widens => ?_
  simp only
  split
  · exact follows_failure _ _
  · split
    · exact lowHalf_follows unit widens
    · exact follows_ok _ widens

theorem escape_follows (widens : Spaced text spaced) : Follows (escape text) (escape spaced) := by
  cases text with
  | nil => exact follows_failure _ _
  | cons c tail =>
    obtain ⟨more, rfl, behind⟩ := widens.uncons
    simp only [escape]
    split
    · rename_i isUnicode
      exact unicodeEscape_follows (behind (by rw [isUnicode]; decide))
    · split
      · rename_i found
        refine follows_ok _ (behind ?_)
        rintro rfl
        cases found
      · exact follows_failure _ _

theorem stringStep_follows (widens : Spaced text spaced) :
    Follows (stringStep text) (stringStep spaced) := by
  cases text with
  | nil => exact follows_failure _ _
  | cons c tail =>
    obtain ⟨more, rfl, behind⟩ := widens.uncons
    simp only [stringStep]
    split
    · rename_i quote
      exact follows_ok _ (behind (by rw [quote]; decide))
    · split
      · rename_i backslash
        exact follows_map some (escape_follows (behind (by rw [backslash]; decide)))
      · split
        · exact follows_failure _ _
        · rename_i control
          refine follows_ok _ (behind ?_)
          rintro rfl
          exact control (by decide)

theorem string_of_close {rest : Text} (step : stringStep text = .ok (none, rest)) :
    string text = .ok ([], rest) := by
  rw [string]
  split <;> simp_all

theorem string_follows (widens : Spaced text spaced) : Follows (string text) (string spaced) := by
  intro value rest read
  induction length : text.length using Nat.strong_induction_on generalizing text spaced value with
  | _ count ih =>
    rcases string_cases read with ⟨step, rfl⟩ | ⟨c, behind, tail, step, found, rfl⟩
    · obtain ⟨more, step', closed⟩ := stringStep_follows widens none rest step
      exact ⟨more, string_of_close step', closed⟩
    · have shorter : behind.length < count := length ▸ string_step_length step
      obtain ⟨after, step', inner⟩ := stringStep_follows widens (some c) behind step
      obtain ⟨more, found', closed⟩ := ih behind.length shorter inner tail found rfl
      exact ⟨more, string_of_step step' found', closed⟩

theorem solid_of_isDigit {c : Char} (digit : Text.isDigit c = true) : c ≠ '\n' := by
  rintro rfl
  cases digit

theorem solid_of_isExponentMark {c : Char} (mark : isExponentMark c = true) : c ≠ '\n' := by
  rintro rfl
  cases mark

theorem startsWithDigit_eq (widens : Spaced text spaced) :
    startsWithDigit spaced = startsWithDigit text := by
  unfold startsWithDigit
  rw [widens.head_eq]

theorem digits_follow (value : Nat) {number count : Nat} {rest : Text} (widens : Spaced text spaced)
    (found : digits value text = (number, count, rest)) :
    ∃ more, digits value spaced = (number, count, more) ∧ Spaced rest more := by
  induction text generalizing value spaced count with
  | nil =>
    obtain rfl := widens.of_nil
    exact ⟨rest, found, Spaced.refl rest⟩
  | cons c tail ih =>
    obtain ⟨more, rfl, behind⟩ := widens.uncons
    simp only [digits] at found ⊢
    split at found
    · rename_i fits
      have digit : Text.isDigit c = true := by simp_all
      obtain ⟨rfl, same⟩ := Prod.mk.inj found
      obtain ⟨rfl, rfl⟩ := Prod.mk.inj same
      obtain ⟨after, found', behind'⟩ := ih _ (behind (solid_of_isDigit digit)) rfl
      exact ⟨after, by rw [if_pos fits, found'], behind'⟩
    · rename_i stops
      rw [if_neg stops]
      obtain ⟨rfl, same⟩ := Prod.mk.inj found
      obtain ⟨rfl, rfl⟩ := Prod.mk.inj same
      exact ⟨_, rfl, widens⟩

theorem exponentDigits_follow (value : Nat) {number : Option Nat} {rest : Text}
    (widens : Spaced text spaced) (found : exponentDigits value text = (number, rest)) :
    ∃ more, exponentDigits value spaced = (number, more) ∧ Spaced rest more := by
  induction text generalizing value spaced with
  | nil =>
    obtain rfl := widens.of_nil
    exact ⟨rest, found, Spaced.refl rest⟩
  | cons c tail ih =>
    obtain ⟨more, rfl, behind⟩ := widens.uncons
    simp only [exponentDigits] at found ⊢
    split at found
    · rename_i digit
      have behind := behind (solid_of_isDigit digit)
      rw [if_pos digit]
      split at found
      · rename_i fits
        rw [if_pos fits]
        exact ih _ behind found
      · rename_i large
        rw [if_neg large]
        obtain ⟨rfl, rfl⟩ := Prod.mk.inj found
        exact ⟨more, rfl, behind⟩
    · rename_i stops
      rw [if_neg stops]
      obtain ⟨rfl, rfl⟩ := Prod.mk.inj found
      exact ⟨_, rfl, widens⟩

variable {negative : Bool} {significand : Nat} {start : Int}

theorem binary_follows (widens : Spaced text spaced) :
    Follows (binary negative significand start text) (binary negative significand start spaced) := by
  unfold binary
  split
  · exact follows_ok _ widens
  · exact follows_failure _ _

def exponentBehind (negative : Bool) (significand : Nat) (start : Int) (down : Bool) (text : Text) :
    Except Failure (JsonNumber × Text) :=
  if text.isEmpty then failAt .endInValue []
  else if !startsWithDigit text then failAt .invalidNumber text
  else
    match exponentDigits 0 text with
    | (some value, rest) =>
      binary negative significand (if down then start - value else start + value) rest
    | (none, rest) =>
      if significand ≠ 0 && !down then failAt .numberOutOfRange rest 0
      else .ok (.binary ⟨negative, .zero⟩, rest.dropWhile Text.isDigit)

theorem exponent_unsigned (plus : text.head? ≠ some '+') (minus : text.head? ≠ some '-') :
    exponent negative significand start text =
      exponentBehind negative significand start false text := by
  unfold exponent
  split
  rename_i down digits signed
  split at signed
  · exact absurd rfl plus
  · exact absurd rfl minus
  · obtain ⟨rfl, rfl⟩ := Prod.mk.inj signed
    rfl

theorem exponentBehind_follows (down : Bool) (widens : Spaced text spaced) :
    Follows (exponentBehind negative significand start down text)
      (exponentBehind negative significand start down spaced) := by
  unfold exponentBehind
  rw [widens.isEmpty_eq, startsWithDigit_eq widens]
  split
  · exact follows_failure _ _
  · split
    · exact follows_failure _ _
    · obtain ⟨more, found, behind⟩ := exponentDigits_follow 0 widens rfl
      rw [found]
      generalize exponentDigits 0 text = read at behind
      obtain ⟨value, rest⟩ := read
      cases value with
      | some value => exact binary_follows behind
      | none =>
        simp only
        split
        · exact follows_failure _ _
        · exact follows_ok _ (behind.dropWhile Text.isDigit (by decide))

theorem exponent_follows (widens : Spaced text spaced) :
    Follows (exponent negative significand start text) (exponent negative significand start spaced) := by
  by_cases plus : text.head? = some '+'
  · obtain ⟨tail, rfl⟩ := List.head?_eq_some_iff.mp plus
    obtain ⟨more, rfl, behind⟩ := widens.uncons
    exact exponentBehind_follows false (behind (by decide))
  · by_cases minus : text.head? = some '-'
    · obtain ⟨tail, rfl⟩ := List.head?_eq_some_iff.mp minus
      obtain ⟨more, rfl, behind⟩ := widens.uncons
      exact exponentBehind_follows true (behind (by decide))
    · rw [exponent_unsigned plus minus, exponent_unsigned (widens.head_eq ▸ plus) (widens.head_eq ▸ minus)]
      exact exponentBehind_follows false widens

theorem afterDigits_follows (widens : Spaced text spaced) :
    Follows (afterDigits negative significand start text)
      (afterDigits negative significand start spaced) := by
  cases text with
  | nil =>
    obtain rfl := widens.of_nil
    exact binary_follows widens
  | cons c tail =>
    obtain ⟨more, rfl, behind⟩ := widens.uncons
    simp only [afterDigits]
    split
    · rename_i mark
      exact exponent_follows (behind (solid_of_isExponentMark mark))
    · exact binary_follows widens

theorem fraction_follows (widens : Spaced text spaced) :
    Follows (fraction negative significand start text) (fraction negative significand start spaced) := by
  unfold fraction
  obtain ⟨more, found, behind⟩ := digits_follow significand widens rfl
  rw [found]
  simp only [startsWithDigit_eq behind]
  split
  · exact afterDigits_follows (behind.dropWhile Text.isDigit (by decide))
  · split
    · exact follows_failure _ _
    · exact afterDigits_follows behind

theorem afterWhole_follows (widens : Spaced text spaced) :
    Follows (afterWhole negative significand text) (afterWhole negative significand spaced) := by
  unfold afterWhole
  rw [startsWithDigit_eq widens, widens.takeWhile_eq Text.isDigit (by decide)]
  split
  · have behind := widens.dropWhile Text.isDigit (by decide)
    generalize text.dropWhile Text.isDigit = rest at behind
    generalize spaced.dropWhile Text.isDigit = more at behind
    simp only
    cases behind with
    | nil => exact afterDigits_follows Spaced.nil
    | @cons c tail spacedTail behind =>
      by_cases point : c = '.'
      · subst point
        exact fraction_follows behind
      · split
        · simp_all
        · split
          · simp_all
          · exact afterDigits_follows (Spaced.cons c behind)
    | line blank behind => exact afterDigits_follows (Spaced.line blank behind)
  · cases text with
    | nil =>
      obtain rfl := widens.of_nil
      exact follows_ok _ widens
    | cons c tail =>
      obtain ⟨more, rfl, behind⟩ := widens.uncons
      simp only
      split
      · rename_i point
        exact fraction_follows (behind (by rw [point]; decide))
      · split
        · rename_i mark
          exact exponent_follows (behind (solid_of_isExponentMark mark))
        · exact follows_ok _ widens

theorem unsigned_follows (widens : Spaced text spaced) :
    Follows (unsigned negative text) (unsigned negative spaced) := by
  cases text with
  | nil => exact follows_failure _ _
  | cons c tail =>
    obtain ⟨more, rfl, behind⟩ := widens.uncons
    simp only [unsigned]
    split
    · rename_i zero
      have behind := behind (by rw [zero]; decide)
      rw [startsWithDigit_eq behind]
      split
      · exact follows_failure _ _
      · exact afterWhole_follows behind
    · split
      · rename_i digit
        obtain ⟨after, found, behind'⟩ :=
          digits_follow (Text.digitValue c) (behind (solid_of_isDigit digit)) rfl
        rw [found]
        exact afterWhole_follows behind'
      · exact follows_failure _ _

theorem keyword_follows {expected : Text} (json : Json) (oneLine : '\n' ∉ expected)
    (widens : Spaced text spaced) :
    Follows (do return (json, ← word expected text)) (do return (json, ← word expected spaced)) := by
  intro item rest read
  obtain ⟨behind, found, finish⟩ := bind_eq_ok.mp read
  obtain ⟨rfl, rfl⟩ := Prod.mk.inj (pure_eq_ok.mp finish)
  obtain ⟨more, found', widens'⟩ := word_follows oneLine widens found
  exact ⟨more, bind_eq_ok.mpr ⟨more, found', rfl⟩, widens'⟩

theorem scalar_follows (widens : Spaced text spaced) : Follows (scalar text) (scalar spaced) := by
  cases text with
  | nil => exact follows_failure _ _
  | cons c tail =>
    obtain ⟨more, rfl, behind⟩ := widens.uncons
    simp only [scalar]
    split
    · rename_i quote
      exact follows_map Json.string (string_follows (behind (by rw [quote]; decide)))
    split
    · rename_i minus
      exact follows_map Json.number (unsigned_follows (behind (by rw [minus]; decide)))
    split
    · exact follows_map Json.number (unsigned_follows widens)
    split
    · rename_i letter
      exact keyword_follows _ (by decide) (behind (by rw [letter]; decide))
    split
    · rename_i letter
      exact keyword_follows _ (by decide) (behind (by rw [letter]; decide))
    split
    · rename_i letter
      exact keyword_follows _ (by decide) (behind (by rw [letter]; decide))
    · exact follows_failure _ _

end Tokens

theorem colon_cases {text rest : Text} (read : colon text = .ok rest) : skipSpace text = ':' :: rest := by
  unfold colon at read
  split at read
  · cases read
  · rename_i found
    obtain rfl := Except.ok.inj read
    exact found
  · cases read

theorem value_eq_scalar {depth : Nat} {text rest : Text} {item : Json}
    (found : scalar (skipSpace text) = .ok (item, rest)) : value depth text = .ok (item, rest) := by
  unfold value
  split
  · rename_i bracket
    rw [bracket] at found
    cases found
  · rename_i brace
    rw [brace] at found
    cases found
  · rename_i bracket
    rw [bracket] at found
    cases found
  · rename_i brace
    rw [brace] at found
    cases found
  · exact found

section Containers

variable {value : Text → Except Failure (Json × Text)}
  (follows : ∀ text spaced, Spaced text spaced → Follows (value text) (value spaced))
  {text spaced : Text}

include follows

/-- By induction on the fuel, of which the longer text has more. -/
theorem items_follows {fuel fuel' : Nat} (enough : fuel ≤ fuel') (widens : Spaced text spaced) :
    Follows (items value fuel text) (items value fuel' spaced) := by
  induction fuel generalizing text spaced fuel' with
  | zero => exact follows_failure _ _
  | succ fuel ih =>
    obtain ⟨fuel', rfl⟩ := Nat.exists_eq_succ_of_ne_zero (Nat.ne_of_gt (Nat.zero_lt_of_lt enough))
    intro list rest read
    obtain ⟨⟨item, behind⟩, found, finish⟩ := bind_eq_ok.mp read
    obtain ⟨behind', found', widens⟩ := follows text spaced widens item behind found
    simp only at finish
    split at finish
    · cases finish
    · rename_i tail bracket
      obtain ⟨rfl, rfl⟩ := Prod.mk.inj (Except.ok.inj finish)
      obtain ⟨more, bracket', widens⟩ := widens.skipSpace_cons bracket
      exact ⟨more, items_last found' bracket', widens⟩
    · rename_i tail comma
      obtain ⟨tail', comma', widens⟩ := widens.skipSpace_cons comma
      split at finish
      · cases finish
      · cases finish
      · rename_i notEnd notBracket
        obtain ⟨⟨others, after⟩, more, done⟩ := bind_eq_ok.mp finish
        obtain ⟨rfl, rfl⟩ := Prod.mk.inj (pure_eq_ok.mp done)
        cases start : skipSpace tail with
        | nil => exact absurd start notEnd
        | cons c next =>
          obtain ⟨next', start', widens⟩ := widens.skipSpace_cons start
          have goesOn : c ≠ ']' := by
            rintro rfl
            exact notBracket next start
          rw [start] at more
          obtain ⟨last, more', widens⟩ :=
            ih (Nat.le_of_succ_le_succ enough) (Spaced.cons c widens) others after more
          exact ⟨last, items_next found' comma' start' goesOn more', widens⟩
    · cases finish

theorem members_follows {fuel fuel' : Nat} (enough : fuel ≤ fuel') (widens : Spaced text spaced) :
    Follows (members value fuel ('"' :: text)) (members value fuel' ('"' :: spaced)) := by
  induction fuel generalizing text spaced fuel' with
  | zero => exact follows_failure _ _
  | succ fuel ih =>
    obtain ⟨fuel', rfl⟩ := Nat.exists_eq_succ_of_ne_zero (Nat.ne_of_gt (Nat.zero_lt_of_lt enough))
    intro list rest read
    obtain ⟨⟨key, behindKey⟩, name, read⟩ := bind_eq_ok.mp read
    obtain ⟨behindKey', name', widens⟩ := string_follows widens key behindKey name
    obtain ⟨behindColon, colon, read⟩ := bind_eq_ok.mp read
    obtain ⟨behindColon', colon', widens⟩ := widens.skipSpace_cons (colon_cases colon)
    obtain ⟨⟨item, behind⟩, found, finish⟩ := bind_eq_ok.mp read
    obtain ⟨behind', found', widens⟩ := follows behindColon behindColon' widens item behind found
    simp only at finish
    split at finish
    · cases finish
    · rename_i tail brace
      obtain ⟨rfl, rfl⟩ := Prod.mk.inj (Except.ok.inj finish)
      obtain ⟨more, brace', widens⟩ := widens.skipSpace_cons brace
      exact ⟨more, members_last name' colon' found' brace', widens⟩
    · rename_i tail comma
      obtain ⟨tail', comma', widens⟩ := widens.skipSpace_cons comma
      split at finish
      · cases finish
      · rename_i next quote
        obtain ⟨next', quote', widens⟩ := widens.skipSpace_cons quote
        obtain ⟨⟨others, after⟩, more, done⟩ := bind_eq_ok.mp finish
        obtain ⟨rfl, rfl⟩ := Prod.mk.inj (pure_eq_ok.mp done)
        obtain ⟨last, more', widens⟩ :=
          ih (Nat.le_of_succ_le_succ enough) widens others after more
        exact ⟨last, members_next name' colon' found' comma' quote' more', widens⟩
      · cases finish
      · cases finish
    · cases finish

end Containers

section Brackets

variable {depth : Nat}
  (follows : ∀ text spaced, Spaced text spaced → Follows (value depth text) (value depth spaced))
  {text spaced : Text}

include follows

theorem array_follows (widens : Spaced text spaced) :
    Follows (array (value depth) text) (array (value depth) spaced) := by
  intro list rest read
  unfold array at read
  split at read
  · cases read
  · rename_i tail bracket
    obtain ⟨rfl, rfl⟩ := Prod.mk.inj (Except.ok.inj read)
    obtain ⟨more, bracket', widens⟩ := widens.skipSpace_cons bracket
    exact ⟨more, by simp only [array, bracket'], widens⟩
  · rename_i notEnd notBracket
    cases start : skipSpace text with
    | nil => exact absurd start notEnd
    | cons c next =>
      obtain ⟨next', start', widens⟩ := widens.skipSpace_cons start
      have goesOn : c ≠ ']' := by
        rintro rfl
        exact notBracket next start
      rw [start] at read
      have widens := Spaced.cons c widens
      obtain ⟨more, found, widens⟩ := items_follows follows widens.length_le widens list rest read
      exact ⟨more, array_items start' goesOn found, widens⟩

theorem object_follows (widens : Spaced text spaced) :
    Follows (object (value depth) text) (object (value depth) spaced) := by
  intro list rest read
  unfold object at read
  split at read
  · cases read
  · rename_i tail brace
    obtain ⟨rfl, rfl⟩ := Prod.mk.inj (Except.ok.inj read)
    obtain ⟨more, brace', widens⟩ := widens.skipSpace_cons brace
    exact ⟨more, by simp only [object, brace'], widens⟩
  · rename_i tail quote
    obtain ⟨tail', quote', widens⟩ := widens.skipSpace_cons quote
    obtain ⟨more, found, widens⟩ :=
      members_follows follows (Nat.succ_le_succ widens.length_le) widens list rest read
    exact ⟨more, object_members quote' found, widens⟩
  · cases read

end Brackets

theorem value_follows {depth : Nat} {text spaced : Text} (widens : Spaced text spaced) :
    Follows (value depth text) (value depth spaced) := by
  induction depth using Nat.strong_induction_on generalizing text spaced with
  | _ depth ih =>
    intro item rest read
    rcases value_cases read with leaf | ⟨less, tail, list, rfl, bracket, found, rfl⟩ |
      ⟨less, tail, list, rfl, brace, found, rfl⟩
    · obtain ⟨more, leaf', behind⟩ := scalar_follows widens.skipSpace item rest leaf
      exact ⟨more, value_eq_scalar leaf', behind⟩
    · obtain ⟨tail', bracket', inner⟩ := widens.skipSpace_cons bracket
      obtain ⟨more, found', behind⟩ :=
        array_follows (fun _ _ => ih less (Nat.lt_succ_self less)) inner list rest found
      refine ⟨more, ?_, behind⟩
      rw [← value_skipSpace, bracket']
      exact value_array found'
    · obtain ⟨tail', brace', inner⟩ := widens.skipSpace_cons brace
      obtain ⟨more, found', behind⟩ :=
        object_follows (fun _ _ => ih less (Nat.lt_succ_self less)) inner list rest found
      refine ⟨more, ?_, behind⟩
      rw [← value_skipSpace, brace']
      exact value_object found'

end JsonReader
end ApiBlueprint
