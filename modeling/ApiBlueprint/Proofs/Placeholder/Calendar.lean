import ApiBlueprint.Placeholder.Calendar
import Mathlib.Tactic.IntervalCases

/-!
The Gregorian calendar by its months and leap years, and instants by the seconds before them. Every
number of seconds is that of a valid instant, the one that it is taken for.
-/

namespace ApiBlueprint
namespace Instant

def IsLeap (year : Nat) : Prop := year % 4 = 0 ∧ (year % 100 ≠ 0 ∨ year % 400 = 0)

instance (year : Nat) : Decidable (IsLeap year) := inferInstanceAs (Decidable (_ ∧ _))

def daysInMonth (year month : Nat) : Nat :=
  if month = 2 then if IsLeap year then 29 else 28
  else if month ∈ [4, 6, 9, 11] then 30
  else 31

def daysBeforeMonth (year : Nat) : Nat → Nat
  | 0 | 1 => 0
  | month + 2 => daysBeforeMonth year (month + 1) + daysInMonth year (month + 1)

def daysInYear (year : Nat) : Nat := daysBeforeMonth year 13

def daysBeforeYear : Nat → Nat
  | 0 => 0
  | year + 1 => daysBeforeYear year + daysInYear year

structure IsValid (instant : Instant) : Prop where
  month : 1 ≤ instant.month ∧ instant.month ≤ 12
  day : 1 ≤ instant.day ∧ instant.day ≤ daysInMonth instant.year instant.month
  hour : instant.hour < 24
  minute : instant.minute < 60
  second : instant.second < 60

def daysBefore (instant : Instant) : Nat :=
  daysBeforeYear instant.year + daysBeforeMonth instant.year instant.month + (instant.day - 1)

def secondsBefore (instant : Instant) : Nat :=
  instant.daysBefore * 86400 + instant.hour * 3600 + instant.minute * 60 + instant.second

theorem daysInYear_eq (year : Nat) : daysInYear year = if IsLeap year then 366 else 365 := by
  by_cases leap : IsLeap year <;> simp [daysInYear, daysBeforeMonth, daysInMonth, leap]

theorem daysBeforeYear_succ (year : Nat) :
    daysBeforeYear (year + 1) = 365 * year + year / 4 - year / 100 + year / 400 + 366 := by
  induction year with
  | zero => rfl
  | succ year ih =>
    rw [daysBeforeYear, ih, daysInYear_eq]
    by_cases leap : IsLeap (year + 1)
    · rw [if_pos leap]
      unfold IsLeap at leap
      omega
    · rw [if_neg leap]
      unfold IsLeap at leap
      omega

/-- The months from March on, of which 306 days are left in every year. -/
theorem daysBeforeMonth_from_march (year : Nat) {month : Nat} (small : month < 10) :
    daysBeforeMonth year (month + 3) + 306 = daysInYear year + (153 * month + 2) / 5 ∧
      daysInMonth year (month + 3) + (153 * month + 2) / 5 = (153 * (month + 1) + 2) / 5 := by
  rw [daysInYear_eq]
  by_cases leap : IsLeap year
  · interval_cases month <;> simp [daysBeforeMonth, daysInMonth, leap]
  · interval_cases month <;> simp [daysBeforeMonth, daysInMonth, leap]

/-- A day counted by the cycles of the calendar from 1 March of the year 0: eras of 400 years, centuries,
spans of four years, and years. Leap days come last in a year, so the last century of an era and the
last span of a century are those that differ. -/
structure CycleDay where
  era : Nat
  century : Nat
  span : Nat
  year : Nat
  day : Nat

namespace CycleDay

def number (date : CycleDay) : Nat :=
  146097 * date.era + 36524 * date.century + 1461 * date.span + 365 * date.year + date.day

def startYear (date : CycleDay) : Nat := 400 * date.era + 100 * date.century + 4 * date.span + date.year

structure IsValid (date : CycleDay) : Prop where
  century : date.century < 4
  span : date.span < 25
  year : date.year < 4
  day : date.day < 365 ∨ date.day = 365 ∧ date.year = 3 ∧ (date.span < 24 ∨ date.century = 3)

theorem exists_of_number (days : Nat) : ∃ date : CycleDay, date.IsValid ∧ date.number = days := by
  obtain ⟨era, inEra, eras, eraEnds⟩ : ∃ era inEra, days = 146097 * era + inEra ∧ inEra < 146097 :=
    ⟨days / 146097, days % 146097, by omega, by omega⟩
  obtain ⟨century, inCentury, centuries, centuryEnds, isCentury⟩ : ∃ century inCentury,
      inEra = 36524 * century + inCentury ∧ (inCentury < 36524 ∨ inCentury = 36524 ∧ century = 3) ∧
        century < 4 :=
    ⟨min 3 (inEra / 36524), inEra - 36524 * min 3 (inEra / 36524), by omega, by omega, by omega⟩
  obtain ⟨span, inSpan, spans, spanEnds⟩ : ∃ span inSpan, inCentury = 1461 * span + inSpan ∧ inSpan < 1461 :=
    ⟨inCentury / 1461, inCentury % 1461, by omega, by omega⟩
  obtain ⟨year, day, years, yearEnds, isYear⟩ : ∃ year day,
      inSpan = 365 * year + day ∧ (day < 365 ∨ day = 365 ∧ year = 3) ∧ year < 4 :=
    ⟨min 3 (inSpan / 365), inSpan - 365 * min 3 (inSpan / 365), by omega, by omega, by omega⟩
  refine ⟨⟨era, century, span, year, day⟩, ⟨isCentury, ?_, isYear, ?_⟩, ?_⟩
  · simp only
    omega
  · simp only
    omega
  · simp only [number]
    omega

variable {date : CycleDay}

theorem daysBeforeYear_startYear (valid : date.IsValid) :
    daysBeforeYear (date.startYear + 1) + date.day = date.number + 366 := by
  obtain ⟨century, span, year, -⟩ := valid
  rw [daysBeforeYear_succ]
  unfold startYear number
  omega

theorem isLeap_of_last (valid : date.IsValid) (last : date.day = 365) : IsLeap (date.startYear + 1) := by
  obtain ⟨century, span, year, day⟩ := valid
  unfold IsLeap startYear
  omega

theorem number_div_mod (valid : date.IsValid) : date.number / 146097 = date.era ∧
    date.number % 146097 = 36524 * date.century + 1461 * date.span + 365 * date.year + date.day := by
  obtain ⟨century, span, year, day⟩ := valid
  unfold number
  omega

/-- The year within an era as its days tell when those that leap days add are left out. -/
theorem yearOfEra_eq (valid : date.IsValid) {inEra : Nat} (days : inEra = date.number % 146097) :
    (inEra - inEra / 1460 + inEra / 36524 - inEra / 146096) / 365 =
      100 * date.century + 4 * date.span + date.year := by
  rw [(number_div_mod valid).2] at days
  obtain ⟨century, span, year, day⟩ := valid
  have spans : inEra / 1460 = 25 * date.century + date.span +
      (24 * date.century + date.span + 365 * date.year + date.day) / 1460 := by
    omega
  have centuries : inEra / 36524 =
      date.century + (1461 * date.span + 365 * date.year + date.day) / 36524 := by
    omega
  have last : inEra / 146096 = (1461 * date.span + 365 * date.year + date.day) / 36524 := by
    omega
  omega

def months (date : CycleDay) : Nat := (5 * date.day + 2) / 153

theorem months_bounds (valid : date.IsValid) : date.months < 12 ∧ (153 * date.months + 2) / 5 ≤ date.day ∧
    date.day < (153 * (date.months + 1) + 2) / 5 := by
  have day := valid.day
  unfold months
  omega

end CycleDay

variable {date : CycleDay} {days : Nat}

/-- A year of the calendar starts in the tenth month after March. -/
theorem civil_eq (valid : date.IsValid) (number : days + 719468 = date.number) :
    civil days =
      (if date.months < 10 then date.startYear else date.startYear + 1,
        if date.months < 10 then date.months + 3 else date.months - 9,
        date.day - (153 * date.months + 2) / 5 + 1) := by
  obtain ⟨era, inEra⟩ := CycleDay.number_div_mod valid
  have yearOfEra := CycleDay.yearOfEra_eq valid rfl
  have leapDays : (100 * date.century + 4 * date.span + date.year) / 4 -
      (100 * date.century + 4 * date.span + date.year) / 100 = 24 * date.century + date.span := by
    obtain ⟨century, span, year, -⟩ := valid
    omega
  have day : date.number % 146097 - (365 * (100 * date.century + 4 * date.span + date.year) +
      (100 * date.century + 4 * date.span + date.year) / 4 -
      (100 * date.century + 4 * date.span + date.year) / 100) = date.day := by
    rw [inEra]
    clear yearOfEra
    omega
  have startYear : 100 * date.century + 4 * date.span + date.year + date.era * 400 = date.startYear := by
    unfold CycleDay.startYear
    omega
  have months : (5 * date.day + 2) / 153 = date.months := rfl
  have year := (CycleDay.months_bounds valid).1
  unfold civil
  simp only [number, yearOfEra, era, day, startYear, months]
  by_cases early : date.months < 10
  · have spring : ¬date.months + 3 ≤ 2 := by omega
    simp only [if_pos early, if_neg spring]
  · have winter : date.months - 9 ≤ 2 := by omega
    simp only [if_neg early, if_pos winter]

/-- The date of a day number is one of the calendar, and so many days come before it. -/
theorem civil_exact (days : Nat) :
    let date := civil days
    (1 ≤ date.2.1 ∧ date.2.1 ≤ 12) ∧ (1 ≤ date.2.2 ∧ date.2.2 ≤ daysInMonth date.1 date.2.1) ∧
      daysBeforeYear date.1 + daysBeforeMonth date.1 date.2.1 + (date.2.2 - 1) = days + 719528 := by
  obtain ⟨date, valid, number⟩ := CycleDay.exists_of_number (days + 719468)
  obtain ⟨twelve, begins, ends⟩ := CycleDay.months_bounds valid
  have before := CycleDay.daysBeforeYear_startYear valid
  rw [civil_eq valid number.symm]
  by_cases early : date.months < 10
  · obtain ⟨inYear, inMonth⟩ := daysBeforeMonth_from_march date.startYear early
    rw [daysBeforeYear] at before
    simp only [if_pos early]
    exact ⟨by omega, by omega, by omega⟩
  · simp only [if_neg early]
    obtain january | february : date.months = 10 ∨ date.months = 11 := by omega
    · have inMonth : daysInMonth (date.startYear + 1) 1 = 31 := rfl
      have inYear : daysBeforeMonth (date.startYear + 1) 1 = 0 := rfl
      rw [january] at begins ends ⊢
      rw [inMonth, inYear]
      omega
    · have day := valid.day
      have inMonth : date.day < 365 ∧ 28 ≤ daysInMonth (date.startYear + 1) 2 ∨
          daysInMonth (date.startYear + 1) 2 = 29 := by
        by_cases leap : IsLeap (date.startYear + 1)
        · exact Or.inr (by simp [daysInMonth, leap])
        · have notLast := mt (CycleDay.isLeap_of_last valid) leap
          exact Or.inl ⟨by omega, by simp [daysInMonth, leap]⟩
      have inYear : daysBeforeMonth (date.startYear + 1) 2 = 31 := rfl
      rw [february] at begins ends ⊢
      simp only [Nat.reduceSub]
      rw [inYear]
      omega

theorem ofSeconds_isValid (seconds : Nat) : (ofSeconds seconds).IsValid := by
  obtain ⟨month, day, -⟩ := civil_exact (seconds / 86400)
  refine ⟨month, day, ?_, Nat.mod_lt _ (by decide), Nat.mod_lt _ (by decide)⟩
  change seconds % 86400 / 3600 < 24
  omega

theorem secondsBefore_ofSeconds (seconds : Nat) :
    (ofSeconds seconds).secondsBefore = (⟨1970, 1, 1, 0, 0, 0⟩ : Instant).secondsBefore + seconds := by
  obtain ⟨-, -, days⟩ := civil_exact (seconds / 86400)
  have before : (ofSeconds seconds).daysBefore = seconds / 86400 + 719528 := days
  have hour : (ofSeconds seconds).hour = seconds % 86400 / 3600 := rfl
  have minute : (ofSeconds seconds).minute = seconds % 86400 / 60 % 60 := rfl
  have second : (ofSeconds seconds).second = seconds % 86400 % 60 := rfl
  have epoch : (⟨1970, 1, 1, 0, 0, 0⟩ : Instant).secondsBefore = 719528 * 86400 := by
    simp [secondsBefore, daysBefore, daysBeforeYear_succ 1969, daysBeforeMonth]
  rw [epoch, secondsBefore, before, hour, minute, second]
  omega

end Instant
end ApiBlueprint
