import ApiBlueprint.Text.Basic

/-! Instants of the Gregorian calendar, counted in seconds from the start of 1970. -/

namespace ApiBlueprint

structure Instant where
  year : Nat
  month : Nat
  day : Nat
  hour : Nat
  minute : Nat
  second : Nat
  deriving DecidableEq, Repr

namespace Instant

/-- Year, month and day of a day number. Years start in March, so that a leap day comes last. -/
def civil (days : Nat) : Nat × Nat × Nat :=
  let shifted := days + 719468
  let era := shifted / 146097
  let dayOfEra := shifted % 146097
  let yearOfEra := (dayOfEra - dayOfEra / 1460 + dayOfEra / 36524 - dayOfEra / 146096) / 365
  let dayOfYear := dayOfEra - (365 * yearOfEra + yearOfEra / 4 - yearOfEra / 100)
  let shiftedMonth := (5 * dayOfYear + 2) / 153
  let day := dayOfYear - (153 * shiftedMonth + 2) / 5 + 1
  let month := if shiftedMonth < 10 then shiftedMonth + 3 else shiftedMonth - 9
  let year := yearOfEra + era * 400
  (if month ≤ 2 then year + 1 else year, month, day)

def ofSeconds (seconds : Nat) : Instant :=
  let (year, month, day) := civil (seconds / 86400)
  let rest := seconds % 86400
  ⟨year, month, day, rest / 3600, rest / 60 % 60, rest % 60⟩

/-- The last second of the year 262142; no later instant is represented. -/
def latest : Nat := 8210266876799

def ofTimestamp? (seconds : Nat) : Option Instant :=
  if seconds ≤ latest then some (ofSeconds seconds) else none

def padded (width n : Nat) : Text :=
  let digits := Text.ofNat n
  List.replicate (width - digits.length) '0' ++ digits

def render (instant : Instant) : Text :=
  padded 4 instant.year ++ '-' :: padded 2 instant.month ++ '-' :: padded 2 instant.day ++
    'T' :: padded 2 instant.hour ++ ':' :: padded 2 instant.minute ++
    ':' :: padded 2 instant.second ++ ['Z']

end Instant
end ApiBlueprint
