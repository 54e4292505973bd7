import Promotions.Text

/-!
# Instants and dates

Time is kept as `Instant`s: naive UTC readings with microseconds, counted from the start of 1970.
`Date.ofDayNumber` and `Date.dayNumber` pass between day counts and dates of the Gregorian calendar,
`Instant.iso` writes the text that answers and stored rows show, and a `Timestamp` is a reading that
may still carry an offset from UTC.
-/

namespace Promotions

/-- A date of the Gregorian calendar. -/
structure Date where
  year : Int
  month : Int
  day : Int
  deriving DecidableEq, Repr, Inhabited

namespace Date

/-- A year with a 29th of February. -/
def isLeapYear (year : Int) : Bool :=
  year % 4 = 0 && (year % 100 != 0 || year % 400 = 0)

/-- The number of days of a month. -/
def daysIn (year month : Int) : Int :=
  if month = 2 then (if isLeapYear year then 29 else 28)
  else if month = 4 ∨ month = 6 ∨ month = 9 ∨ month = 11 then 30
  else 31

/-- Dates of the years 1 to 9999. -/
def isValid (date : Date) : Bool :=
  1 ≤ date.year && date.year ≤ 9999 && 1 ≤ date.month && date.month ≤ 12 &&
    1 ≤ date.day && date.day ≤ daysIn date.year date.month

/-- The number of days from 1970-01-01. Years are counted from March, so that a leap day ends its
year, and in eras of 400 years, which all have 146097 days. -/
def dayNumber (date : Date) : Int :=
  let year := if date.month ≤ 2 then date.year - 1 else date.year
  let month := if date.month ≤ 2 then date.month + 9 else date.month - 3
  let era := year / 400
  let yearOfEra := year - era * 400
  let dayOfYear := (153 * month + 2) / 5 + date.day - 1
  let dayOfEra := yearOfEra * 365 + yearOfEra / 4 - yearOfEra / 100 + dayOfYear
  era * 146097 + dayOfEra - 719468

/-- The date of a day count from 1970-01-01. -/
def ofDayNumber (count : Int) : Date :=
  let shifted := count + 719468
  let era := shifted / 146097
  let dayOfEra := shifted - era * 146097
  let yearOfEra := (dayOfEra - dayOfEra / 1460 + dayOfEra / 36524 - dayOfEra / 146096) / 365
  let dayOfYear := dayOfEra - (365 * yearOfEra + yearOfEra / 4 - yearOfEra / 100)
  let month := (5 * dayOfYear + 2) / 153
  let day := dayOfYear - (153 * month + 2) / 5 + 1
  let year := yearOfEra + era * 400
  if month < 10 then ⟨year, month + 3, day⟩ else ⟨year + 1, month - 9, day⟩

/-- The day of the week of a day count: Sunday is 0. The first of January 1970 was a Thursday. -/
def weekday (count : Int) : Int := (count + 4) % 7

end Date

/-- A naive UTC reading: microseconds from the start of 1970. -/
structure Instant where
  micros : Int
  deriving DecidableEq, Repr, Inhabited

namespace Instant

instance : LE Instant := ⟨fun a b => a.micros ≤ b.micros⟩
instance : LT Instant := ⟨fun a b => a.micros < b.micros⟩
instance (a b : Instant) : Decidable (a ≤ b) := inferInstanceAs (Decidable (a.micros ≤ b.micros))
instance (a b : Instant) : Decidable (a < b) := inferInstanceAs (Decidable (a.micros < b.micros))

theorem le_refl (a : Instant) : a ≤ a := Int.le_refl a.micros

theorem le_trans {a b c : Instant} (h : a ≤ b) (h' : b ≤ c) : a ≤ c :=
  Int.le_trans (b := b.micros) h h'

/-- Microseconds of a second. -/
def second : Int := 1000000

/-- Microseconds of a minute. -/
def minute : Int := 60000000

/-- Microseconds of an hour. -/
def hour : Int := 3600000000

/-- Microseconds of a day. -/
def day : Int := 86400000000

/-- The start of the year 1. -/
def first : Instant := ⟨-62135596800000000⟩

/-- The last microsecond of the year 9999. -/
def last : Instant := ⟨253402300799999999⟩

/-- Instants of the years 1 to 9999 can be stored. -/
def isStorable (t : Instant) : Bool := first ≤ t && t ≤ last

/-- The reading with its fraction of a second cut off. -/
def wholeSecond (t : Instant) : Instant := ⟨t.micros / second * second⟩

/-- The reading a number of microseconds later. -/
def later (t : Instant) (micros : Int) : Instant := ⟨t.micros + micros⟩

/-- The start of a day given by its count. -/
def ofDayNumber (count : Int) : Instant := ⟨count * day⟩

/-- The day count of a reading. -/
def dayNumber (t : Instant) : Int := t.micros / day

/-- The year of a reading. -/
def year (t : Instant) : Int := (Date.ofDayNumber t.dayNumber).year

/-- A date as `YYYY-MM-DD`. -/
def dateText (date : Date) : String :=
  Text.padded 4 date.year.toNat ++ "-" ++ Text.padded 2 date.month.toNat ++ "-" ++
    Text.padded 2 date.day.toNat

/-- The date of a reading, as `YYYY-MM-DD`. -/
def dayText (t : Instant) : String := dateText (Date.ofDayNumber t.dayNumber)

/-- A reading as `YYYY-MM-DDTHH:MM:SS`, followed by six digits of a second unless they are zero. -/
def iso (t : Instant) : String :=
  let ofDay := (t.micros % day).toNat
  let seconds := ofDay / 1000000
  let fraction := ofDay % 1000000
  t.dayText ++ "T" ++ Text.padded 2 (seconds / 3600) ++ ":" ++
    Text.padded 2 (seconds / 60 % 60) ++ ":" ++ Text.padded 2 (seconds % 60) ++
    (if fraction = 0 then "" else "." ++ Text.padded 6 fraction)

end Instant

/-- A reading of a clock, and its offset from UTC in minutes if it carries one. -/
structure Timestamp where
  reading : Instant
  offset : Option Int := none
  deriving DecidableEq, Repr, Inhabited

namespace Timestamp

/-- A reading moved to UTC by an offset in minutes. -/
def shifted (reading : Instant) (minutes : Int) : Instant :=
  reading.later (-(minutes * Instant.minute))

/-- The UTC reading of a timestamp; one without an offset is UTC already. There is none outside the
years 1 to 9999. -/
def utc? (t : Timestamp) : Option Instant :=
  match t.offset with
  | none => some t.reading
  | some minutes =>
    let utc := shifted t.reading minutes
    if utc.isStorable then some utc else none

/-- Whether a timestamp is not after another one. If just one of them carries an offset, they cannot
be compared. -/
def notAfter? (t u : Timestamp) : Option Bool :=
  match t.offset, u.offset with
  | none, none => some (t.reading ≤ u.reading)
  | some here, some there => some (shifted t.reading here ≤ shifted u.reading there)
  | _, _ => none

/-- An offset as `+HH:MM` or `-HH:MM`. -/
def offsetText (minutes : Int) : String :=
  let size := minutes.natAbs
  (if minutes < 0 then "-" else "+") ++ Text.padded 2 (size / 60) ++ ":" ++
    Text.padded 2 (size % 60)

/-- The reading followed by its offset, if any. -/
def iso (t : Timestamp) : String :=
  t.reading.iso ++ (match t.offset with
    | some minutes => offsetText minutes
    | none => "")

end Timestamp

end Promotions
