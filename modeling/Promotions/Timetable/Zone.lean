import Promotions.Calendar

/-!
# Time zones

A zone has a standard offset from UTC and, in some places, a summer offset one hour ahead of it.
The rule of a summer says at which UTC instants of a year it begins and ends.
-/

namespace Promotions

/-- When clocks are put one hour forward. -/
inductive SummerRule where
  /-- Never. -/
  | none
  /-- From the last Sunday of March to the last Sunday of October, at 01:00 UTC. -/
  | european
  /-- From the second Sunday of March to the first Sunday of November, at 02:00 of the local
  clock. -/
  | american
  deriving DecidableEq, Repr

/-- A time zone; its offset is in minutes. -/
structure Zone where
  name : String
  standard : Int
  summer : SummerRule := .none
  deriving DecidableEq, Repr

namespace Zone

/-- Coordinated universal time. -/
def utc : Zone := ⟨"UTC", 0, .none⟩

/-- The known zones. -/
def known : List Zone :=
  [utc, ⟨"Asia/Seoul", 540, .none⟩, ⟨"Asia/Tokyo", 540, .none⟩, ⟨"Asia/Kolkata", 330, .none⟩,
    ⟨"Europe/Paris", 60, .european⟩, ⟨"America/New_York", -300, .american⟩]

/-- The zone of a name; no name means UTC. -/
def find? (name : String) : Option Zone :=
  if name = "" then some utc else known.find? (·.name = name)

/-- The day count of the first Sunday on or after a date. -/
def sundayFrom (date : Date) : Int :=
  let day := date.dayNumber
  day + (7 - Date.weekday day) % 7

/-- A time of day in UTC, in minutes, on a day given by its count. -/
def onDay (day minute : Int) : Instant := (Instant.ofDayNumber day).later (minute * Instant.minute)

/-- The instants at which summer time begins and ends in a year. -/
def summerTime? (zone : Zone) (year : Int) : Option (Instant × Instant) :=
  match zone.summer with
  | .none => none
  | .european =>
    some (onDay (sundayFrom ⟨year, 3, 25⟩) 60, onDay (sundayFrom ⟨year, 10, 25⟩) 60)
  | .american =>
    some (onDay (sundayFrom ⟨year, 3, 8⟩) (120 - zone.standard),
      onDay (sundayFrom ⟨year, 11, 1⟩) (60 - zone.standard))

/-- Summer time holds at a UTC instant. -/
def isSummer (zone : Zone) (t : Instant) : Bool :=
  (zone.summerTime? t.year).any fun (start, stop) => start ≤ t && t < stop

/-- The offset from UTC at an instant, in minutes. -/
def offsetAt (zone : Zone) (t : Instant) : Int :=
  if zone.isSummer t then zone.standard + 60 else zone.standard

/-- The reading of the zone's clock at an instant. -/
def toLocal (zone : Zone) (t : Instant) : Instant := t.later (zone.offsetAt t * Instant.minute)

/-- The instant at which a clock that keeps standard time shows a reading. -/
def standardOf (zone : Zone) (reading : Instant) : Instant :=
  reading.later (-(zone.standard * Instant.minute))

/-- The instant at which the clock is put forward over a reading, if it never shows it. -/
def skipping? (zone : Zone) (reading : Instant) : Option Instant :=
  let standard := zone.standardOf reading
  (zone.summerTime? standard.year).bind fun (start, _) =>
    if start ≤ standard && standard < start.later Instant.hour then some start else none

/-- The first instant after a base at which the clock shows a reading or, if it never does, the
instant at which it is put forward over it. A reading of the hour before the clock is put back is
shown twice, first in summer time. -/
def nextShowing (zone : Zone) (base reading : Instant) : Instant :=
  match zone.skipping? reading with
  | some change => change
  | none =>
    let standard := zone.standardOf reading
    let summer := standard.later (-Instant.hour)
    if zone.isSummer summer && base < summer then summer else standard

/-- The instant at which the clock is put back, if that comes within an hour after a base. -/
def puttingBack? (zone : Zone) (base : Instant) : Option Instant :=
  (zone.summerTime? base.year).bind fun (_, stop) =>
    if base < stop && stop ≤ base.later Instant.hour then some stop else none

end Zone

end Promotions
