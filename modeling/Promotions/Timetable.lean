import Promotions.Timetable.Cron
import Promotions.Timetable.Zone

/-!
# The next run of a timetable

`CronSearch.nextRunAfter` asks a library (`CronSearch`) for the first instant after a base at which
a cron expression, read on the clock of a zone, is due. The base is a timestamp, with or without an
offset.

`CronSearch.exact` is such a library, which searches for the next match minute by minute. A reading
that the clock shows twice is due both times. A reading that the clock skips is due at the moment
when the clock is put forward, unless the timetable has every hour. `CronSearch.standard`, by which
`nextRun` and `nextRunAfter` go, searches in the same way, but keeps its base as seconds in a
double.
-/

namespace Promotions

/-- Why a timetable has no next run. -/
inductive TimetableFault where
  | invalidCron (text : String)
  | unknownZone (name : String)
  /-- A reading lies outside the years 1 to 9999. -/
  | dateRange
  /-- The second that the base counts as, or the month that would be next, lies beyond the year
  9999. -/
  | yearRange
  /-- No minute of the coming years matches. -/
  | neverDue
  deriving DecidableEq, Repr

namespace TimetableFault

/-- The message of a fault, where it has one. -/
def message? : TimetableFault → Option String
  | .invalidCron text => some ("Invalid cron expression: " ++ text)
  | .unknownZone name => some ("No time zone found with key " ++ name)
  | .dateRange | .yearRange | .neverDue => none

end TimetableFault

/-- What ends the search of a timetable at the end of the year 9999: the days and times of December,
if it has that month, and otherwise the look for its next month. -/
def Cron.calendarEnd (cron : Cron) : TimetableFault :=
  if cron.months.contains 12 then .dateRange else .yearRange

/-- The first reading of a clock that is due after a given one, in whole minutes. -/
def Cron.nextReading (cron : Cron) (reading : Instant) : Except TimetableFault Instant :=
  let minute := reading.micros / Instant.minute
  let start : Instant := ⟨(minute + 1) * Instant.minute⟩
  if !reading.isStorable || !start.isStorable then .error .dateRange
  else
    match cron.next? minute with
    | some due =>
      if Instant.isStorable ⟨due * Instant.minute⟩ then .ok ⟨due * Instant.minute⟩
      else .error cron.calendarEnd
    | none => if start.year + horizon < 9999 then .error .neverDue else .error cron.calendarEnd

/-- The first due reading after a given one that counts in a zone. A timetable of every hour passes
over the readings that the clock skips. -/
def Cron.nextReadingIn (cron : Cron) (zone : Zone) (reading : Instant) :
    Except TimetableFault Instant :=
  match cron.nextReading reading with
  | .error fault => .error fault
  | .ok due =>
    match zone.skipping? due with
    | some change =>
      if cron.hasEveryHour then cron.nextReading ((zone.toLocal change).later (-Instant.minute))
      else .ok due
    | none => .ok due

/-- The first due instant after a base, found in one search. If the clock is put back on the way,
the search goes on from there as well. -/
def Cron.nextFound (cron : Cron) (zone : Zone) (base : Instant) : Except TimetableFault Instant :=
  match cron.nextReadingIn zone (zone.toLocal base) with
  | .error fault => .error fault
  | .ok reading =>
    let next := zone.nextShowing base reading
    let again := (zone.puttingBack? base).bind fun change =>
      if next < change then none
      else (cron.nextReadingIn zone ((zone.toLocal change).later (-Instant.minute))).toOption.map
        (zone.nextShowing (change.later (-1)))
    let next := match again with
      | some t => if t < next then t else next
      | none => next
    if next.isStorable then .ok next else .error .dateRange

/-- The earlier of the instants that two searches find. A search that never finds one leaves the
other alone; any other fault ends both. -/
def earlierRun : Except TimetableFault Instant → Except TimetableFault Instant →
    Except TimetableFault Instant
  | .error .neverDue, second => second
  | .error fault, _ => .error fault
  | .ok t, .error .neverDue => .ok t
  | .ok _, .error fault => .error fault
  | .ok t, .ok u => .ok (if u < t then u else t)

/-- The first due instant after a base, for a timetable and zone that have been read. -/
def Cron.nextAfter (cron : Cron) (zone : Zone) (base : Instant) : Except TimetableFault Instant :=
  cron.searches.foldr (fun search found => earlierRun (search.nextFound zone base) found)
    (.error .neverDue)

/-- The whole second of a reading on a clock that counts seconds in a double. A double has 53 bits,
and so may be off by up to `2 ^ (e - 53)` at a size of `2 ^ e`: in years far away the last
microseconds of a second already count as the next one. -/
def Instant.countedSecond (t : Instant) : Instant :=
  let missing := (Instant.second - t.micros % Instant.second).toNat
  let size := Nat.log2 (t.micros.natAbs / 1000000)
  if missing <<< 53 < 1000000 <<< size then t.wholeSecond.later Instant.second else t.wholeSecond

/-- **A library for cron expressions**: whether it takes a text for one, and the first match after a
base that it finds on the clock of a zone. -/
structure CronSearch where
  isValid : String → Bool
  next : String → Zone → Instant → Except TimetableFault Instant

namespace CronSearch

/-- The search minute by minute. -/
def exact : CronSearch where
  isValid text := (Cron.read? text).isSome
  next text zone base :=
    match Cron.read? text with
    | none => .error (.invalidCron text)
    | some timetable => timetable.nextAfter zone base

/-- The same search from the second that a base counts as. -/
def standard : CronSearch where
  isValid := exact.isValid
  next text zone base :=
    let counted := base.countedSecond
    if counted.isStorable then exact.next text zone counted else .error .yearRange

/-- The first due instant after a base. The expression is read before the zone's name; the base and
the result have to lie in the years 1 to 9999, the base by the clock of the zone, too. -/
def nextRunAfter (search : CronSearch) (base : Timestamp) (cron zone : String) :
    Except TimetableFault Instant :=
  if !search.isValid cron then .error (.invalidCron cron)
  else
    match Zone.find? zone with
    | none => .error (.unknownZone zone)
    | some zone =>
      match base.utc? with
      | none => .error .dateRange
      | some base =>
        if !(zone.toLocal base).isStorable then .error .dateRange
        else
          match search.next cron zone base with
          | .error fault => .error fault
          | .ok next => if next.isStorable then .ok next else .error .dateRange

end CronSearch

/-- The first due instant after a base that is given as a timestamp. -/
def nextRunAfter (base : Timestamp) (cron zone : String) : Except TimetableFault Instant :=
  CronSearch.standard.nextRunAfter base cron zone

/-- The first due instant after a base. -/
def nextRun (base : Instant) (cron zone : String) : Except TimetableFault Instant :=
  nextRunAfter { reading := base } cron zone

end Promotions
