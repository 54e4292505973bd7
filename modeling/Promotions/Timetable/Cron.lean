import Promotions.Calendar

/-!
# Cron expressions

A timetable is written in five fields: minute, hour, day of the month, month and day of the week.
`Cron.read?` reads an expression, `Cron.matchesMinute` says which minutes it means, and `Cron.next?`
searches for the first of them after a given minute. Minutes and days are counted from the start of
1970 on the clock that the expression is about.

A field is a list of items: `*`, a value, a range `a-b`, and `*`, a value or a range with a step
`/n`. A value with a step runs from the value to the end of the field, a range whose start exceeds
its end wraps round, and a range from a value to itself is the whole field. If both day fields are
restricted, a day has to match only one of them.
-/

namespace Promotions

/-- The values that a field may take, and the names that stand for some of them. -/
structure CronField where
  first : Nat
  last : Nat
  names : List String := []
  /-- The value that `names` start with. -/
  named : Nat := 0
  /-- A second spelling of the first value. -/
  alias? : Option Nat := none

namespace CronField

/-- The minute of an hour. -/
def minute : CronField := { first := 0, last := 59 }

/-- The hour of a day. -/
def hour : CronField := { first := 0, last := 23 }

/-- The day of a month. -/
def monthDay : CronField := { first := 1, last := 31 }

/-- The month of a year, also by its English short name. -/
def month : CronField :=
  { first := 1, last := 12, named := 1,
    names := ["jan", "feb", "mar", "apr", "may", "jun", "jul", "aug", "sep", "oct", "nov", "dec"] }

/-- The day of a week, from Sunday, also by its English short name; Sunday is 0 and 7. -/
def weekday : CronField :=
  { first := 0, last := 6, names := ["sun", "mon", "tue", "wed", "thu", "fri", "sat"],
    alias? := some 7 }

/-- The number of values of a field. -/
def size (field : CronField) : Nat := field.last + 1 - field.first

/-- The numbers from `start` to `stop`, each `step` after the one before. -/
def steps (start stop step : Nat) : List Nat :=
  (List.range (stop + 1 - start)).filterMap fun i =>
    if i % step = 0 then some (start + i) else none

/-- The value of a number or name; the second spelling of the first value counts as the first. -/
def value? (field : CronField) (text : List Char) : Option Nat :=
  match Text.number? text with
  | some n => some (if field.alias? = some n then field.first else n)
  | none => (field.names.idxOf? (String.ofList text)).map (field.named + ·)

/-- A value is in the field. -/
def holds (field : CronField) (value : Nat) : Bool := field.first ≤ value && value ≤ field.last

/-- The values of a range. After the end of the field a wrapping range goes on at the start,
leaving out what its step has left of the field's end. -/
def range (field : CronField) (low high step : Nat) : List Nat :=
  if low < high then steps low high step
  else if low = high then steps field.first field.last step
  else
    let head := steps low field.last step
    let reached := head.getLast?.getD low
    let left := field.last - reached
    let skipped :=
      if reached - field.first + step > field.size ∧ left < step then step - left else 0
    head ++ steps (field.first + skipped) high step

/-- The values of a range given by texts, if its step is positive and all of them are in the
field. -/
def range? (field : CronField) (low high : List Char) (step : Nat) : Option (List Nat) := do
  let low ← field.value? low
  let high ← field.value? high
  if step = 0 ∨ max low high > field.last then none
  else
    let values := field.range low high step
    if values.all field.holds then some values else none

/-- Every so many of the values from a given one to the end of the field, if the step is positive
and all of them are in the field. -/
def onward? (field : CronField) (low step : Nat) : Option (List Nat) :=
  if step = 0 ∨ field.last < low then none
  else
    let values := steps low field.last step
    if values.all field.holds then some values else none

/-- The values of one item of a field. -/
def item? (field : CronField) (text : List Char) : Option (List Nat) :=
  let (body, step) := text.span (· != '/')
  let (low, high) := body.span (· != '-')
  match step with
  | [] =>
    match high with
    | [] =>
      if body = ['*'] then some (steps field.first field.last 1)
      else (field.value? body).bind fun value => if field.holds value then some [value] else none
    | _ :: high => field.range? low high 1
  | _ :: step =>
    match Text.number? step with
    | none => none
    | some step =>
      match high with
      | [] =>
        if body = ['*'] then field.onward? field.first step
        else (field.value? body).bind fun low => field.onward? low step
      | _ :: high => field.range? low high step

/-- The items of a field, at its commas. -/
def items : List Char → List (List Char)
  | [] => [[]]
  | ',' :: rest => [] :: items rest
  | c :: rest =>
    match items rest with
    | [] => [[c]]
    | item :: more => (c :: item) :: more

/-- The values of a field, in order. -/
def values? (field : CronField) (text : List Char) : Option (List Nat) := do
  let chosen ← (items text).mapM field.item?
  some ((steps field.first field.last 1).filter fun value => chosen.flatten.contains value)

end CronField

/-- A timetable: the values of the five fields. -/
structure Cron where
  minutes : List Nat
  hours : List Nat
  monthDays : List Nat
  months : List Nat
  weekdays : List Nat
  /-- The day of the month is not restricted. -/
  anyMonthDay : Bool
  /-- The day of the week is not restricted. -/
  anyWeekday : Bool
  deriving DecidableEq, Repr

namespace Cron

/-- A day field is open, given its values and its text and the text of the other day field: one
of its items is `*`, or all its values are there and the other field has a `*` in it. -/
def isOpen (field : CronField) (values : List Nat) (text other : List Char) : Bool :=
  (CronField.items text).contains ['*'] || (values.length = field.size && other.contains '*')

/-- The timetable that an expression writes. The case of letters does not count. -/
def read? (text : String) : Option Cron :=
  match Text.words (text.toList.map Char.toLower) with
  | [minute, hour, monthDay, month, weekday] => do
    let minutes ← CronField.minute.values? minute
    let hours ← CronField.hour.values? hour
    let monthDays ← CronField.monthDay.values? monthDay
    let months ← CronField.month.values? month
    let weekdays ← CronField.weekday.values? weekday
    some
      { minutes, hours, monthDays, months, weekdays
        anyMonthDay := isOpen .monthDay monthDays monthDay weekday
        anyWeekday := isOpen .weekday weekdays weekday monthDay }
  | _ => none

/-- A day, given by its count, is one of the timetable. -/
def matchesDay (cron : Cron) (day : Int) : Bool :=
  let date := Date.ofDayNumber day
  let byDate := cron.monthDays.contains date.day.toNat
  let byWeekday := cron.weekdays.contains (Date.weekday day).toNat
  cron.months.contains date.month.toNat &&
    (if cron.anyMonthDay then cron.anyWeekday || byWeekday
      else if cron.anyWeekday then byDate else byDate || byWeekday)

/-- A minute of a day is one of the timetable. -/
def matchesTime (cron : Cron) (minute : Nat) : Bool :=
  cron.hours.contains (minute / 60) && cron.minutes.contains (minute % 60)

/-- Minutes of a day. -/
def dayLength : Nat := 1440

/-- A minute, given by its count, is one of the timetable. -/
def matchesMinute (cron : Cron) (minute : Int) : Bool :=
  cron.matchesDay (minute / dayLength) && cron.matchesTime (minute % dayLength).toNat

/-- The first minute of a day from `start` on that matches. -/
def firstTime? (cron : Cron) (start : Nat) : Option Nat :=
  (List.range dayLength).find? fun minute => start ≤ minute && cron.matchesTime minute

/-- The first matching minute among a number of days, of which the first begins at `start`. -/
def search? (cron : Cron) : Nat → Int → Nat → Option Int
  | 0, _, _ => none
  | days + 1, day, start =>
    match (if cron.matchesDay day then cron.firstTime? start else none) with
    | some minute => some (day * dayLength + minute)
    | none => search? cron days (day + 1) 0

/-- The years that a search covers after that of its start. -/
def horizon : Nat := 50

/-- Days that are enough for the years of a search. -/
def horizonDays : Nat := 18300

/-- The first matching minute after a given one. -/
def next? (cron : Cron) (minute : Int) : Option Int :=
  let start := minute + 1
  cron.search? horizonDays (start / dayLength) (start % dayLength).toNat

/-- A timetable as searches go about it: if both day fields are restricted, each of them is searched
on its own. -/
def searches (cron : Cron) : List Cron :=
  if cron.anyMonthDay || cron.anyWeekday then [cron]
  else [{ cron with anyWeekday := true }, { cron with anyMonthDay := true }]

/-- Every hour of a day is one of the timetable. -/
def hasEveryHour (cron : Cron) : Bool := cron.hours.length = CronField.hour.size

end Cron

end Promotions
