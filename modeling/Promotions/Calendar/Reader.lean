import Promotions.Calendar
import Promotions.Double.Decimal
import Promotions.Json

/-!
# Reading timestamps

`Timestamp.ofText?` takes a date, a date with a time, or a number; `Timestamp.ofJson?` also takes
JSON numbers. A number counts seconds from the start of 1970 in UTC, or milliseconds if it is larger
than `watershed`.
-/

namespace Promotions.Timestamp

/-- Numbers beyond this size count milliseconds. -/
def watershed : Nat := 20000000000

/-- The microseconds of the unit in which a number of a size counts. -/
def unitOf (size : Rat) : Nat := if size ≤ watershed then 1000000 else 1000

/-- The timestamp in UTC of microseconds from the start of 1970, in the years 1 to 9999. -/
def ofMicros? (micros : Int) : Option Timestamp :=
  if Instant.isStorable ⟨micros⟩ then some ⟨⟨micros⟩, some 0⟩ else none

/-- The timestamp in UTC of a whole number. -/
def ofInt? (n : Int) : Option Timestamp := ofMicros? (n * unitOf n.natAbs)

/-- The timestamp in UTC of a double. -/
def ofDouble? (d : Double) : Option Timestamp :=
  d.toRat?.bind fun x =>
    let unit := unitOf x.abs
    ofMicros? (x.floor * unit + d.partsAbove unit)

/-- Microseconds of a fraction's first six digits. -/
def fraction (digits : List Char) : Nat :=
  let kept := digits.take 6
  Text.digitsValue kept * Nat.pow 10 (6 - kept.length)

/-- The microseconds of a time of day, if its parts are in range. -/
def timeOfDay? (hour minute second micros : Nat) : Option Int :=
  if hour < 24 ∧ minute < 60 ∧ second < 60 then
    some (((hour * 60 + minute) * 60 + second) * 1000000 + micros : Nat)
  else none

/-- An offset of hours and minutes after a sign, less than a day. The minus may be a hyphen or the
sign of mathematics. -/
def signedOffset? (sign : Char) (hours minutes : List Char) : Option Int :=
  match Text.number? hours, Text.number? minutes with
  | some hours, some minutes =>
    if hours ≥ 24 ∨ minutes ≥ 60 then none
    else if sign = '+' then some (hours * 60 + minutes : Nat)
    else if sign = '-' ∨ sign = '\u2212' then some (-(hours * 60 + minutes : Nat))
    else none
  | _, _ => none

/-- An offset in minutes: none, `Z`, `±HH:MM` or `±HHMM`. -/
def offset? : List Char → Option (Option Int)
  | [] => some none
  | ['Z'] | ['z'] => some (some 0)
  | [sign, h, h', ':', m, m'] | [sign, h, h', m, m'] =>
    (signedOffset? sign [h, h'] [m, m']).map some
  | _ => none

/-- The seconds of a time and their fraction after a point or comma, if written, and the rest. -/
def seconds? : List Char → Option (Nat × Nat × List Char)
  | ':' :: s :: s' :: rest => do
    let second ← Text.number? [s, s']
    match rest with
    | '.' :: rest | ',' :: rest =>
      match rest.span Char.isDigit with
      | ([], _) => none
      | (digits, rest) => some (second, fraction digits, rest)
    | rest => some (second, 0, rest)
  | ':' :: _ => none
  | rest => some (0, 0, rest)

/-- The microseconds of a time of day and its offset, after the mark that separates it from the
date. -/
def time? : List Char → Option (Int × Option Int)
  | h :: h' :: ':' :: m :: m' :: rest => do
    let hour ← Text.number? [h, h']
    let minute ← Text.number? [m, m']
    let (second, micros, rest) ← seconds? rest
    let time ← timeOfDay? hour minute second micros
    let offset ← offset? rest
    some (time, offset)
  | _ => none

/-- A date, with or without a time of day. -/
def dateTime? : List Char → Option Timestamp
  | y :: y' :: y'' :: y''' :: '-' :: m :: m' :: '-' :: d :: d' :: rest => do
    let year ← Text.number? [y, y', y'', y''']
    let month ← Text.number? [m, m']
    let day ← Text.number? [d, d']
    let date : Date := ⟨year, month, day⟩
    if date.isValid then
      let start := Instant.ofDayNumber date.dayNumber
      match rest with
      | [] => some ⟨start, none⟩
      | mark :: rest =>
        if mark = 'T' ∨ mark = 't' ∨ mark = ' ' ∨ mark = '_' then do
          let (time, offset) ← time? rest
          some ⟨start.later time, offset⟩
        else none
    else none
  | _ => none

/-- A number: an integer, or a decimal number with a point. -/
def number? (text : List Char) : Option Timestamp :=
  let (negative, bare) := Double.sign text
  match bare.span Char.isDigit with
  | (whole, []) => do
    let n ← Text.number? whole
    ofInt? (if negative then -(n : Int) else n)
  | (_, '.' :: _) => (Double.ofText? text).bind ofDouble?
  | _ => none

/-- The timestamp that a text writes. -/
def ofText? (text : String) : Option Timestamp :=
  match dateTime? text.toList with
  | some timestamp => some timestamp
  | none => number? text.toList

/-- The timestamp that a JSON value stands for. -/
def ofJson? : Json → Option Timestamp
  | .str text => ofText? text
  | .int value => ofInt? value
  | .double value => ofDouble? value
  | _ => none

end Promotions.Timestamp
