import Promotions.Store.View

/-!
# Operations and the journal

An operation on the books answers with an `Outcome`: its answer, the new books, and the notes that
it leaves for the journal, in order. It never sees the journal. `Database.commit` puts the books in
place and appends the notes as journal entries; a note that the journal does not accept is dropped,
and changes nothing else. An operation that fails leaves no outcome, and so no trace.
-/

namespace Promotions

/-- The date of a time. A time that comes to lie beyond the year 9999 when it is rounded to
milliseconds has none. -/
def Instant.storedDate? (t : Instant) : Option Date :=
  if t.isStorable && (t.later 500).isStorable then some (Date.ofDayNumber t.dayNumber) else none

/-- What an operation is told by its surroundings. -/
structure Session where
  clock : Instant
  /-- Who approves requests that are approved as soon as they are made. -/
  systemOperator : String := "system"
  /-- Whether the journal accepts the note of a given position among those of one operation. -/
  journalAccepts : Nat → Bool := fun _ => true
  /-- The date that the store tells of a time that it keeps. -/
  dateOf : Instant → Option Date := Instant.storedDate?

namespace Session

/-- The time that columns with a default time get: the clock, in whole seconds. -/
def stamp (s : Session) : Instant := s.clock.wholeSecond

end Session

/-- What an operation leaves for the journal. -/
structure Note where
  logType : LogType
  actor : String
  eventId : Option Id := none
  rewardId : Option Id := none
  requestId : Option Id := none
  /-- Null for an entry without details. -/
  details : Json
  deriving Repr

/-- What an operation leads to. -/
structure Outcome (α : Type) where
  answer : α
  books : Books
  notes : List Note := []

/-- Who acts when nobody is named. -/
def anonymousActor : String := "system"

namespace Note

/-- The journal entry of a note. Reserved members of the details are not written. -/
def entry (note : Note) (id : Id) (clock : Instant) : LogEntry :=
  { id
    logType := note.logType
    actor := if note.actor = "" then anonymousActor else note.actor
    eventId := note.eventId
    rewardId := note.rewardId
    requestId := note.requestId
    details := note.details.withoutReserved
    createdAt := some clock }

end Note

namespace Table

/-- Appends a note to the journal. -/
def record (journal : Table LogEntry) (clock : Instant) (note : Note) : Table LogEntry :=
  journal.push (note.entry journal.nextId clock)

/-- Appends the notes that are accepted; the first of them has position `index`. -/
def recordFrom (clock : Instant) (accepts : Nat → Bool) : Nat → Table LogEntry → List Note →
    Table LogEntry
  | _, journal, [] => journal
  | index, journal, note :: rest =>
    recordFrom clock accepts (index + 1)
      (if accepts index then journal.record clock note else journal) rest

end Table

namespace Database

/-- The database after an operation. -/
def commit {α : Type} (db : Database) (s : Session) (outcome : Outcome α) : Database :=
  { books := outcome.books
    journal := db.journal.recordFrom s.clock s.journalAccepts 0 outcome.notes }

end Database

/-- An optional integer fits into 64 bits. -/
def fits64? (n : Option Int) : Bool := n.all fits64

namespace Timestamp

/-- The UTC reading of a date to be stored. -/
def stored (t : Timestamp) : Except Failure Instant :=
  match t.utc? with
  | some utc => .ok utc
  | none => Failure.breakOff .dateRange

/-- The UTC reading of a date to be stored, if there is one. -/
def stored? : Option Timestamp → Except Failure (Option Instant)
  | none => .ok none
  | some t => t.stored.map some

end Timestamp

/-- What an operation comes to in which some part may fault. -/
def orBreakOff {α : Type} (result : Except Fault α) : Except Failure α :=
  match result with
  | .ok value => .ok value
  | .error fault => Failure.breakOff fault

end Promotions
