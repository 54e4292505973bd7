import Promotions.Condition
import Promotions.Form.Event
import Promotions.Outcome

/-!
# Events

Creating, changing and listing events. An event's window begins before it ends. A change is written
column by column, and only if the column's content differs: for the free-form condition value
"differs" means not equal in the sense of `Json.looselyEq`, so that a value that is loosely the same
leaves the stored one as it is, although the answer and the journal show the new one. The time of
the last change moves only if some column is written.
-/

namespace Promotions

namespace Event

/-- A new event, with the dates of its draft given in UTC. -/
def ofDraft (id : Id) (draft : EventDraft) (startDate endDate : Instant) (actor : String)
    (stamp : Instant) : Event :=
  { id
    title := draft.title
    description := draft.description
    startDate, endDate
    status := draft.status
    conditionType := draft.conditionType
    conditionValue := draft.conditionValue
    autoReward := draft.autoReward
    allowMultiple := draft.allowMultiple
    participantCount := 0
    maxParticipants := draft.maxParticipants
    createdBy := actor
    updatedBy := none
    createdAt := some stamp
    updatedAt := some stamp }

end Event

namespace Books

/-- The event of an identifier. -/
def findEvent (books : Books) (id : Id) : Except Failure Event :=
  match books.events.find? id with
  | some event => .ok event
  | none => Failure.refuse (.eventNotFound id)

/-- All events of a status and condition type, by start date from the latest; an empty word is no
restriction. -/
def findEvents (books : Books) (chosen : EventFilter) : List Event :=
  latestFirst (some ·.startDate) <| books.events.filter fun event =>
    Text.isWanted chosen.status event.status.name &&
      Text.isWanted chosen.conditionType event.conditionType.name

/-- The events that are active at a time, by end date from the earliest. -/
def findActiveEvents (books : Books) (now : Instant) : List Event :=
  earliestFirst (some ·.endDate) <| books.events.filter fun event =>
    event.status = .active && event.startDate ≤ now && now ≤ event.endDate

/-- The note that an event was created. -/
def eventCreated (event : Event) (view : Json) (actor : String) : Note :=
  { logType := .eventCreated, actor, eventId := some event.id
    details := .obj [("event", view)] }

/-- Creates an event. -/
def createEvent (books : Books) (s : Session) (draft : EventDraft) (actor : String) :
    Except Failure (Outcome Event) :=
  match draft.startDate.stored with
  | .error failure => .error failure
  | .ok startDate =>
    match draft.endDate.stored with
    | .error failure => .error failure
    | .ok endDate =>
      if endDate ≤ startDate then Failure.refuse .windowNotPositive
      else if !fits64? draft.maxParticipants then Failure.breakOff .integerRange
      else
        let event := Event.ofDraft books.events.nextId draft startDate endDate actor s.stamp
        match orBreakOff event.shown with
        | .error failure => .error failure
        | .ok view =>
          .ok
            { answer := event
              books := { books with events := books.events.push event }
              notes := [eventCreated event view actor] }

/-- The date that an edit leaves; a date cannot be cleared. -/
def editDate (column : String) (old : Instant) : Edit Timestamp → Except Failure Instant
  | .keep => .ok old
  | .clear => Failure.refuse (.cannotBeCleared column)
  | .set date => date.stored

end Books

namespace Event

/-- The event with a patch written into it; the dates of the patch are given in UTC. -/
def patched (event : Event) (patch : EventPatch) (startDate endDate : Instant) (actor : String) :
    Event :=
  { event with
    title := patch.title.getD event.title
    description := patch.description.getD event.description
    startDate, endDate
    status := patch.status.getD event.status
    conditionType := patch.conditionType.getD event.conditionType
    conditionValue :=
      match patch.conditionValue with
      | .keep => event.conditionValue
      | .clear => .empty
      | .set value => value
    autoReward := patch.autoReward.getD event.autoReward
    allowMultiple := patch.allowMultiple.getD event.allowMultiple
    maxParticipants := patch.maxParticipants.apply event.maxParticipants
    updatedBy := some actor }

/-- No column that a patch can write differs between two versions of an event. -/
def sameColumns (old new : Event) : Bool :=
  old.title = new.title && old.description = new.description && old.startDate = new.startDate &&
    old.endDate = new.endDate && old.status = new.status && old.conditionType = new.conditionType &&
    Json.looselyEq old.conditionValue new.conditionValue && old.autoReward = new.autoReward &&
    old.allowMultiple = new.allowMultiple && old.maxParticipants = new.maxParticipants &&
    old.updatedBy = new.updatedBy

/-- The new version of an event with the time of its last change, which moves only if some column
differs. -/
def restamped (old new : Event) (stamp : Instant) : Event :=
  { new with updatedAt := if sameColumns old new then old.updatedAt else some stamp }

/-- What is stored of a new version of an event: a condition value that is loosely the old one is
not written. -/
def stored (old new : Event) : Event :=
  { new with
    conditionValue :=
      if Json.looselyEq old.conditionValue new.conditionValue then old.conditionValue
      else new.conditionValue }

end Event

namespace EventPatch

/-- The patch clears a column that may not be empty and that nothing guards. -/
def clearsColumn (patch : EventPatch) : Bool :=
  patch.title.isClear || patch.description.isClear || patch.conditionType.isClear ||
    patch.autoReward.isClear || patch.allowMultiple.isClear

end EventPatch

namespace Books

/-- The note that an event's status changed, if it did. -/
def eventStatusChanged (old new : Event) (actor : String) : List Note :=
  if old.status = new.status then []
  else
    [{ logType := .eventStatusChanged, actor, eventId := some new.id
       details := .obj
        [("previousStatus", .str old.status.name), ("newStatus", .str new.status.name)] }]

/-- The note that an event was changed. -/
def eventUpdated (event : Event) (view : Json) (changes : List String) (actor : String) : Note :=
  { logType := .eventUpdated, actor, eventId := some event.id
    details := .obj [("changes", .arr (changes.map .str)), ("event", view)] }

/-- Changes an event. The answer is the new version, which may show a condition value that is
loosely the stored one. -/
def updateEvent (books : Books) (s : Session) (id : Id) (patch : EventPatch) (actor : String) :
    Except Failure (Outcome Event) :=
  match books.findEvent id with
  | .error failure => .error failure
  | .ok event =>
    match editDate "start_date" event.startDate patch.startDate with
    | .error failure => .error failure
    | .ok startDate =>
      match editDate "end_date" event.endDate patch.endDate with
      | .error failure => .error failure
      | .ok endDate =>
        if endDate ≤ startDate then Failure.refuse .windowNotPositive
        else if !fits64? patch.maxParticipants.value? then Failure.breakOff .integerRange
        else if patch.clearsColumn then Failure.breakOff .constraint
        else
          let new := event.restamped (event.patched patch startDate endDate actor) s.stamp
          match orBreakOff new.shown with
          | .error failure => .error failure
          | .ok view =>
            .ok
              { answer := new
                books := { books with events := books.events.put (event.stored new) }
                notes := eventStatusChanged event new actor ++
                  [eventUpdated new view patch.changes actor] }

end Books

end Promotions
