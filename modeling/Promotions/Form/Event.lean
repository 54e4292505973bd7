import Promotions.Form.Field

/-!
# Forms for events

`EventDraft` describes a new event, `EventPatch` the changes to one, `EventFilter` which events to
list. All are read from the members of an object; members that are not fields are ignored. A draft
or a patch that was read can be filled into another form of its kind (`refilled`).
-/

namespace Promotions

/-- A new event. -/
structure EventDraft where
  title : String
  description : String
  startDate : Timestamp
  endDate : Timestamp
  status : EventStatus
  conditionType : ConditionType
  conditionValue : Json
  autoReward : Bool
  allowMultiple : Bool
  maxParticipants : Option Int
  deriving Repr

/-- Changes to an event. -/
structure EventPatch where
  title : Edit String := .keep
  description : Edit String := .keep
  startDate : Edit Timestamp := .keep
  endDate : Edit Timestamp := .keep
  status : Edit EventStatus := .keep
  conditionType : Edit ConditionType := .keep
  conditionValue : Edit Json := .keep
  autoReward : Edit Bool := .keep
  allowMultiple : Edit Bool := .keep
  maxParticipants : Edit Int := .keep
  deriving Repr

/-- Which events to list; an empty word is no restriction. -/
structure EventFilter where
  status : Option String := none
  conditionType : Option String := none
  deriving Repr

open FormField

namespace EventDraft

/-- Reads a new event. -/
def read (form : List (String × Json)) : Checked EventDraft :=
  ((required "title" someText form).map mk)
    |>.ap (withDefault "description" "" text form)
    |>.ap (required "start_date" timestamp form)
    |>.ap (required "end_date" timestamp form)
    |>.ap (withDefault "status" .draft word form)
    |>.ap (required "condition_type" word form)
    |>.ap (withDefault "condition_value" .empty object form)
    |>.ap (withDefault "auto_reward" false flag form)
    |>.ap (withDefault "allow_multiple_participation" false flag form)
    |>.ap (optional "max_participants" (integerFrom 1) form)

/-- A form for a new event, filled in with a draft. -/
def refilled (draft : EventDraft) : Checked EventDraft :=
  ((filled "title" someTextAgain draft.title).map mk)
    |>.ap (filled "description" textAgain draft.description)
    |>.ap (filled "start_date" .ok draft.startDate)
    |>.ap (filled "end_date" .ok draft.endDate)
    |>.ap (filled "status" wordAgain draft.status)
    |>.ap (filled "condition_type" wordAgain draft.conditionType)
    |>.ap (filled "condition_value" object draft.conditionValue)
    |>.ap (filled "auto_reward" flagAgain draft.autoReward)
    |>.ap (filled "allow_multiple_participation" flagAgain draft.allowMultiple)
    |>.ap (filledOptional "max_participants" (integerAgain 1) draft.maxParticipants)

end EventDraft

namespace EventPatch

/-- Reads changes to an event. -/
def read (form : List (String × Json)) : Checked EventPatch :=
  ((edit "title" someText form).map mk)
    |>.ap (edit "description" text form)
    |>.ap (edit "start_date" timestamp form)
    |>.ap (edit "end_date" timestamp form)
    |>.ap (edit "status" word form)
    |>.ap (edit "condition_type" word form)
    |>.ap (edit "condition_value" object form)
    |>.ap (edit "auto_reward" flag form)
    |>.ap (edit "allow_multiple_participation" flag form)
    |>.ap (edit "max_participants" (integerFrom 1) form)

/-- A form for changes to an event, filled in with what a patch hands on. -/
def refilled (patch : EventPatch) : Checked EventPatch :=
  ((filledEdit "title" someTextAgain patch.title.handedOn).map mk)
    |>.ap (filledEdit "description" textAgain patch.description.handedOn)
    |>.ap (filledEdit "start_date" .ok patch.startDate.handedOn)
    |>.ap (filledEdit "end_date" .ok patch.endDate.handedOn)
    |>.ap (filledEdit "status" wordAgain patch.status.handedOn)
    |>.ap (filledEdit "condition_type" wordAgain patch.conditionType.handedOn)
    |>.ap (filledEdit "condition_value" object patch.conditionValue.handedOn)
    |>.ap (filledEdit "auto_reward" flagAgain patch.autoReward.handedOn)
    |>.ap (filledEdit "allow_multiple_participation" flagAgain patch.allowMultiple.handedOn)
    |>.ap (filledEdit "max_participants" (integerAgain 1) patch.maxParticipants.handedOn)

/-- The names of the columns that a patch writes, in alphabetical order. A null status leaves the
status as it is and does not count. -/
def changes (patch : EventPatch) : List String :=
  [("allow_multiple_participation", patch.allowMultiple.isGiven),
    ("auto_reward", patch.autoReward.isGiven),
    ("condition_type", patch.conditionType.isGiven),
    ("condition_value", patch.conditionValue.isGiven),
    ("description", patch.description.isGiven),
    ("end_date", patch.endDate.isGiven),
    ("max_participants", patch.maxParticipants.isGiven),
    ("start_date", patch.startDate.isGiven),
    ("status", patch.status.value?.isSome),
    ("title", patch.title.isGiven)].filterMap fun (name, given) => if given then some name else none

end EventPatch

namespace EventFilter

/-- Reads a filter of events. -/
def read (form : List (String × Json)) : Checked EventFilter :=
  ((optional "status" text form).map mk)
    |>.ap (optional "condition_type" text form)

end EventFilter

end Promotions
