import Promotions.Form.Field

/-!
# Forms for participations and reward requests

`ParticipationForm` takes part in an event, `RequestForm` asks for rewards of one, and
`RequestDecision` moves a request to another status. `RequestFilter` says which requests to list.
-/

namespace Promotions

/-- A participation in an event. -/
structure ParticipationForm where
  eventId : Id
  verificationData : Option Json
  additionalData : Option Json
  deriving Repr

/-- A request for rewards of an event. -/
structure RequestForm where
  eventId : Id
  rewardIds : List Id
  verificationData : Option Json
  deriving Repr

/-- The status that a request is to have. -/
structure RequestDecision where
  status : RequestStatus
  rejectedReason : Option String
  deriving Repr

/-- Which reward requests to list; an empty word is no restriction. -/
structure RequestFilter where
  status : Option String := none
  eventId : Option Id := none
  userId : Option String := none
  deriving Repr

open FormField

namespace ParticipationForm

/-- Reads a participation. -/
def read (form : List (String × Json)) : Checked ParticipationForm :=
  ((required "event_id" identifier form).map mk)
    |>.ap (optional "verification_data" object form)
    |>.ap (optional "additional_data" object form)

end ParticipationForm

namespace RequestForm

/-- Reads a request for rewards. -/
def read (form : List (String × Json)) : Checked RequestForm :=
  ((required "event_id" identifier form).map mk)
    |>.ap (required "reward_ids" (list identifier) form)
    |>.ap (optional "verification_data" object form)

end RequestForm

namespace RequestDecision

/-- Reads a decision on a request. -/
def read (form : List (String × Json)) : Checked RequestDecision :=
  ((required "status" word form).map mk)
    |>.ap (optional "rejected_reason" text form)

end RequestDecision

namespace RequestFilter

/-- Reads a filter of reward requests. -/
def read (form : List (String × Json)) : Checked RequestFilter :=
  ((optional "status" text form).map mk)
    |>.ap (optional "event_id" identifier form)
    |>.ap (optional "user_id" text form)

end RequestFilter

end Promotions
