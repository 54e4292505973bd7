import Promotions.Vocabulary
import Promotions.Form.Issue
import Promotions.Id

/-!
# Failures

An operation is either refused, for a reason that belongs to the business and has a status and a
message (`Refusal`), or it breaks off on a fault that no caller is meant to see (`Fault`): a
constraint of the tables, a number, date or identifier that cannot be stored, or a row that holds
something of the wrong shape. Either way nothing of the operation stays.
-/

namespace Promotions

/-- What sort of refusal a caller is told of. -/
inductive RefusalKind where
  | badRequest
  | forbidden
  | notFound
  | conflict
  deriving DecidableEq, Repr

namespace RefusalKind

/-- The status code of a kind. -/
def status : RefusalKind → Nat
  | badRequest => 400
  | forbidden => 403
  | notFound => 404
  | conflict => 409

end RefusalKind

/-- Why an operation is refused. -/
inductive Refusal where
  | eventNotFound (id : Id)
  | rewardNotFound (id : Id)
  | requestNotFound (id : Id)
  | grantNotFound (id : Id)
  /-- An event's window has to begin before it ends. -/
  | windowNotPositive
  /-- A column that may not be empty was to be cleared. -/
  | cannotBeCleared (column : String)
  | totalBelowIssued (total issued : Int)
  | eventNotActive
  | conditionsNotMet
  | alreadyParticipated
  | participantLimitReached
  | noRewardIds
  | rewardsNotOfEvent
  | alreadyRequested
  | unknownStatus (word : String)
  | transitionNotAllowed (current target : RequestStatus)
  | requestOfAnotherUser
  | nothingToIssue
  | outOfStock (reward : Id) (name : String)
  | alreadyIssued (reward request : Id)
  | rewardsGone
  | grantOfAnotherUser
  | grantNotUsable
  | grantExpired
  | unknownCommand (name : String)
  deriving DecidableEq, Repr

namespace Refusal

/-- The kind of a refusal. -/
def kind : Refusal → RefusalKind
  | eventNotFound _ | rewardNotFound _ | requestNotFound _ | grantNotFound _ => .notFound
  | rewardsNotOfEvent => .notFound
  | requestOfAnotherUser | grantOfAnotherUser => .forbidden
  | alreadyParticipated | alreadyRequested | transitionNotAllowed _ _ => .conflict
  | outOfStock _ _ | alreadyIssued _ _ => .conflict
  | windowNotPositive | cannotBeCleared _ | totalBelowIssued _ _ | eventNotActive => .badRequest
  | conditionsNotMet | participantLimitReached | noRewardIds | unknownStatus _ => .badRequest
  | nothingToIssue | rewardsGone | grantNotUsable | grantExpired => .badRequest
  | unknownCommand _ => .badRequest

/-- The message of a refusal. -/
def message : Refusal → String
  | eventNotFound id => "Event with ID " ++ id.text ++ " not found"
  | rewardNotFound id => "Reward with ID " ++ id.text ++ " not found"
  | requestNotFound id => "Reward request with ID " ++ id.text ++ " not found"
  | grantNotFound id => "User reward with ID " ++ id.text ++ " not found"
  | windowNotPositive => "start_date must be before end_date"
  | cannotBeCleared column => column ++ " cannot be cleared"
  | totalBelowIssued total issued =>
    "total_quantity (" ++ toString total ++ ") cannot be lower than issued_quantity (" ++
      toString issued ++ ")"
  | eventNotActive => "Event is not active"
  | conditionsNotMet => "Event conditions not met"
  | alreadyParticipated => "User has already participated in this event"
  | participantLimitReached => "Event has reached its participant limit"
  | noRewardIds => "At least one reward ID must be provided"
  | rewardsNotOfEvent => "Some reward IDs are invalid or do not belong to this event"
  | alreadyRequested => "A reward request for this event and reward already exists"
  | unknownStatus word => "Unknown reward request status: " ++ word
  | transitionNotAllowed current target =>
    "Cannot change reward request status from " ++ current.name ++ " to " ++ target.name
  | requestOfAnotherUser => "Reward request belongs to another user"
  | nothingToIssue => "No rewards to issue"
  | outOfStock reward name => "Reward " ++ reward.text ++ " (" ++ name ++ ") is out of stock"
  | alreadyIssued reward request =>
    "Reward " ++ reward.text ++ " was already issued for request " ++ request.text
  | rewardsGone => "None of the requested rewards exist anymore"
  | grantOfAnotherUser => "User reward belongs to another user"
  | grantNotUsable => "Reward not usable"
  | grantExpired => "Reward has expired"
  | unknownCommand name => "Unknown command: " ++ name

end Refusal

/-- What makes an operation break off. -/
inductive Fault where
  /-- A column that may not be empty, a unique key, or the bounds of a stock. -/
  | constraint
  /-- An integer that does not fit into 64 bits. -/
  | integerRange
  /-- A date whose UTC reading lies outside the years 1 to 9999. -/
  | dateRange
  /-- A text that should be an identifier. -/
  | badId (fault : IdFault)
  /-- A row that does not have the shape in which rows are shown. -/
  | unshowable (issues : List Issue)
  /-- A row with a payload that is too high to be written out. -/
  | unwritable
  /-- Metadata that has no parts to copy, or a part without parts, or with a name that cannot be
  one. -/
  | badMetadata
  /-- Metadata with a part that does not have just two parts. -/
  | unpairedMetadata
  /-- A wanted list that is a number or a boolean. -/
  | badWanted
  /-- A wanted list that is an object, and therefore has no first item. -/
  | unorderedWanted
  /-- Times that cannot be compared: one is missing, or just one carries an offset. -/
  | incomparable
  /-- A row with an identifier that the store takes for a number, and so cannot be read again. -/
  | unreadableId
  deriving DecidableEq, Repr

namespace Fault

/-- The message of a fault, where it has one. -/
def message? : Fault → Option String
  | .badId .malformed => some "badly formed hexadecimal UUID string"
  | .unwritable => some "Maximum serialization depth exceeded"
  | _ => none

end Fault

/-- Why an operation did not take place. -/
inductive Failure where
  | refused (refusal : Refusal)
  | fault (fault : Fault)
  deriving DecidableEq, Repr

namespace Failure

variable {α : Type}

/-- Refuses an operation. -/
def refuse (refusal : Refusal) : Except Failure α := .error (.refused refusal)

/-- Breaks an operation off. -/
def breakOff (fault : Fault) : Except Failure α := .error (.fault fault)

end Failure

end Promotions
