import Promotions.Calendar.Reader
import Promotions.Store.View

/-!
# Rows as named columns

Every kind of row can be written as an object of its columns and read back from one. A column that
is not given takes its default where it has one, and is null otherwise; when a row is new, a null
counts as not given. Free-form columns take any value, null among them. A column that may not be
empty refuses null as a broken constraint.

Identifiers and the size of integers are checked before any constraint (`Columns.screen`).
-/

namespace Promotions

/-- The columns given for a row. -/
structure Columns where
  given : List (String × Json)
  /-- The row is new, so that a null column takes its default. -/
  isNew : Bool

namespace Columns

variable {α : Type}

/-- Reads a column that may not be empty. -/
def read (c : Columns) (name : String) (default : Option α) (value : Json → Except Fault α) :
    Except Fault α :=
  match Json.lookup name c.given, default with
  | none, some default => .ok default
  | some .null, some default => if c.isNew then .ok default else value .null
  | some given, _ => value given
  | none, none => value .null

/-- Reads a column that may be empty. -/
def read? (c : Columns) (name : String) (value : Json → Except Fault α) : Except Fault (Option α) :=
  match Json.lookup name c.given with
  | none | some .null => .ok none
  | some given => (value given).map some

/-- Reads a column of times that the store keeps: the time of writing, unless another one is given
or an old row is left without. -/
def time (c : Columns) (name : String) (stamp : Instant) (value : Json → Except Fault Instant) :
    Except Fault (Option Instant) :=
  match Json.lookup name c.given with
  | none => .ok (some stamp)
  | some .null => .ok (if c.isNew then some stamp else none)
  | some given => (value given).map some

/-- Reads a free-form column. -/
def payload (c : Columns) (name : String) (default : Json) : Json :=
  (Json.lookup name c.given).getD default

/-- The content of a column of text. -/
def text : Json → Except Fault String
  | .str value => .ok value
  | _ => .error .constraint

/-- The content of a column of integers: a whole number or a boolean. -/
def integer (value : Json) : Except Fault Int :=
  match value.toRat? with
  | some number => if number.den = 1 then .ok number.num else .error .constraint
  | none => .error .constraint

/-- The content of a column of booleans. -/
def flag : Json → Except Fault Bool
  | .bool value => .ok value
  | .int 0 => .ok false
  | .int 1 => .ok true
  | _ => .error .constraint

/-- The content of a column of dates: the reading as it is given, whatever its offset. -/
def date : Json → Except Fault Instant
  | .str value =>
    match Timestamp.ofText? value with
    | some timestamp => .ok timestamp.reading
    | none => .error .constraint
  | _ => .error .constraint

/-- The content of a column of identifiers. -/
def identifier : Json → Except Fault Id
  | .null => .error .constraint
  | value =>
    match Id.ofJson value with
    | .ok id => .ok id
    | .error fault => .error (.badId fault)

/-! ### Screening -/

/-- The columns of identifiers. -/
def identifiers : List String := ["event_id", "reward_id", "request_id", "reward_request_id"]

/-- The columns of integers. -/
def integers : List String :=
  ["participant_count", "max_participants", "total_quantity", "issued_quantity",
    "participation_count"]

/-- What is wrong with the identifier of a column; null is none. -/
def idFault? : String × Json → Option Fault
  | (_, .null) => none
  | (name, value) =>
    if name ∉ identifiers then none
    else
      match identifier value with
      | .error fault => some fault
      | .ok _ => none

/-- A column of integers is given one that does not fit into 64 bits. -/
def isOversized : String × Json → Bool
  | (name, .int value) => name ∈ integers && !fits64 value
  | _ => false

/-- Refuses columns with a text that should be an identifier, and then those with an integer that
does not fit into 64 bits. -/
def screen (given : List (String × Json)) : Except Fault Unit :=
  match given.findSome? idFault? with
  | some fault => .error fault
  | none => if given.any isOversized then .error .integerRange else .ok ()

end Columns

namespace Event

/-- Reads an event from its columns. -/
def ofColumns (id : Id) (stamp : Instant) (c : Columns) : Except Fault Event := do
  let title ← c.read "title" none Columns.text
  let description ← c.read "description" (some "") Columns.text
  let startDate ← c.read "start_date" none Columns.date
  let endDate ← c.read "end_date" none Columns.date
  let status ← c.read "status" (some "DRAFT") Columns.text
  let conditionType ← c.read "condition_type" none Columns.text
  let autoReward ← c.read "auto_reward" (some false) Columns.flag
  let allowMultiple ← c.read "allow_multiple_participation" (some false) Columns.flag
  let participantCount ← c.read "participant_count" (some 0) Columns.integer
  let maxParticipants ← c.read? "max_participants" Columns.integer
  let createdBy ← c.read "created_by" none Columns.text
  let updatedBy ← c.read? "updated_by" Columns.text
  let createdAt ← c.time "created_at" stamp Columns.date
  let updatedAt ← c.time "updated_at" stamp Columns.date
  return { id, title, description, startDate, endDate, autoReward, allowMultiple, participantCount
           maxParticipants, createdBy, updatedBy, createdAt, updatedAt
           status := Word.ofName status
           conditionType := Word.ofName conditionType
           conditionValue := c.payload "condition_value" .empty }

end Event

namespace Reward

/-- Reads a reward from its columns. -/
def ofColumns (id : Id) (stamp : Instant) (c : Columns) : Except Fault Reward := do
  let eventId ← c.read "event_id" none Columns.identifier
  let name ← c.read "name" none Columns.text
  let description ← c.read? "description" Columns.text
  let type ← c.read "type" none Columns.text
  let value ← c.read "value" none Columns.text
  let totalQuantity ← c.read "total_quantity" (some 0) Columns.integer
  let issuedQuantity ← c.read "issued_quantity" (some 0) Columns.integer
  let expiryDate ← c.read? "expiry_date" Columns.date
  let createdBy ← c.read "created_by" none Columns.text
  let updatedBy ← c.read? "updated_by" Columns.text
  let createdAt ← c.time "created_at" stamp Columns.date
  let updatedAt ← c.time "updated_at" stamp Columns.date
  return { id, eventId, name, description, value, totalQuantity, issuedQuantity, expiryDate
           createdBy, updatedBy, createdAt, updatedAt
           type := Word.ofName type
           metadata := c.payload "meta" .null }

end Reward

namespace Participation

/-- The columns of a participation. -/
def columns (p : Participation) : Json :=
  .obj (p.members ++ [("dedupe_key", .ofText? p.dedupeKey)])

/-- Reads a participation from its columns. -/
def ofColumns (id : Id) (stamp : Instant) (c : Columns) : Except Fault Participation := do
  let userId ← c.read "user_id" none Columns.text
  let eventId ← c.read "event_id" none Columns.identifier
  let status ← c.read "status" (some "PARTICIPATED") Columns.text
  let participatedAt ← c.read "participated_at" (some stamp) Columns.date
  let isRewardRequested ← c.read "is_reward_requested" (some false) Columns.flag
  let rewardRequestedAt ← c.read? "reward_requested_at" Columns.date
  let rewardRequestId ← c.read? "reward_request_id" Columns.identifier
  let rewardedAt ← c.read? "rewarded_at" Columns.date
  let participationCount ← c.read "participation_count" (some 1) Columns.integer
  let dedupeKey ← c.read? "dedupe_key" Columns.text
  return { id, userId, eventId, participatedAt, isRewardRequested, rewardRequestedAt
           rewardRequestId, rewardedAt, participationCount, dedupeKey
           status := Word.ofName status
           verificationData := c.payload "verification_data" .null
           additionalData := c.payload "additional_data" .null }

end Participation

namespace RewardRequest

/-- The columns of a request. -/
def columns (q : RewardRequest) : Json :=
  .obj (q.members q.rewardIds ++ [("updated_at", .ofInstant? q.updatedAt)])

/-- Reads a request from its columns. -/
def ofColumns (id : Id) (stamp : Instant) (c : Columns) : Except Fault RewardRequest := do
  let userId ← c.read "user_id" none Columns.text
  let eventId ← c.read "event_id" none Columns.identifier
  let status ← c.read "status" (some "PENDING") Columns.text
  let requestedAt ← c.read "requested_at" (some stamp) Columns.date
  let approvedAt ← c.read? "approved_at" Columns.date
  let issuedAt ← c.read? "issued_at" Columns.date
  let rejectedReason ← c.read? "rejected_reason" Columns.text
  let processedBy ← c.read? "processed_by" Columns.text
  let updatedAt ← c.time "updated_at" stamp Columns.date
  return { id, userId, eventId, requestedAt, approvedAt, issuedAt, rejectedReason
           processedBy, updatedAt
           rewardIds := c.payload "reward_ids" (.arr [])
           status := Word.ofName status
           verificationData := c.payload "verification_data" .null }

end RewardRequest

namespace Claim

/-- The columns of a claim. -/
def columns (claim : Claim) : Json :=
  .obj
    [("request_id", .str claim.requestId.text), ("event_id", .str claim.eventId.text),
      ("user_id", .str claim.userId), ("reward_id", .str claim.rewardId.text),
      ("created_at", .str claim.createdAt.iso)]

/-- Reads a claim from its columns. -/
def ofColumns (stamp : Instant) (c : Columns) : Except Fault Claim := do
  let requestId ← c.read "request_id" none Columns.identifier
  let eventId ← c.read "event_id" none Columns.identifier
  let userId ← c.read "user_id" none Columns.text
  let rewardId ← c.read "reward_id" none Columns.identifier
  let createdAt ← c.read "created_at" (some stamp) Columns.date
  return { requestId, eventId, userId, rewardId, createdAt }

end Claim

namespace Grant

/-- Reads a grant from its columns. -/
def ofColumns (id : Id) (stamp : Instant) (c : Columns) : Except Fault Grant := do
  let userId ← c.read "user_id" none Columns.text
  let eventId ← c.read "event_id" none Columns.identifier
  let rewardId ← c.read "reward_id" none Columns.identifier
  let requestId ← c.read "request_id" none Columns.identifier
  let name ← c.read "name" none Columns.text
  let description ← c.read? "description" Columns.text
  let type ← c.read "type" none Columns.text
  let value ← c.read "value" none Columns.text
  let status ← c.read "status" (some "ACTIVE") Columns.text
  let issuedAt ← c.time "issued_at" stamp Columns.date
  let expiryDate ← c.read? "expiry_date" Columns.date
  let usedAt ← c.read? "used_at" Columns.date
  return { id, userId, eventId, rewardId, requestId, name, description, value, issuedAt
           expiryDate, usedAt
           type := Word.ofName type
           metadata := c.payload "meta" .null
           status := Word.ofName status }

end Grant

namespace LogEntry

/-- Reads a journal entry from its columns. -/
def ofColumns (id : Id) (stamp : Instant) (c : Columns) : Except Fault LogEntry := do
  let logType ← c.read "log_type" none Columns.text
  let actor ← c.read "actor_user_id" none Columns.text
  let eventId ← c.read? "event_id" Columns.identifier
  let rewardId ← c.read? "reward_id" Columns.identifier
  let requestId ← c.read? "request_id" Columns.identifier
  let createdAt ← c.time "created_at" stamp Columns.date
  return { id, actor, eventId, rewardId, requestId, createdAt
           logType := Word.ofName logType
           details := c.payload "details" .null }

end LogEntry

end Promotions
