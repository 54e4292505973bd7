import Promotions.Store.Database
import Promotions.Failure

/-!
# How rows are shown

Each kind of row is shown as a JSON object: `view` builds it, and `issues` lists what in the row
does not have the shape of that object, which can only be something in a row written by hand.
`shown` is the view of a row without issues, if its payloads are low enough to be written out. A
view holds the columns of a row, but has null in its payloads for a double that is no number.
-/

namespace Promotions

namespace Json

/-- An instant in ISO form, or null. -/
def ofInstant? : Option Instant → Json
  | some t => .str t.iso
  | none => .null

/-- The text of an identifier, or null. -/
def ofId? : Option Id → Json
  | some id => .str id.text
  | none => .null

/-- A stored integer, or null. -/
def ofInt? : Option Int → Json
  | some n => ofStored n
  | none => .null

/-- The issue of a payload that is to be an object or null. -/
def payloadIssues (name : String) (payload : Json) : List Issue :=
  if payload.isObjectOrNull then [] else [⟨[name], .notObject⟩]

end Json

/-- A view of a row without issues, whose payloads are low enough. -/
def showable (issues : List Issue) (payloads : List Json) (view : Json) : Except Fault Json :=
  if !issues.isEmpty then .error (.unshowable issues)
  else if payloads.all Json.isShallow then .ok view
  else .error .unwritable

namespace Event

/-- The columns of an event. -/
def columns (e : Event) : Json :=
  .obj
    [("id", .str e.id.text), ("title", .str e.title), ("description", .str e.description),
      ("start_date", .str e.startDate.iso), ("end_date", .str e.endDate.iso),
      ("status", .str e.status.name), ("condition_type", .str e.conditionType.name),
      ("condition_value", e.conditionValue), ("auto_reward", .bool e.autoReward),
      ("allow_multiple_participation", .bool e.allowMultiple),
      ("participant_count", .ofStored e.participantCount),
      ("max_participants", .ofInt? e.maxParticipants), ("created_by", .str e.createdBy),
      ("updated_by", .ofText? e.updatedBy), ("created_at", .ofInstant? e.createdAt),
      ("updated_at", .ofInstant? e.updatedAt)]

/-- An event as an object. -/
def view (e : Event) : Json := { e with conditionValue := e.conditionValue.finite }.columns

/-- The condition's value has to be an object, and the number of participants has to fit into 64
bits. -/
def issues (e : Event) : List Issue :=
  (if e.conditionValue.isObject then [] else [⟨["condition_value"], .notObject⟩]) ++
    if fits64 e.participantCount then [] else [⟨["participant_count"], .oversizedInteger⟩]

/-- The event as it is shown. -/
def shown (e : Event) : Except Fault Json := showable e.issues [e.conditionValue] e.view

end Event

namespace Reward

/-- The columns of a reward; `metadata` is the name of the free-form column. -/
def columns (metadata : String) (r : Reward) : Json :=
  .obj
    [("id", .str r.id.text), ("event_id", .str r.eventId.text), ("name", .str r.name),
      ("description", .ofText? r.description), ("type", .str r.type.name),
      ("value", .str r.value), (metadata, r.metadata),
      ("total_quantity", .int r.totalQuantity), ("issued_quantity", .int r.issuedQuantity),
      ("expiry_date", .ofInstant? r.expiryDate), ("created_by", .str r.createdBy),
      ("updated_by", .ofText? r.updatedBy), ("created_at", .ofInstant? r.createdAt),
      ("updated_at", .ofInstant? r.updatedAt)]

/-- A reward as an object. -/
def view (r : Reward) : Json := { r with metadata := r.metadata.finite }.columns "metadata"

/-- The metadata has to be an object or absent. -/
def issues (r : Reward) : List Issue := Json.payloadIssues "meta" r.metadata

/-- The reward as it is shown. -/
def shown (r : Reward) : Except Fault Json := showable r.issues [r.metadata] r.view

end Reward

namespace Participation

/-- The columns of a participation, all but its key. -/
def members (p : Participation) : List (String × Json) :=
  [("id", .str p.id.text), ("user_id", .str p.userId), ("event_id", .str p.eventId.text),
    ("status", .str p.status.name), ("participated_at", .str p.participatedAt.iso),
    ("verification_data", p.verificationData), ("additional_data", p.additionalData),
    ("is_reward_requested", .bool p.isRewardRequested),
    ("reward_requested_at", .ofInstant? p.rewardRequestedAt),
    ("reward_request_id", .ofId? p.rewardRequestId), ("rewarded_at", .ofInstant? p.rewardedAt),
    ("participation_count", .int p.participationCount)]

/-- A participation as an object, without its key. -/
def view (p : Participation) : Json :=
  .obj { p with
    verificationData := p.verificationData.finite
    additionalData := p.additionalData.finite }.members

/-- Both payloads have to be objects or absent. -/
def issues (p : Participation) : List Issue :=
  Json.payloadIssues "verification_data" p.verificationData ++
    Json.payloadIssues "additional_data" p.additionalData

/-- The participation as it is shown. -/
def shown (p : Participation) : Except Fault Json :=
  showable p.issues [p.verificationData, p.additionalData] p.view

end Participation

namespace RewardRequest

/-- The items of a wanted list: its parts, and none if it counts as no value. -/
def itemsOf (list : Json) : Except Fault (List Json) :=
  match list.parts? with
  | some parts => .ok parts
  | none => if list.truthy then .error .badWanted else .ok []

/-- The items of the wanted list of a request. -/
def items (q : RewardRequest) : Except Fault (List Json) := itemsOf q.rewardIds

/-- The identifier that a stored item spells. -/
def itemId (item : Json) : Except Fault Id :=
  match Id.ofJson item with
  | .ok id => .ok id
  | .error fault => .error (.badId fault)

/-- The identifiers of the wanted rewards, if every item is one. -/
def wanted (q : RewardRequest) : Except Fault (List Id) :=
  match q.items with
  | .ok items => items.mapM itemId
  | .error fault => .error fault

/-- The identifier of the first wanted reward; there is none in an empty list. -/
def firstReward (q : RewardRequest) : Except Fault (Option Id) :=
  match q.rewardIds, q.items with
  | .obj (_ :: _), _ => .error .unorderedWanted
  | _, .error fault => .error fault
  | _, .ok [] => .ok none
  | _, .ok (first :: _) => (itemId first).map some

/-- A stored item is shown as the identifier that it spells. -/
def shownId : Json → Except IssueKind Json
  | .str text =>
    match Id.read? text with
    | some id => .ok (.str id.text)
    | none => .error .malformedId
  | _ => .error .notId

/-- The issues of stored items, the first of which has number `index`. -/
def itemIssues : Nat → List Json → List Issue
  | _, [] => []
  | index, item :: rest =>
    (match shownId item with
      | .ok _ => []
      | .error kind => [⟨["reward_ids", toString index], kind⟩]) ++ itemIssues (index + 1) rest

/-- The issues of the wanted list. -/
def wantedIssues : Json → List Issue
  | .arr items => itemIssues 0 items
  | _ => [⟨["reward_ids"], .notList⟩]

/-- The wanted list as it is shown; an item that is no identifier is left out. -/
def shownWanted : Json → Json
  | .arr items => .arr (items.filterMap fun item => (shownId item).toOption)
  | value => value

/-- The columns of a request, with its wanted list given and without its last change. -/
def members (rewardIds : Json) (q : RewardRequest) : List (String × Json) :=
  [("id", .str q.id.text), ("user_id", .str q.userId), ("event_id", .str q.eventId.text),
    ("reward_ids", rewardIds), ("status", .str q.status.name),
    ("verification_data", q.verificationData), ("requested_at", .str q.requestedAt.iso),
    ("approved_at", .ofInstant? q.approvedAt), ("issued_at", .ofInstant? q.issuedAt),
    ("rejected_reason", .ofText? q.rejectedReason), ("processed_by", .ofText? q.processedBy)]

/-- A request as an object. -/
def view (q : RewardRequest) : Json :=
  .obj ({ q with verificationData := q.verificationData.finite }.members (shownWanted q.rewardIds))

/-- The wanted list has to be a list of identifiers, and the payload an object or absent. -/
def issues (q : RewardRequest) : List Issue :=
  wantedIssues q.rewardIds ++ Json.payloadIssues "verification_data" q.verificationData

/-- The request as it is shown. -/
def shown (q : RewardRequest) : Except Fault Json := showable q.issues [q.verificationData] q.view

end RewardRequest

namespace Grant

/-- The columns of a grant; `metadata` is the name of the free-form column. -/
def columns (metadata : String) (g : Grant) : Json :=
  .obj
    [("id", .str g.id.text), ("user_id", .str g.userId), ("event_id", .str g.eventId.text),
      ("reward_id", .str g.rewardId.text), ("request_id", .str g.requestId.text),
      ("name", .str g.name), ("description", .ofText? g.description), ("type", .str g.type.name),
      ("value", .str g.value), (metadata, g.metadata), ("status", .str g.status.name),
      ("issued_at", .ofInstant? g.issuedAt), ("expiry_date", .ofInstant? g.expiryDate),
      ("used_at", .ofInstant? g.usedAt)]

/-- A grant as an object. -/
def view (g : Grant) : Json := { g with metadata := g.metadata.finite }.columns "metadata"

/-- The metadata has to be an object or absent. -/
def issues (g : Grant) : List Issue := Json.payloadIssues "meta" g.metadata

/-- The grant as it is shown. -/
def shown (g : Grant) : Except Fault Json := showable g.issues [g.metadata] g.view

end Grant

namespace LogEntry

/-- The columns of a journal entry. -/
def columns (l : LogEntry) : Json :=
  .obj
    [("id", .str l.id.text), ("log_type", .str l.logType.name), ("actor_user_id", .str l.actor),
      ("event_id", .ofId? l.eventId), ("reward_id", .ofId? l.rewardId),
      ("request_id", .ofId? l.requestId), ("details", l.details),
      ("created_at", .ofInstant? l.createdAt)]

/-- A journal entry as an object. -/
def view (l : LogEntry) : Json := { l with details := l.details.finite }.columns

/-- The details have to be an object or absent. -/
def issues (l : LogEntry) : List Issue := Json.payloadIssues "details" l.details

/-- The identifiers that an entry names. -/
def named (l : LogEntry) : List (Option Id) := [l.eventId, l.rewardId, l.requestId]

/-- The entry as it is shown. It may name whatever it was told to, and is lost for reading if the
store has taken one of its identifiers for a number. -/
def shown (l : LogEntry) : Except Fault Json :=
  if l.named.all Id.isReadable then showable l.issues [l.details] l.view
  else .error .unreadableId

end LogEntry

end Promotions
