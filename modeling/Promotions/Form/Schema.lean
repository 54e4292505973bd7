import Promotions.Form.Event
import Promotions.Form.Reward
import Promotions.Form.Request

/-!
# Schemas by name

Every form and every shown row has a schema: the names of its fields, and a reading that gives the
content of all of them, as JSON. `Schema.validate` reads a value against the schema of a name and
also tells which fields were given. The schemas of proofs keep members that are not fields.
-/

namespace Promotions

/-- The shape of a form or of a shown row. -/
structure Schema where
  name : String
  /-- The fields, each with the members that it may be given by. -/
  fields : List (String × List String)
  check : List (String × Json) → Checked (List (String × Json))
  keepsUnknown : Bool := false
  /-- What is wrong with a value that is no object. -/
  notObject : IssueKind := .notForm name

namespace Schema

open FormField

variable {α : Type}

/-! ### Contents as JSON -/

/-- A date as it was given. -/
def ofDate (t : Timestamp) : Json := .str t.iso

/-- A content, or null. -/
def ofOption (content : α → Json) : Option α → Json
  | some value => content value
  | none => .null

/-- A content that is set, or null. -/
def ofEdit (content : α → Json) (edit : Edit α) : Json := ofOption content edit.value?

/-- The fields of a new event. -/
def ofEventDraft (d : EventDraft) : List (String × Json) :=
  [("title", .str d.title), ("description", .str d.description), ("start_date", ofDate d.startDate),
    ("end_date", ofDate d.endDate), ("status", .str d.status.name),
    ("condition_type", .str d.conditionType.name), ("condition_value", d.conditionValue),
    ("auto_reward", .bool d.autoReward), ("allow_multiple_participation", .bool d.allowMultiple),
    ("max_participants", ofOption .int d.maxParticipants)]

/-- The fields of changes to an event. -/
def ofEventPatch (p : EventPatch) : List (String × Json) :=
  [("title", ofEdit .str p.title), ("description", ofEdit .str p.description),
    ("start_date", ofEdit ofDate p.startDate), ("end_date", ofEdit ofDate p.endDate),
    ("status", ofEdit (.str ·.name) p.status),
    ("condition_type", ofEdit (.str ·.name) p.conditionType),
    ("condition_value", ofEdit id p.conditionValue), ("auto_reward", ofEdit .bool p.autoReward),
    ("allow_multiple_participation", ofEdit .bool p.allowMultiple),
    ("max_participants", ofEdit .int p.maxParticipants)]

/-- The fields of a new reward. -/
def ofRewardDraft (d : RewardDraft) : List (String × Json) :=
  [("event_id", .str d.eventId.text), ("name", .str d.name),
    ("description", .ofText? d.description), ("type", .str d.type.name), ("value", .str d.value),
    ("metadata", ofOption id d.metadata), ("total_quantity", .int d.totalQuantity),
    ("expiry_date", ofOption ofDate d.expiryDate)]

/-- The fields of changes to a reward. -/
def ofRewardPatch (p : RewardPatch) : List (String × Json) :=
  [("name", ofEdit .str p.name), ("description", ofEdit .str p.description),
    ("type", ofEdit (.str ·.name) p.type), ("value", ofEdit .str p.value),
    ("metadata", ofEdit id p.metadata), ("total_quantity", ofEdit .int p.totalQuantity),
    ("expiry_date", ofEdit ofDate p.expiryDate)]

/-- The fields of a participation. -/
def ofParticipationForm (f : ParticipationForm) : List (String × Json) :=
  [("event_id", .str f.eventId.text), ("verification_data", ofOption id f.verificationData),
    ("additional_data", ofOption id f.additionalData)]

/-- The fields of a request for rewards. -/
def ofRequestForm (f : RequestForm) : List (String × Json) :=
  [("event_id", .str f.eventId.text), ("reward_ids", .arr (f.rewardIds.map (.str ·.text))),
    ("verification_data", ofOption id f.verificationData)]

/-- The fields of a decision on a request. -/
def ofRequestDecision (d : RequestDecision) : List (String × Json) :=
  [("status", .str d.status.name), ("rejected_reason", .ofText? d.rejectedReason)]

/-- The fields of a filter of events. -/
def ofEventFilter (f : EventFilter) : List (String × Json) :=
  [("status", .ofText? f.status), ("condition_type", .ofText? f.conditionType)]

/-- The fields of a filter of requests. -/
def ofRequestFilter (f : RequestFilter) : List (String × Json) :=
  [("status", .ofText? f.status), ("event_id", ofOption (.str ·.text) f.eventId),
    ("user_id", .ofText? f.userId)]

/-! ### Schemas of forms -/

/-- The schema of a form, with the names of its fields. -/
def form (name : String) (fields : List String) (read : List (String × Json) → Checked α)
    (contents : α → List (String × Json)) : Schema :=
  { name, fields := fields.map fun field => (field, [field])
    check := fun given => (read given).map contents }

/-- One field that has to be given. -/
def single (field : String) (read : Json → Checked Json) (given : List (String × Json)) :
    Checked (List (String × Json)) :=
  (required field read given).map fun content => [(field, content)]

/-- An identifier, as its canonical text. -/
def idText (value : Json) : Checked Json := (identifier value).map (.str ·.text)

/-- A text that is not empty. -/
def nameText (value : Json) : Checked Json := (someText value).map .str

/-- A schema with one more field at its end. -/
def extended (name : String) (base : Schema) (field : String) (read : Json → Checked Json) :
    Schema :=
  { name, fields := base.fields ++ [(field, [field])]
    check := fun given =>
      ((base.check given).both (single field read given)).map fun (contents, more) =>
        contents ++ more }

/-- The schema without fields. -/
def nothing : Schema := { name := "", fields := [], check := fun _ => .ok [] }

/-- New events. -/
def newEvent : Schema :=
  form "EventCreate" ["title", "description", "start_date", "end_date", "status", "condition_type",
    "condition_value", "auto_reward", "allow_multiple_participation", "max_participants"]
    EventDraft.read ofEventDraft

/-- Changes to events. -/
def eventChanges : Schema :=
  form "EventUpdate" ["title", "description", "start_date", "end_date", "status", "condition_type",
    "condition_value", "auto_reward", "allow_multiple_participation", "max_participants"]
    EventPatch.read ofEventPatch

/-- New rewards. -/
def newReward : Schema :=
  form "RewardCreate" ["event_id", "name", "description", "type", "value", "metadata",
    "total_quantity", "expiry_date"] RewardDraft.read ofRewardDraft

/-- Changes to rewards. -/
def rewardChanges : Schema :=
  form "RewardUpdate" ["name", "description", "type", "value", "metadata", "total_quantity",
    "expiry_date"] RewardPatch.read ofRewardPatch

/-- Participations. -/
def newParticipation : Schema :=
  form "ParticipationCreate" ["event_id", "verification_data", "additional_data"]
    ParticipationForm.read ofParticipationForm

/-- Requests for rewards. -/
def newRequest : Schema :=
  form "RewardRequestCreate" ["event_id", "reward_ids", "verification_data"] RequestForm.read
    ofRequestForm

/-- Decisions on requests. -/
def requestDecision : Schema :=
  form "RewardRequestUpdate" ["status", "rejected_reason"] RequestDecision.read ofRequestDecision

/-- Commands. -/
def command : Schema :=
  form "CommandIn" ["cmd", "payload"]
    (fun given => (required "cmd" text given).both (withDefault "payload" .empty object given))
    fun (name, payload) => [("cmd", .str name), ("payload", payload)]

/-- Proofs in general. -/
def proof : Schema :=
  { name := "VerificationData", fields := [], check := fun _ => .ok [], keepsUnknown := true }

/-- The proof of a purchase: its identifier counts as a value. -/
def purchaseProof : Schema :=
  { name := "PurchaseVerification", fields := [("purchaseId", ["purchaseId"])]
    check := single "purchaseId" fun value =>
      if value.truthy then .ok value else .fail .purchaseMissing
    keepsUnknown := true }

/-- The proof of invitations: some user was invited. -/
def invitationProof : Schema :=
  { name := "InviteFriendsVerification", fields := [("invitedUsers", ["invitedUsers"])]
    check := single "invitedUsers" fun value => (someList value).map .arr
    keepsUnknown := true }

/-! ### Schemas of shown rows -/

/-- The double that a text writes, between blanks or with underscores between its characters. -/
def numberText (text : String) : Checked Json :=
  let chars := text.toList
  match Double.ofText? (Text.stripped Text.isWhiteSpace chars) with
  | some value => .ok (.double value)
  | none =>
    match (Text.withoutUnderscores? chars).bind Double.ofText? with
    | some value => .ok (.double value)
    | none => .fail .unclearNumber

/-- A double from a number, a boolean or a text that writes a number. An integer has to be small
enough for one. -/
def number : Json → Checked Json
  | .double value => .ok (.double value)
  | .int value =>
    let nearest := Double.ofInt value
    if nearest.isFinite then .ok (.double nearest) else .fail .notNumber
  | .bool value => .ok (.double (.share (if value then 1 else 0) 1))
  | .str value => numberText value
  | _ => .fail .notNumber

/-- The members of an object of integers. -/
def countsFrom : List (String × Json) → Checked (List (String × Json))
  | [] => .ok []
  | (name, value) :: rest =>
    ((((integer value).under name).map fun n => (name, Json.int n)).map List.cons).ap
      (countsFrom rest)

/-- An object of integers. -/
def counts : Json → Checked Json
  | .obj members => (countsFrom members).map .obj
  | _ => .fail .notObject

/-- A field of a shown row: its name, the members that it may be given by, and its default. -/
structure ShownField where
  name : String
  members : List String := [name]
  default? : Option Json := none
  read : Json → Checked Json

namespace ShownField

/-- The first member that the field is given by, and its value. -/
def given? (field : ShownField) (given : List (String × Json)) : Option (String × Json) :=
  field.members.findSome? fun member => (Json.lookup member given).map (member, ·)

/-- The content of a field. -/
def content (field : ShownField) (given : List (String × Json)) : Checked (String × Json) :=
  match field.given? given with
  | some (member, value) => ((field.read value).under member).map (field.name, ·)
  | none =>
    match field.default? with
    | some value => .ok (field.name, value)
    | none => .error [⟨[field.members.headD field.name], .missing⟩]

end ShownField

/-- The schema of a shown row. -/
def row (name : String) (fields : List ShownField) : Schema :=
  { name, fields := fields.map fun field => (field.name, field.members)
    check := fun given => fields.foldr (fun field rest =>
      ((field.content given).map List.cons).ap rest) (.ok [])
    notObject := .notFields }

/-- A field that has to be given. -/
def has (name : String) (read : Json → Checked Json) : ShownField := { name, read }

/-- A field that may be absent or null. -/
def may (name : String) (read : Json → Checked Json) : ShownField :=
  { name, default? := some .null
    read := fun value => (nullable read value).map (·.getD .null) }

/-- A text. -/
def anyText (value : Json) : Checked Json := (text value).map .str

/-- A date. -/
def anyDate (value : Json) : Checked Json := (timestamp value).map ofDate

/-- A boolean. -/
def anyFlag (value : Json) : Checked Json := (flag value).map .bool

/-- An integer. -/
def anyInteger (value : Json) : Checked Json := (integer value).map .int

/-- Shown events. -/
def shownEvent : Schema :=
  row "EventOut"
    [has "id" idText, has "title" anyText, has "description" anyText, has "start_date" anyDate,
      has "end_date" anyDate, has "status" anyText, has "condition_type" anyText,
      { name := "condition_value", default? := some .empty, read := object },
      has "auto_reward" anyFlag, has "allow_multiple_participation" anyFlag,
      has "participant_count" anyInteger, may "max_participants" anyInteger,
      has "created_by" anyText, may "updated_by" anyText, may "created_at" anyDate,
      may "updated_at" anyDate]

/-- Shown participations. -/
def shownParticipation : Schema :=
  row "ParticipationOut"
    [has "id" idText, has "user_id" anyText, has "event_id" idText, has "status" anyText,
      has "participated_at" anyDate, may "verification_data" object, may "additional_data" object,
      has "is_reward_requested" anyFlag, may "reward_requested_at" anyDate,
      may "reward_request_id" idText, may "rewarded_at" anyDate,
      has "participation_count" anyInteger]

/-- Shown statistics. -/
def shownStatistics : Schema :=
  { row "ParticipationStatsOut"
      [has "total_participations" anyInteger, has "unique_participants" anyInteger,
        { name := "participations_by_day", default? := some .empty, read := counts },
        has "reward_request_rate" number, has "success_rate" number] with
    notObject := .notForm "ParticipationStatsOut" }

/-- Shown rewards. -/
def shownReward : Schema :=
  row "RewardOut"
    [has "id" idText, has "event_id" idText, has "name" anyText, may "description" anyText,
      has "type" anyText, has "value" anyText,
      { may "metadata" object with members := ["meta", "metadata"] },
      has "total_quantity" anyInteger, has "issued_quantity" anyInteger, may "expiry_date" anyDate,
      has "created_by" anyText, may "updated_by" anyText, may "created_at" anyDate,
      may "updated_at" anyDate]

/-- Shown requests. -/
def shownRequest : Schema :=
  row "RewardRequestOut"
    [has "id" idText, has "user_id" anyText, has "event_id" idText,
      has "reward_ids" fun value => (list idText value).map .arr, has "status" anyText,
      may "verification_data" object, has "requested_at" anyDate, may "approved_at" anyDate,
      may "issued_at" anyDate, may "rejected_reason" anyText, may "processed_by" anyText]

/-! ### The register -/

/-- All schemas. -/
def all : List Schema :=
  [command,
    extended "CreateEventCommand" newEvent "user_id" nameText,
    extended "UpdateEventCommand" (extended "" eventChanges "id" idText) "user_id" nameText,
    form "EventFilterCommand" ["status", "condition_type"] EventFilter.read ofEventFilter,
    extended "IdCommand" nothing "id" idText,
    extended "EventIdCommand" nothing "event_id" idText,
    extended "UserIdCommand" nothing "user_id" nameText,
    extended "CreateRewardCommand" newReward "user_id" nameText,
    extended "UpdateRewardCommand" (extended "" rewardChanges "id" idText) "user_id" nameText,
    extended "CreateParticipationCommand" newParticipation "user_id" nameText,
    extended "CreateRewardRequestCommand" newRequest "user_id" nameText,
    extended "UpdateRewardRequestCommand" (extended "" requestDecision "id" idText) "operator_id"
      nameText,
    form "RewardRequestFilterCommand" ["status", "event_id", "user_id"] RequestFilter.read
      ofRequestFilter,
    newEvent, eventChanges, shownEvent, newParticipation, shownParticipation, shownStatistics,
    newReward, rewardChanges, shownReward, newRequest, requestDecision, shownRequest,
    proof, purchaseProof, invitationProof]

/-- The schema of a name. -/
def find? (name : String) : Option Schema := all.find? fun schema => schema.name = name

/-- The contents of all fields, followed by the members that the schema keeps, and the names of
those that were given, in alphabetical order. -/
def validate (schema : Schema) (value : Json) :
    Checked (List (String × Json) × List String) :=
  match value with
  | .obj given =>
    let unknown := if schema.keepsUnknown then
        given.filter fun (name, _) => !schema.fields.any fun field => field.2.contains name
      else []
    let names := schema.fields.filterMap fun (field, members) =>
      if members.any fun member => (Json.lookup member given).isSome then some field else none
    (schema.check given).map fun contents =>
      (contents ++ unknown, (names ++ unknown.map Prod.fst).mergeSort fun a b => a ≤ b)
  | _ => .fail schema.notObject

end Schema

end Promotions
