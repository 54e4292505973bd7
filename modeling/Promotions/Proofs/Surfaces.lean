import Promotions.Proofs.Answers
import Promotions.Proofs.Presenting

/-!
# Two surfaces for one change

Seven verbs of commands write, and each has an endpoint of the web that does the same: the body of
the web request is the payload of the command, but for the caller and the identifier of the row,
which the one has in a header and in the path, the other among its members (`WritingVerb`).

The fields are read in the same way on both surfaces, although a command checks some of them twice,
so both ask for the same action (`WritingVerb.asked?_request`). What they answer agrees, too: both
succeed and write the same, or both fail in the same way and write nothing (`surfaces_agree`). They
differ in how a row is shown that cannot be shown. There are two kinds of such rows: a request with
a payload that is too high to be written out, which has then been stored, and an event with more
participants than an integer of 64 bits counts.

The body of a command lies one level deeper in its text than that of the endpoint, so that a server
may be able to read the one and not the other. The surfaces are compared where it can read both, or
neither (`Web.Limits.take`).
-/

namespace Promotions

/-! ### Members that are set -/

namespace Json

@[simp]
theorem lookup_assign_self (name : String) (value : Json) (members : List (String × Json)) :
    lookup name (assign name value members) = some value := by
  induction members with
  | nil => simp [assign, lookup]
  | cons member rest ih =>
    obtain ⟨key, old⟩ := member
    by_cases hkey : key = name
    · simp [assign, lookup, hkey]
    · simp [assign, lookup, hkey, ih]

theorem lookup_assign_of_ne {name other : String} (hne : other ≠ name) (value : Json)
    (members : List (String × Json)) :
    lookup other (assign name value members) = lookup other members := by
  induction members with
  | nil => simp [assign, lookup, hne.symm]
  | cons member rest ih =>
    obtain ⟨key, old⟩ := member
    by_cases hkey : key = name
    · simp [assign, lookup, hkey, hne.symm]
    · simp [assign, lookup, hkey, ih]

end Json

open FormField

/-- The members of a payload that are no fields of the thing in question. -/
def identityFields : List String := ["id", "user_id", "operator_id"]

section Identity
variable {name : String} (hname : name ∈ identityFields) (value : Json) (form : List (String × Json))
include hname

section Fields
variable {α : Type} {field : String} (hfield : field ∉ identityFields) (read : Json → Checked α)
include hfield

theorem lookup_assign_identity :
    Json.lookup field (Json.assign name value form) = Json.lookup field form :=
  Json.lookup_assign_of_ne (fun heq => hfield (by rwa [heq])) value form

theorem required_assign :
    required field read (Json.assign name value form) = required field read form := by
  simp only [required, lookup_assign_identity hname value form hfield]

theorem withDefault_assign (default : α) :
    withDefault field default read (Json.assign name value form) =
      withDefault field default read form := by
  simp only [withDefault, lookup_assign_identity hname value form hfield]

theorem optional_assign :
    FormField.optional field read (Json.assign name value form) =
      FormField.optional field read form :=
  withDefault_assign hname value form hfield (nullable read) none

theorem edit_assign : edit field read (Json.assign name value form) = edit field read form := by
  simp only [edit, lookup_assign_identity hname value form hfield]

end Fields

theorem EventDraft.read_assign : read (Json.assign name value form) = read form := by
  simp (disch := decide) only [read, required_assign hname, withDefault_assign hname,
    optional_assign hname]

theorem EventPatch.read_assign : read (Json.assign name value form) = read form := by
  simp (disch := decide) only [read, edit_assign hname]

theorem RewardDraft.read_assign : read (Json.assign name value form) = read form := by
  simp (disch := decide) only [read, required_assign hname, optional_assign hname]

theorem RewardPatch.read_assign : read (Json.assign name value form) = read form := by
  simp (disch := decide) only [read, edit_assign hname]

theorem ParticipationForm.read_assign : read (Json.assign name value form) = read form := by
  simp (disch := decide) only [read, required_assign hname, optional_assign hname]

theorem RequestForm.read_assign : read (Json.assign name value form) = read form := by
  simp (disch := decide) only [read, required_assign hname, optional_assign hname]

theorem RequestDecision.read_assign : read (Json.assign name value form) = read form := by
  simp (disch := decide) only [read, required_assign hname, optional_assign hname]

end Identity

/-! ### The verbs that write -/

/-- A verb of commands that writes. A change is made to the row of an identifier. -/
inductive WritingVerb where
  | createEvent
  | updateEvent (id : String)
  | createReward
  | updateReward (id : String)
  | createParticipation
  | createRequest
  | updateRequest (id : String)

namespace WritingVerb

/-- The name of a verb among the commands. -/
def name : WritingVerb → String
  | createEvent => "create_event"
  | updateEvent _ => "update_event"
  | createReward => "create_reward"
  | updateReward _ => "update_reward"
  | createParticipation => "create_participation"
  | createRequest => "create_reward_request"
  | updateRequest _ => "update_reward_request"

/-- The identifier of the row that is changed. -/
def id? : WritingVerb → Option String
  | updateEvent id | updateReward id | updateRequest id => some id
  | createEvent | createReward | createParticipation | createRequest => none

/-- The member of the payload that names the caller. -/
def callerField : WritingVerb → String
  | updateRequest _ => "operator_id"
  | _ => "user_id"

/-- The endpoint that does the same as a verb. -/
def endpoint : WritingVerb → Endpoint
  | createEvent => .createEvent
  | updateEvent id => .patchEvent id
  | createReward => .createReward
  | updateReward id => .patchReward id
  | createParticipation => .createParticipation
  | createRequest => .createRequest
  | updateRequest id => .patchRequest id

/-- The method of the endpoint. -/
def method (verb : WritingVerb) : String := if verb.id?.isSome then "PATCH" else "POST"

/-- The path of the endpoint. -/
def path : WritingVerb → List String
  | createEvent => ["events"]
  | updateEvent id => ["events", id]
  | createReward => ["rewards"]
  | updateReward id => ["rewards", id]
  | createParticipation => ["participations"]
  | createRequest => ["reward-requests"]
  | updateRequest id => ["reward-requests", id]

/-- The status with which the endpoint succeeds. -/
def status (verb : WritingVerb) : Nat := if verb.id?.isSome then 200 else 201

/-- The web request to the endpoint. -/
def request (verb : WritingVerb) (caller : String) (body : List (String × Json)) : Web.Request :=
  { method := verb.method, path := verb.path, user := some caller, body := some (.obj body) }

/-- The payload of the command: the same body, with the caller and the identifier. -/
def payload (verb : WritingVerb) (caller : String) (body : List (String × Json)) :
    List (String × Json) :=
  let named := Json.assign verb.callerField (.str caller) body
  match verb.id? with
  | some id => Json.assign "id" (.str id) named
  | none => named

/-- The web request that brings the command. -/
def command (verb : WritingVerb) (caller : String) (body : List (String × Json)) : Web.Request :=
  { method := "POST", path := ["commands"]
    body := some
      (.obj [("cmd", .str verb.name), ("payload", .obj (verb.payload caller body))]) }

end WritingVerb

/-! ### Finding the endpoints -/

namespace Endpoint

theorem fst_ne_patch_of_mem_endingInWord {path : List String} {found : String × Endpoint}
    (h : found ∈ endingInWord path) : found.1 ≠ "PATCH" := by
  unfold endingInWord at h
  split at h <;> simp only [List.mem_cons, List.not_mem_nil, or_false] at h
  all_goals rcases h with rfl | rfl <;> simp

/-- What can be patched is found by its identifier, whatever this is spelled like. -/
theorem find_patch {kind id : String} (hkind : kind ≠ "") (hid : id ≠ "") {first patch : Endpoint}
    (h : endingInId [kind, id] = [("GET", first), ("PATCH", patch)]) :
    find "PATCH" [kind, id] = .ok patch := by
  have hpath : ofPath [kind, id] = endingInWord (unbroken [kind, id]) ++
      [("GET", first), ("PATCH", patch)] := by
    unfold ofPath
    rw [if_neg (by simp [hkind.symm, hid.symm]), h]
  have hword : (endingInWord (unbroken [kind, id])).find? (fun found => found.1 = "PATCH") = none :=
    List.find?_eq_none.mpr fun found hfound => by simpa using fst_ne_patch_of_mem_endingInWord hfound
  unfold find
  dsimp only
  rw [hpath, if_neg (by simp), List.find?_append, hword]
  rfl

end Endpoint

namespace WritingVerb

theorem find_endpoint {verb : WritingVerb} (hid : verb.id? ≠ some "") :
    Endpoint.find verb.method verb.path = .ok verb.endpoint := by
  have hne {id : String} (h : some id ≠ some "") : id ≠ "" := fun heq => h (congrArg some heq)
  cases verb with
  | createEvent | createReward | createParticipation | createRequest => rfl
  | updateEvent id | updateReward id | updateRequest id =>
    exact Endpoint.find_patch (by decide) (hne hid) rfl

end WritingVerb

/-! ### Reading on both surfaces -/

/-- A caller as a header names them: something is left of the text, and no blanks are around it. -/
def Web.IsTrimmed (caller : String) : Prop :=
  caller ≠ "" ∧ Text.stripped Text.isBlank caller.toList = caller.toList

theorem Web.caller?_of_isTrimmed {caller : String} (h : IsTrimmed caller) :
    caller? (some caller) = some caller := by
  have hne : caller.toList ≠ [] := fun hnil => h.1 (String.toList_inj.mp (by simpa using hnil))
  simp only [caller?, Option.bind_some, h.2, List.isEmpty_iff, if_neg hne, String.ofList_toList]

/-- **What a verb asks for**: the action that is read from the body alone, in the name of the caller
and for the row of the identifier. -/
def WritingVerb.Asks (caller : String) (body : List (String × Json)) : WritingVerb → Action → Prop
  | .createEvent, action =>
    ∃ draft, EventDraft.read body = .ok draft ∧ action = .createEvent draft caller
  | .updateEvent text, action =>
    ∃ id patch, Id.read? text = some id ∧ EventPatch.read body = .ok patch ∧
      action = .updateEvent id patch caller
  | .createReward, action =>
    ∃ draft, RewardDraft.read body = .ok draft ∧ action = .createReward draft caller
  | .updateReward text, action =>
    ∃ id patch, Id.read? text = some id ∧ RewardPatch.read body = .ok patch ∧
      action = .updateReward id patch caller
  | .createParticipation, action =>
    ∃ form, ParticipationForm.read body = .ok form ∧
      action = .participate form.eventId caller (form.verificationData.getD .null)
        (form.additionalData.getD .null) none
  | .createRequest, action =>
    ∃ form, RequestForm.read body = .ok form ∧
      action = .createRequest form.eventId (form.rewardIds.map .known) caller
        (form.verificationData.getD .null) none none
  | .updateRequest text, action =>
    ∃ id decision, Id.read? text = some id ∧ RequestDecision.read body = .ok decision ∧
      action = .transition id decision.status (some caller) decision.rejectedReason none

namespace WritingVerb

variable {verb : WritingVerb} {caller : String} {body : List (String × Json)}

theorem Asks.writing {action : Action} (h : verb.Asks caller body action) : action.Writing := by
  cases verb with
  | createEvent | createReward | createParticipation | createRequest =>
    obtain ⟨_, -, rfl⟩ := h
    trivial
  | updateEvent | updateReward | updateRequest =>
    obtain ⟨_, _, -, -, rfl⟩ := h
    trivial

/-- The endpoint and the command ask for the same action, or both find issues. -/
def ReadsAlike (verb : WritingVerb) (caller : String) (body : List (String × Json)) : Prop :=
  (∃ action, verb.Asks caller body action ∧
    Web.task (verb.request caller body) verb.endpoint = .ok (.action verb.status action) ∧
      Command.action? verb.name (verb.payload caller body) = some (.ok action)) ∨
    ∃ issues more, Web.task (verb.request caller body) verb.endpoint = .error (Web.unfit issues) ∧
      Command.action? verb.name (verb.payload caller body) = some (.error more)

theorem read_payload {α : Type} {read : List (String × Json) → Checked α}
    (hread : ∀ {name}, name ∈ identityFields → ∀ value form,
      read (Json.assign name value form) = read form) :
    read (verb.payload caller body) = read body := by
  have hcaller : verb.callerField ∈ identityFields := by
    cases verb <;> simp [callerField, identityFields]
  have hid : "id" ∈ identityFields := by decide
  unfold payload
  dsimp only
  split
  · rw [hread hid, hread hcaller]
  · exact hread hcaller _ _

theorem lookup_callerField_payload :
    Json.lookup verb.callerField (verb.payload caller body) = some (.str caller) := by
  have hne : verb.callerField ≠ "id" := by cases verb <;> simp [callerField]
  unfold payload
  dsimp only
  split
  · rw [Json.lookup_assign_of_ne hne, Json.lookup_assign_self]
  · exact Json.lookup_assign_self _ _ _

theorem lookup_id_payload {id : String} (hid : verb.id? = some id) :
    Json.lookup "id" (verb.payload caller body) = some (.str id) := by
  simp only [payload, hid, Json.lookup_assign_self]

theorem required_callerField (hcaller : Web.IsTrimmed caller) :
    required verb.callerField someText (verb.payload caller body) = .ok caller := by
  have hsome : someText (.str caller) = .ok caller := if_neg hcaller.1
  simp only [required, lookup_callerField_payload, hsome, Checked.under]

section
variable {α : Type} {read : List (String × Json) → Checked α} (hcaller : Web.IsTrimmed caller)
  (hread : read (verb.payload caller body) = read body)
include hcaller hread

theorem readsAlike_of_creation (make : α → String → Action) (hfield : verb.callerField = "user_id")
    (htask : ∀ r, Web.task r verb.endpoint = Web.asCaller r fun caller =>
      (Web.readBody read r).map fun a => .action verb.status (make a caller))
    (haction : ∀ payload, Command.action? verb.name payload =
      some ((Command.withUser read payload).map fun (a, user) => make a user))
    (hasks : ∀ a, read body = .ok a → verb.Asks caller body (make a caller)) :
    verb.ReadsAlike caller body := by
  have huser : required verb.callerField someText (verb.payload caller body) = .ok caller :=
    required_callerField hcaller
  have hcaller' : Web.caller? (verb.request caller body).user = some caller :=
    Web.caller?_of_isTrimmed hcaller
  have hbody : Web.readBody read (verb.request caller body) = (read body).under "body" := rfl
  rw [ReadsAlike, htask, haction, Command.withUser, hread, ← hfield, huser]
  simp only [Web.asCaller, hcaller', hbody]
  cases hform : read body with
  | ok a => exact Or.inl ⟨_, hasks a hform, rfl, rfl⟩
  | error issues => exact Or.inr ⟨_, _, rfl, rfl⟩

theorem readsAlike_of_change (make : Id → α → String → Action) {place text : String}
    (hid : verb.id? = some text)
    (htask : ∀ r, Web.task r verb.endpoint = Web.asCaller r fun caller =>
      ((Web.pathId place text).both (Web.readBody read r)).map fun (id, a) =>
        .action verb.status (make id a caller))
    (haction : ∀ payload, Command.action? verb.name payload =
      some ((Command.withCaller verb.callerField read payload).map fun (a, id, user) =>
        make id a user))
    (hasks : ∀ id a, Id.read? text = some id → read body = .ok a →
      verb.Asks caller body (make id a caller)) : verb.ReadsAlike caller body := by
  have huser : required verb.callerField someText (verb.payload caller body) = .ok caller :=
    required_callerField hcaller
  have hcaller' : Web.caller? (verb.request caller body).user = some caller :=
    Web.caller?_of_isTrimmed hcaller
  have hbody : Web.readBody read (verb.request caller body) = (read body).under "body" := rfl
  rw [ReadsAlike, htask, haction, Command.withCaller, hread, huser]
  simp only [Web.asCaller, hcaller', hbody, Web.pathId, required, lookup_id_payload hid, identifier]
  -- both the identifier and the body may have issues
  cases hkey : Id.read? text with
  | none => cases read body <;> exact Or.inr ⟨_, _, rfl, rfl⟩
  | some id =>
    cases hform : read body with
    | ok a => exact Or.inl ⟨_, hasks id a hkey hform, rfl, rfl⟩
    | error issues => exact Or.inr ⟨_, _, rfl, rfl⟩

end

/-- **Both surfaces read alike**, although some commands check their fields twice. -/
theorem reads_alike (verb : WritingVerb) (hcaller : Web.IsTrimmed caller)
    (body : List (String × Json)) : verb.ReadsAlike caller body := by
  cases verb with
  | createEvent =>
    refine readsAlike_of_creation hcaller (read_payload EventDraft.read_assign) .createEvent rfl
      (fun _ => rfl) (fun payload => ?_) fun draft hdraft => ⟨draft, hdraft, rfl⟩
    rw [← Command.handedOn_withUser EventDraft.refilled_eq_ok]
    rfl
  | updateEvent text =>
    refine readsAlike_of_change hcaller (read_payload EventPatch.read_assign) .updateEvent rfl
      (fun _ => rfl) (fun payload => ?_) fun id patch hid hpatch => ⟨id, patch, hid, hpatch, rfl⟩
    rw [← Command.handedOn_withCaller EventPatch.refilled_eq_ok]
    rfl
  | createReward =>
    refine readsAlike_of_creation hcaller (read_payload RewardDraft.read_assign) .createReward rfl
      (fun _ => rfl) (fun payload => ?_) fun draft hdraft => ⟨draft, hdraft, rfl⟩
    rw [← Command.handedOn_withUser RewardDraft.refilled_eq_ok]
    rfl
  | updateReward text =>
    refine readsAlike_of_change hcaller (read_payload RewardPatch.read_assign) .updateReward rfl
      (fun _ => rfl) (fun payload => ?_) fun id patch hid hpatch => ⟨id, patch, hid, hpatch, rfl⟩
    rw [← Command.handedOn_withCaller RewardPatch.refilled_eq_ok]
    rfl
  | createParticipation =>
    exact readsAlike_of_creation hcaller (read_payload ParticipationForm.read_assign)
      (fun form user => .participate form.eventId user (form.verificationData.getD .null)
        (form.additionalData.getD .null) none)
      rfl (fun _ => rfl) (fun _ => rfl) fun form hform => ⟨form, hform, rfl⟩
  | createRequest =>
    exact readsAlike_of_creation hcaller (read_payload RequestForm.read_assign)
      (fun form user => .createRequest form.eventId (form.rewardIds.map .known) user
        (form.verificationData.getD .null) none none)
      rfl (fun _ => rfl) (fun _ => rfl) fun form hform => ⟨form, hform, rfl⟩
  | updateRequest text =>
    exact readsAlike_of_change hcaller (read_payload RequestDecision.read_assign)
      (fun id decision operator => .transition id decision.status (some operator)
        decision.rejectedReason none)
      rfl (fun _ => rfl) (fun _ => rfl) fun id decision hid hdecision =>
        ⟨id, decision, hid, hdecision, rfl⟩

end WritingVerb

/-! ### Answering on both surfaces -/

/-- **Two answers agree**, each with the database after it: that of the endpoint, which succeeds
with a status of its own, and that of the command. -/
inductive Web.Agree (status : Nat) (db : Database) :
    Web.Answer × Database → Web.Answer × Database → Prop where
  /-- Both succeed and write the same. -/
  | done (body data : Json) (after : Database) :
    Agree status db (.reply status body, after)
      (.reply 200 (.obj [("success", .bool true), ("data", data)]), after)
  /-- Both are refused for the same reason. -/
  | refused (refusal : Refusal) :
    Agree status db (failure refusal.kind.status refusal.message, db)
      (failure refusal.kind.status refusal.message, db)
  /-- Both find issues in what they read. -/
  | unfit (issues more : List Issue) :
    Agree status db (failure 422 (Issue.lines issues), db) (failure 400 (Issue.lines more), db)
  /-- Both break off on the same fault. -/
  | broken (fault : Fault) : Agree status db (.broken fault, db) (.broken fault, db)
  /-- Neither body can be read. -/
  | unread : Agree status db (unreadBody, db) (unreadBody, db)

theorem Web.Agree.eq_of_status?_eq_none {status : Nat} {db : Database}
    {endpoint command : Answer × Database} (h : Agree status db endpoint command)
    (hnone : endpoint.1.status? = none) : endpoint.2 = db := by
  cases h with
  | done | refused | unfit | unread => cases hnone
  | broken => rfl

section
variable {s : Session} {db : Database} {action : Action} {name : String}
  {payload : List (String × Json)}

/-- **An action is answered alike** by an endpoint and by a command, unless its answer cannot be
shown. -/
theorem Web.answers_agree (hwriting : action.Writing) (hformed : action.IsFormed)
    (hnumbered : db.books.Numbered) (hshaped : db.books.Shaped)
    (haction : Command.action? name payload = some (.ok action)) (status : Nat) :
    let endpoint := answerAction s db status action
    let command :=
      (answerCommand (Command.run s db name payload).1, (Command.run s db name payload).2)
    Agree status db endpoint command ∨
      (action.TooHigh db.books ∧ ∃ after, endpoint = (.unwritable, after) ∧
        command = (.broken .unwritable, after)) ∨
      (action.Crowded db.books ∧ ∃ issues, endpoint = (.broken (.unshowable issues), db) ∧
        command = (failure 400 (Issue.lines issues), db)) := by
  simp only [answerAction, Command.run, haction]
  cases hperform : action.perform s db with
  | error found =>
    cases found with
    | refused refusal => exact Or.inl (.refused refusal)
    | fault fault =>
      by_cases hcrowded : action.Crowded db.books
      · cases fault with
        | unshowable issues => exact Or.inr (Or.inr ⟨hcrowded, issues, rfl, rfl⟩)
        | _ => exact Or.inl (.broken _)
      · have hfit := hwriting.not_isUnfit hformed hshaped hcrowded hperform
        cases fault with
        | unshowable issues => exact absurd trivial hfit
        | _ => exact Or.inl (.broken _)
  | ok result =>
    obtain ⟨reply, after⟩ := result
    obtain ⟨notes, hchange, -⟩ := Action.perform_eq_ok hperform
    rcases hwriting.presentable hnumbered (hchange.numbered hnumbered)
        (hchange.shaped hformed hnumbered hshaped) hperform with
      ⟨data, body, hdata, hbody⟩ | ⟨hhigh, hdata, hbody⟩
    · simp only [hdata, hbody]
      exact Or.inl (.done body data.withoutReserved after)
    · simp only [hdata, hbody]
      exact Or.inr (Or.inl ⟨hhigh, after, rfl, rfl⟩)

end

namespace WritingVerb

variable {verb : WritingVerb} {caller : String} {body : List (String × Json)}

theorem handle_command (s : Session) (db : Database) :
    Web.handle s db (verb.command caller body) =
      (Web.answerCommand (Command.run s db verb.name (verb.payload caller body)).1,
        (Command.run s db verb.name (verb.payload caller body)).2) := rfl

end WritingVerb

theorem WritingVerb.handled_alike {db : Database} (h : db.Reachable Action.IsFormed) (s : Session)
    {verb : WritingVerb} (hid : verb.id? ≠ some "") {caller : String}
    (hcaller : Web.IsTrimmed caller) (body : List (String × Json)) :
    let endpoint := Web.handle s db (verb.request caller body)
    let command := Web.handle s db (verb.command caller body)
    Web.asked? (verb.request caller body) = Web.asked? (verb.command caller body) ∧
      (∀ action, Web.asked? (verb.command caller body) = some action →
        verb.Asks caller body action) ∧
      (Web.Agree verb.status db endpoint command ∨
        ∃ action, Web.asked? (verb.command caller body) = some action ∧
          ((action.TooHigh db.books ∧ ∃ after, endpoint = (.unwritable, after) ∧
            command = (.broken .unwritable, after)) ∨
          (action.Crowded db.books ∧ ∃ issues, endpoint = (.broken (.unshowable issues), db) ∧
            command = (Web.failure 400 (Issue.lines issues), db)))) := by
  have hfind : Endpoint.find (verb.request caller body).method (verb.request caller body).path =
      .ok verb.endpoint := WritingVerb.find_endpoint hid
  intro endpoint command
  rcases verb.reads_alike hcaller body with
    ⟨action, hasks, htask, haction⟩ | ⟨issues, more, htask, haction⟩
  · have hendpoint : endpoint = Web.answerAction s db verb.status action := by
      simp only [endpoint, Web.handle, hfind, htask]
    have hasked : Web.asked? (verb.command caller body) = some action := by
      show Command.asked? verb.name (verb.payload caller body) = some action
      simp only [Command.asked?, haction]
    have hasked' : Web.asked? (verb.request caller body) = some action := by
      simp only [Web.asked?, hfind, htask]
    refine ⟨hasked'.trans hasked.symm, fun found hfound => ?_, ?_⟩
    · rw [hasked] at hfound
      exact Option.some.inj hfound ▸ hasks
    · rw [hendpoint, show command = _ from WritingVerb.handle_command s db]
      refine (Web.answers_agree hasks.writing (Web.isFormed_of_task htask) h.numbered h.shaped
        haction verb.status).imp_right fun hrest => ⟨action, hasked, hrest⟩
  · have hasked : Web.asked? (verb.command caller body) = none := by
      show Command.asked? verb.name (verb.payload caller body) = none
      simp only [Command.asked?, haction]
    have hasked' : Web.asked? (verb.request caller body) = none := by
      simp only [Web.asked?, hfind, htask]
    refine ⟨hasked'.trans hasked.symm, fun found hfound => ?_, Or.inl ?_⟩
    · rw [hasked] at hfound
      cases hfound
    · have hendpoint : endpoint = (Web.unfit issues, db) := by
        simp only [endpoint, Web.handle, hfind, htask]
      have hcommand : command = (Web.failure 400 (Issue.lines more), db) := by
        simp only [command, WritingVerb.handle_command, Command.run, haction, Web.answerCommand]
      rw [hendpoint, hcommand]
      exact .unfit issues more

/-- **The two surfaces agree** on the database. Whatever the body is, the endpoint and the command
ask for the same action, which is read from the body alone: a field of a change that is not given
stays so, and null stays null. If the server can read the bodies of both or of neither, their
answers agree, but for two kinds of actions. One that answers with a request whose payload is too
high to be written out is carried out on both surfaces, and breaks the answer of either, though not
in the same way. One that changes a crowded event fails on both. -/
theorem surfaces_agree {db : Database} (h : db.Reachable Action.IsFormed) (s : Session)
    {verb : WritingVerb} (hid : verb.id? ≠ some "") {caller : String}
    (hcaller : Web.IsTrimmed caller) (body : List (String × Json)) {limits : Web.Limits}
    (hlimits : limits.take (verb.request caller body) = limits.take (verb.command caller body)) :
    let endpoint := Web.receive limits s db (verb.request caller body)
    let command := Web.receive limits s db (verb.command caller body)
    Web.asked? (verb.request caller body) = Web.asked? (verb.command caller body) ∧
      (∀ action, Web.asked? (verb.command caller body) = some action →
        verb.Asks caller body action) ∧
      (Web.Agree verb.status db endpoint command ∨
        ∃ action, Web.asked? (verb.command caller body) = some action ∧
          ((action.TooHigh db.books ∧ ∃ after, endpoint = (.unwritable, after) ∧
            command = (.broken .unwritable, after)) ∨
          (action.Crowded db.books ∧ ∃ issues, endpoint = (.broken (.unshowable issues), db) ∧
            command = (Web.failure 400 (Issue.lines issues), db)))) := by
  have hhandled := WritingVerb.handled_alike h s hid hcaller body
  intro endpoint command
  by_cases htake : limits.take (verb.request caller body) = true
  · have hendpoint : endpoint = Web.handle s db (verb.request caller body) := if_pos htake
    have hcommand : command = Web.handle s db (verb.command caller body) :=
      if_pos (hlimits ▸ htake)
    rw [hendpoint, hcommand]
    exact hhandled
  · have hendpoint : endpoint = (Web.unreadBody, db) := if_neg htake
    have hcommand : command = (Web.unreadBody, db) := if_neg (hlimits ▸ htake)
    rw [hendpoint, hcommand]
    exact ⟨hhandled.1, hhandled.2.1, .inl .unread⟩

/-! ### An event to ask for rewards of -/

/-- A run of web requests that make an event and one piece of a reward of it. -/
def offeringRun : List Moment :=
  let event : List (String × Json) :=
    [("title", .str "Spring"), ("start_date", .str "1970-01-01T00:00:00Z"),
      ("end_date", .str "1970-01-02T00:00:00Z"), ("status", .str "ACTIVE"),
      ("condition_type", .str "ATTENDANCE")]
  let reward : List (String × Json) :=
    [("event_id", .str ({} : Table Event).nextId.text), ("name", .str "Badge"),
      ("type", .str "BADGE"), ("value", .str "gold"), ("total_quantity", .int 1)]
  [⟨{ clock := ⟨1000000⟩ }, .request (WritingVerb.createEvent.request "admin" event)⟩,
    ⟨{ clock := ⟨2000000⟩ }, .request (WritingVerb.createReward.request "admin" reward)⟩]

theorem reachable_offeringRun : (Database.empty.after offeringRun).Reachable Action.IsFormed := by
  refine ⟨offeringRun, fun m hm action hcall => ?_, rfl⟩
  simp only [offeringRun, List.mem_cons, List.not_mem_nil, or_false] at hm
  rcases hm with rfl | rfl <;> cases hcall

/-- A body that asks for the reward of `offeringRun`. -/
def askingBody (verificationData : Json) : List (String × Json) :=
  [("event_id", .str ({} : Table Event).nextId.text),
    ("reward_ids", .arr [.str ({} : Table Reward).nextId.text]),
    ("verification_data", verificationData)]

/-- A body without too high a payload is answered alike: each surface files the request. -/
theorem surfaces_agree_offeringRun :
    let db := Database.empty.after offeringRun
    let s : Session := { clock := ⟨3000000⟩ }
    let verb := WritingVerb.createRequest
    let body := askingBody .empty
    let limits : Web.Limits := {}
    let endpoint := Web.receive limits s db (verb.request "ann" body)
    let command := Web.receive limits s db (verb.command "ann" body)
    (verb.id? ≠ some "" ∧ Web.IsTrimmed "ann" ∧
        limits.take (verb.request "ann" body) = limits.take (verb.command "ann" body)) ∧
      Web.Agree verb.status db endpoint command ∧
      endpoint.1.status? = some 201 ∧ endpoint.2.books.requests.rows.length = 1 := by
  intro db s verb body limits endpoint command
  have hid : verb.id? ≠ some "" := by decide
  have htrimmed : Web.IsTrimmed "ann" := ⟨by decide, by decide⟩
  have hlimits : limits.take (verb.request "ann" body) = limits.take (verb.command "ann" body) := by
    decide +kernel
  have hstatus : endpoint.1.status? = some 201 := by decide +kernel
  refine ⟨⟨hid, htrimmed, hlimits⟩, ?_, hstatus, by decide +kernel⟩
  obtain ⟨-, -, hagree | ⟨action, -, hrest⟩⟩ :=
    surfaces_agree reachable_offeringRun s hid htrimmed body hlimits
  · exact hagree
  · -- an answer with a status is neither of the two exceptions
    rcases hrest with ⟨-, after, hendpoint, -⟩ | ⟨-, issues, hendpoint, -⟩ <;>
    · rw [show endpoint = _ from hendpoint] at hstatus
      cases hstatus

/-- A value of a given height. -/
def Json.nested : Nat → Json
  | 0 => .null
  | n + 1 => .arr [nested n]

/-- **The answers do not always agree**: asked for with a payload that is too high, both surfaces
fail, but both have filed the request. -/
theorem surfaces_disagree :
    ¬∀ (db : Database), db.Reachable Action.IsFormed → ∀ (s : Session) (verb : WritingVerb),
      verb.id? ≠ some "" → ∀ caller, Web.IsTrimmed caller → ∀ body,
        Web.Agree verb.status db (Web.receive {} s db (verb.request caller body))
          (Web.receive {} s db (verb.command caller body)) := by
  intro h
  let db := Database.empty.after offeringRun
  let s : Session := { clock := ⟨3000000⟩ }
  let verb := WritingVerb.createRequest
  let body := askingBody (.obj [("proof", .nested 300)])
  have hfails : (Web.receive {} s db (verb.request "ann" body)).1.status? = none := by
    decide +kernel
  have hfiled : (Web.receive {} s db (verb.request "ann" body)).2.books.requests.rows.length =
      db.books.requests.rows.length + 1 := by decide +kernel
  have hagree := h db reachable_offeringRun s verb (by decide) "ann" ⟨by decide, by decide⟩ body
  have hsame := congrArg (fun db => db.books.requests.rows.length)
    (hagree.eq_of_status?_eq_none hfails)
  exact absurd (hfiled.symm.trans hsame) (Nat.succ_ne_self _)

end Promotions
