import Promotions.Web.Command
import Promotions.Web.Endpoint

/-!
# The web surface

`Web.handle` answers a request and gives the database after it. The caller is named by a header;
where the endpoint needs one, a missing or blank header is refused before anything else is read.
Then path, query and body are read, and all their issues are reported together. Answers of single
rows show them as they are stored. A row that cannot be shown or written out breaks the answer,
although its operation has taken place.

Before that the text of the body has to be read as JSON, which a server does for texts up to its
`Limits`; `Web.receive` refuses a body that goes beyond them, and handles any other request.
-/

namespace Promotions.Web

open FormField

/-- A web request. -/
structure Request where
  method : String
  path : List String
  /-- The header that names the caller. -/
  user : Option String := none
  query : List (String × String) := []
  /-- The JSON body, if there is one. -/
  body : Option Json := none
  deriving Repr

/-- An answer, or the way in which the server broke. -/
inductive Answer where
  | reply (status : Nat) (body : Json)
  | broken (fault : Fault)
  /-- The operation has taken place, but its rows cannot be shown. -/
  | unshowable
  /-- The operation has taken place, but its rows are too high to be written out. -/
  | unwritable
  deriving Repr

/-- A failure as it is told to the caller. -/
def failure (status : Nat) (message : String) : Answer :=
  .reply status (.obj [("success", .bool false), ("message", .str message)])

/-- A caller has to name themselves. -/
def missingCaller : Answer := failure 400 "Missing caller identity. Provide X-User-Id header."

/-- The issues of a request. -/
def unfit (issues : List Issue) : Answer := failure 422 (Issue.lines issues)

/-- The caller that a header names: its text without blanks around it, if something is left. -/
def caller? (header : Option String) : Option String :=
  header.bind fun text =>
    let name := Text.stripped Text.isBlank text.toList
    if name.isEmpty then none else some (String.ofList name)

/-- An identifier in the path, called by the name of its place. -/
def pathId (name text : String) : Checked Id :=
  ((identifier (.str text)).under name).under "path"

/-- The members of the query. -/
def queryFields (query : List (String × String)) : List (String × Json) :=
  query.map fun (name, text) => (name, .str text)

/-- A reading of the query. -/
def readQuery {α : Type} (read : List (String × Json) → Checked α) (r : Request) : Checked α :=
  (read (queryFields r.query)).under "query"

/-- A reading of the body. -/
def readBody {α : Type} (read : List (String × Json) → Checked α) (r : Request) : Checked α :=
  match r.body with
  | none => .error [⟨["body"], .missing⟩]
  | some (.obj form) => (read form).under "body"
  | some _ => .error [⟨["body"], .notFields⟩]

/-- The name and the payload of a command. -/
def readCommand (form : List (String × Json)) : Checked (String × List (String × Json)) :=
  ((required "cmd" text form).both (withDefault "payload" .empty object form)).map
    fun (name, payload) =>
      match payload with
      | .obj members => (name, members)
      | _ => (name, [])

/-- The query of the journal's list. -/
def readJournalQuery (form : List (String × Json)) : Checked JournalQuery :=
  ((optional "event_id" identifier form).map JournalQuery.mk)
    |>.ap (optional "request_id" identifier form)
    |>.ap (optional "log_type" text form)
    |>.ap (withDefault "limit" 50 integer form)
    |>.ap (withDefault "offset" 0 integer form)

/-- What an endpoint has read: an action and the status of its success, or a command. -/
inductive Task where
  | action (status : Nat) (action : Action)
  | command (name : String) (payload : List (String × Json))

/-- An action that answers with status 200. -/
def ok (action : Action) : Task := .action 200 action

/-- An action that answers with status 201. -/
def created (action : Action) : Task := .action 201 action

/-- Reads a request in the name of a caller, who has to be named. -/
def asCaller (r : Request) (read : String → Checked Task) : Except Answer Task :=
  match caller? r.user with
  | none => .error missingCaller
  | some caller =>
    match read caller with
    | .ok task => .ok task
    | .error issues => .error (unfit issues)

/-- Reads a request that needs no caller. -/
def asAnyone (read : Checked Task) : Except Answer Task :=
  match read with
  | .ok task => .ok task
  | .error issues => .error (unfit issues)

/-- What a request to an endpoint asks for. -/
def task (r : Request) : Endpoint → Except Answer Task
  | .listEvents => asAnyone <| (readQuery EventFilter.read r).map fun chosen =>
      ok (.findEvents chosen)
  | .createEvent => asCaller r fun caller => (readBody EventDraft.read r).map fun draft =>
      created (.createEvent draft caller)
  | .listActiveEvents => .ok (ok (.findActiveEvents none))
  | .getEvent event => asAnyone <| (pathId "event_id" event).map fun id => ok (.findEvent id)
  | .patchEvent event => asCaller r fun caller =>
      ((pathId "event_id" event).both (readBody EventPatch.read r)).map fun (id, patch) =>
        ok (.updateEvent id patch caller)
  | .listEventRewards event => asAnyone <| (pathId "event_id" event).map fun id =>
      ok (.findRewardsOfEvent id)
  | .listEventParticipations event => asAnyone <| (pathId "event_id" event).map fun id =>
      ok (.findParticipationsOfEvent id)
  | .getStatistics event => asAnyone <| (pathId "event_id" event).map fun id =>
      ok (.statistics id)
  | .createReward => asCaller r fun caller => (readBody RewardDraft.read r).map fun draft =>
      created (.createReward draft caller)
  | .getReward reward => asAnyone <| (pathId "reward_id" reward).map fun id => ok (.findReward id)
  | .patchReward reward => asCaller r fun caller =>
      ((pathId "reward_id" reward).both (readBody RewardPatch.read r)).map fun (id, patch) =>
        ok (.updateReward id patch caller)
  | .createParticipation => asCaller r fun caller =>
      (readBody ParticipationForm.read r).map fun form =>
        created (.participate form.eventId caller (form.verificationData.getD .null)
          (form.additionalData.getD .null) none)
  | .listMyParticipations => asCaller r fun caller =>
      .ok (ok (.findParticipationsOfUser caller))
  | .listRequests => asAnyone <| (readQuery RequestFilter.read r).map fun chosen =>
      ok (.findRequests chosen)
  | .createRequest => asCaller r fun caller => (readBody RequestForm.read r).map fun form =>
      created (.createRequest form.eventId (form.rewardIds.map .known) caller
        (form.verificationData.getD .null) none none)
  | .listMyRequests => asCaller r fun caller => .ok (ok (.findRequestsOfUser caller))
  | .getRequest request => asAnyone <| (pathId "request_id" request).map fun id =>
      ok (.findRequest id)
  | .patchRequest request => asCaller r fun caller =>
      ((pathId "request_id" request).both (readBody RequestDecision.read r)).map
        fun (id, decision) =>
          ok (.transition id decision.status (some caller) decision.rejectedReason none)
  | .listRequestGrants request => asAnyone <| (pathId "request_id" request).map fun id =>
      ok (.findGrantsOfRequest id)
  | .cancelRequest request => asCaller r fun caller => (pathId "request_id" request).map fun id =>
      ok (.cancelRequest id caller)
  | .listMyGrants => asCaller r fun caller => .ok (ok (.findGrantsOfUser caller))
  | .listUserGrants user => .ok (ok (.findGrantsOfUser user))
  | .useGrant grant => asCaller r fun caller => (pathId "user_reward_id" grant).map fun id =>
      ok (.useGrant id caller none)
  | .expireGrants => .ok (ok (.expireGrants none))
  | .listLogs => asAnyone <| (readQuery readJournalQuery r).map fun query =>
      ok (.findLogs query)
  | .command => asAnyone <| (readBody readCommand r).map fun (name, payload) =>
      .command name payload

/-- The body of a successful answer: the rows, and for a count an object. -/
def bodyOf : Reply → Except Fault Json
  | .count n => .ok (.obj [("expired", .int n)])
  | reply => reply.shown

/-- Carries out an action and answers with the stored rows. -/
def answerAction (s : Session) (db : Database) (status : Nat) (action : Action) :
    Answer × Database :=
  match action.perform s db with
  | .error (.refused refusal) => (failure refusal.kind.status refusal.message, db)
  | .error (.fault fault) => (.broken fault, db)
  | .ok (reply, after) =>
    match bodyOf (reply.reread after) with
    | .ok body => (.reply status body, after)
    | .error (.unshowable _) => (.unshowable, after)
    | .error .unwritable => (.unwritable, after)
    | .error fault => (.broken fault, after)

/-- The answer to a command. -/
def answerCommand : CommandResult → Answer
  | .done data => .reply 200 (.obj [("success", .bool true), ("data", data)])
  | .refused refusal => failure refusal.kind.status refusal.message
  | .unfit issues => failure 400 (Issue.lines issues)
  | .broken fault => .broken fault

/-- Answers a request. -/
def handle (s : Session) (db : Database) (r : Request) : Answer × Database :=
  match Endpoint.find r.method r.path with
  | .error fault => (failure fault.status fault.message, db)
  | .ok endpoint =>
    match task r endpoint with
    | .error answer => (answer, db)
    | .ok (.action status action) => answerAction s db status action
    | .ok (.command name payload) =>
      let (result, after) := Command.run s db name payload
      (answerCommand result, after)

/-! ### Reading the text of a body -/

/-- What a server can read as JSON. How deep the nesting may be is up to the platform. -/
structure Limits where
  /-- How deep lists and objects may be nested. -/
  depth : Nat := 900
  /-- How many digits an integer may have. -/
  digits : Nat := 4300
  deriving Repr

/-- The body of a request can be read, if it is read at all. -/
def Limits.take (limits : Limits) (r : Request) : Bool :=
  match Endpoint.find r.method r.path with
  | .error _ => true
  | .ok endpoint => !endpoint.readsBody || r.body.all (Json.isWithin limits.digits limits.depth)

/-- The answer to a body that cannot be read. -/
def unreadBody : Answer := failure 400 "There was an error parsing the body"

/-- Reads the text of a request and answers it. -/
def receive (limits : Limits) (s : Session) (db : Database) (r : Request) : Answer × Database :=
  if limits.take r then handle s db r else (unreadBody, db)

end Promotions.Web
