import Promotions.Action

/-!
# Commands

A command names one of nineteen verbs and brings a payload, which is read as the form of the verb:
the fields of the thing in question, then the identifier and the caller where the verb needs them.
The fields of a new event or reward and of changes to one are handed on to another form, which
checks them once more. The answer of a command shows the row as the operation has it at hand,
without reserved members.
-/

namespace Promotions

/-- What a command leads to. -/
inductive CommandResult where
  | done (data : Json)
  | refused (refusal : Refusal)
  /-- The payload, or a row on the way, does not have its shape. -/
  | unfit (issues : List Issue)
  | broken (fault : Fault)
  deriving Repr

namespace Command

open FormField

/-- An identifier and a caller, after the fields of a form. -/
def withCaller {α : Type} (callerField : String) (read : List (String × Json) → Checked α)
    (payload : List (String × Json)) : Checked (α × Id × String) :=
  (read payload).both
    ((required "id" identifier payload).both (required callerField someText payload))

/-- A caller, after the fields of a form. -/
def withUser {α : Type} (read : List (String × Json) → Checked α)
    (payload : List (String × Json)) : Checked (α × String) :=
  (read payload).both (required "user_id" someText payload)

/-- A form that was read, once its fields have passed another form. -/
def handedOn {α β : Type} (refilled : α → Checked α) : Checked (α × β) → Checked (α × β)
  | .ok (fields, rest) => (refilled fields).map (·, rest)
  | .error issues => .error issues

/-- The verbs, each with the reading of its payload. -/
def verbs : List (String × (List (String × Json) → Checked Action)) :=
  [("create_event", fun payload =>
      (handedOn EventDraft.refilled (withUser EventDraft.read payload)).map fun (draft, user) =>
        .createEvent draft user),
    ("update_event", fun payload =>
      (handedOn EventPatch.refilled (withCaller "user_id" EventPatch.read payload)).map
        fun (patch, id, user) => .updateEvent id patch user),
    ("find_all_events", fun payload => (EventFilter.read payload).map .findEvents),
    ("find_active_events", fun _ => .ok (.findActiveEvents none)),
    ("find_event_by_id", fun payload => (required "id" identifier payload).map .findEvent),
    ("create_reward", fun payload =>
      (handedOn RewardDraft.refilled (withUser RewardDraft.read payload)).map fun (draft, user) =>
        .createReward draft user),
    ("update_reward", fun payload =>
      (handedOn RewardPatch.refilled (withCaller "user_id" RewardPatch.read payload)).map
        fun (patch, id, user) => .updateReward id patch user),
    ("find_rewards_by_event_id", fun payload =>
      (required "event_id" identifier payload).map .findRewardsNaming),
    ("find_reward_by_id", fun payload => (required "id" identifier payload).map .findReward),
    ("create_participation", fun payload =>
      (withUser ParticipationForm.read payload).map fun (form, user) =>
        .participate form.eventId user (form.verificationData.getD .null)
          (form.additionalData.getD .null) none),
    ("find_participations_by_event_id", fun payload =>
      (required "event_id" identifier payload).map .findParticipationsOfEvent),
    ("find_participations_by_user_id", fun payload =>
      (required "user_id" someText payload).map .findParticipationsOfUser),
    ("get_participation_stats", fun payload =>
      (required "event_id" identifier payload).map .statistics),
    ("create_reward_request", fun payload =>
      (withUser RequestForm.read payload).map fun (form, user) =>
        .createRequest form.eventId (form.rewardIds.map .known) user
          (form.verificationData.getD .null) none none),
    ("update_reward_request", fun payload =>
      (withCaller "operator_id" RequestDecision.read payload).map fun (decision, id, operator) =>
        .transition id decision.status (some operator) decision.rejectedReason none),
    ("find_reward_request_by_id", fun payload =>
      (required "id" identifier payload).map .findRequest),
    ("find_reward_requests_by_user_id", fun payload =>
      (required "user_id" someText payload).map .findRequestsOfUser),
    ("find_reward_requests", fun payload => (RequestFilter.read payload).map .findRequests),
    ("find_user_rewards_by_user_id", fun payload =>
      (required "user_id" someText payload).map .findGrantsOfUser)]

/-- The action that a command asks for. -/
def action? (name : String) (payload : List (String × Json)) : Option (Checked Action) :=
  (verbs.find? fun verb => verb.1 = name).map fun verb => verb.2 payload

/-- Carries a command out. A row of the answer that does not have its shape undoes the command; one
that cannot be written out does not. -/
def run (s : Session) (db : Database) (name : String) (payload : List (String × Json)) :
    CommandResult × Database :=
  match action? name payload with
  | none => (.refused (.unknownCommand name), db)
  | some (.error issues) => (.unfit issues, db)
  | some (.ok action) =>
    match action.perform s db with
    | .error (.refused refusal) => (.refused refusal, db)
    | .error (.fault (.unshowable issues)) => (.unfit issues, db)
    | .error (.fault fault) => (.broken fault, db)
    | .ok (reply, after) =>
      match reply.shown with
      | .ok data => (.done data.withoutReserved, after)
      | .error (.unshowable issues) => (.unfit issues, db)
      | .error fault => (.broken fault, after)

end Command

end Promotions
