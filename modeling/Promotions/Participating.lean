import Promotions.Catalogue.Events
import Promotions.Form.Request

/-!
# Taking part in events

`Books.participate` adds a participation and counts it at the event. Unless an event allows several
participations of a user, each carries a key made of the event and the user, which is unique. The
statistics of an event are computed from its participations and requests.
-/

namespace Promotions

/-- The key that makes a participation the only one of its user in its event. -/
def dedupeKey (event : Event) (userId : String) : Option String :=
  if event.allowMultiple then none else some (event.id.text ++ ":" ++ userId)

namespace Participation

/-- The participation of a user who took part in the event a number of times before. -/
def ofUser (id : Id) (event : Event) (userId : String) (verificationData additionalData : Json)
    (previous : Nat) (now : Instant) : Participation :=
  { id
    userId
    eventId := event.id
    status := .participated
    participatedAt := now
    verificationData := verificationData.orEmpty
    additionalData := additionalData.orEmpty
    isRewardRequested := false
    rewardRequestedAt := none
    rewardRequestId := none
    rewardedAt := none
    participationCount := previous + 1
    dedupeKey := Promotions.dedupeKey event userId }

end Participation

/-- The statistics of an event. -/
structure Statistics where
  participations : Nat
  users : Nat
  /-- The number of participations of each day that has some, by day. -/
  byDay : List (String × Nat)
  requests : Nat
  approved : Nat
  deriving DecidableEq, Repr

namespace Statistics

/-- The statistics as they are shown: requests per participation and approvals per request are
doubles. -/
def view (stats : Statistics) : Json :=
  .obj
    [("total_participations", .int stats.participations), ("unique_participants", .int stats.users),
      ("participations_by_day", .obj (stats.byDay.map fun (day, n) => (day, .int n))),
      ("reward_request_rate", .double (.share stats.requests stats.participations)),
      ("success_rate", .double (.share stats.approved stats.requests))]

end Statistics

namespace Books

/-- Counts one more participant of an event. -/
def countParticipant (books : Books) (eventId : Id) (stamp : Instant) : Books :=
  { books with
    events := books.events.modify eventId fun event =>
      { event with participantCount := event.participantCount + 1, updatedAt := some stamp } }

/-- The note that a user took part. -/
def eventParticipated (event : Event) (userId : String) (view : Json) : Note :=
  { logType := .eventParticipated, actor := userId, eventId := some event.id
    details := .obj [("participation", view), ("conditionType", .str event.conditionType.name)] }

/-- Takes part in an event. -/
def participate (books : Books) (s : Session) (eventId : Id) (userId : String)
    (verificationData additionalData : Json) (now : Instant) :
    Except Failure (Outcome Participation) :=
  match books.findEvent eventId with
  | .error failure => .error failure
  | .ok event =>
    let previous := (books.participationsOf event.id userId).length
    if !event.isActiveAt now then Failure.refuse .eventNotActive
    else if !event.admits verificationData now then Failure.refuse .conditionsNotMet
    else if previous ≠ 0 ∧ !event.allowMultiple then Failure.refuse .alreadyParticipated
    else if event.maxParticipants.any (· ≤ event.participantCount) then
      Failure.refuse .participantLimitReached
    else
      let participation := Participation.ofUser books.participations.nextId event userId
        verificationData additionalData previous now
      match books.addParticipation? participation with
      | none => Failure.refuse .alreadyParticipated
      | some books =>
        match orBreakOff participation.shown with
        | .error failure => .error failure
        | .ok view =>
          .ok
            { answer := participation
              books := books.countParticipant event.id s.stamp
              notes := [eventParticipated event userId view] }

/-- The participations in an event, from the latest. -/
def findParticipationsOfEvent (books : Books) (eventId : Id) : List Participation :=
  latestFirst (some ·.participatedAt)
    (books.participations.filter fun p => p.eventId = eventId)

/-- The participations of a user, from the latest. -/
def findParticipationsOfUser (books : Books) (userId : String) : List Participation :=
  latestFirst (some ·.participatedAt)
    (books.participations.filter fun p => p.userId = userId)

/-- The text under which a participation counts: the date that the store tells of its time. -/
def dayOf (s : Session) (p : Participation) : String :=
  match s.dateOf p.participatedAt with
  | some date => Instant.dateText date
  | none => "None"

/-- How often each text of a list occurs, in the order of the texts. -/
def tally (texts : List String) : List (String × Nat) :=
  (texts.eraseDups.mergeSort fun a b => a ≤ b).map fun text => (text, texts.count text)

/-- The statistics of an event. -/
def statistics (books : Books) (s : Session) (eventId : Id) : Except Failure Statistics :=
  match books.findEvent eventId with
  | .error failure => .error failure
  | .ok event =>
    let counted := books.participations.filter fun p =>
      p.eventId = event.id && p.status = .participated
    let requests := books.requests.filter fun q => q.eventId = event.id
    .ok
      { participations := counted.length
        users := (counted.map Participation.userId).eraseDups.length
        byDay := tally (counted.map (dayOf s))
        requests := requests.length
        approved := (requests.filter fun q => q.status = .approved || q.status = .issued).length }

end Books

end Promotions
