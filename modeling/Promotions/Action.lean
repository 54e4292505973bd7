import Promotions.Catalogue.Rewards
import Promotions.Journal
import Promotions.Participating
import Promotions.Rewarding.Grants
import Promotions.Rewarding.Requests

/-!
# Actions

An `Action` is one thing that the program can be asked to do, whichever way it is asked: by a web
request, by a command, or by the scheduler. `Action.perform` does it on a database and answers with
a `Reply`; an action that fails leaves the database as it was. A time that is not given is that of
the session's clock.
-/

namespace Promotions

/-- What can be asked. -/
inductive Action where
  | createEvent (draft : EventDraft) (actor : String)
  | updateEvent (id : Id) (patch : EventPatch) (actor : String)
  | findEvent (id : Id)
  | findEvents (chosen : EventFilter)
  | findActiveEvents (now : Option Instant)
  | createReward (draft : RewardDraft) (actor : String)
  | updateReward (id : Id) (patch : RewardPatch) (actor : String)
  | findReward (id : Id)
  /-- The rewards of an event, which has to exist. -/
  | findRewardsOfEvent (eventId : Id)
  /-- The rewards that name an event, whether it exists or not. -/
  | findRewardsNaming (eventId : Id)
  | participate (eventId : Id) (userId : String) (verificationData additionalData : Json)
      (now : Option Instant)
  | findParticipationsOfEvent (eventId : Id)
  | findParticipationsOfUser (userId : String)
  | findLatestParticipation (eventId : Id) (userId : String)
  | statistics (eventId : Id)
  | createRequest (eventId : Id) (rewards : List IdSpelling) (userId : String)
      (verificationData : Json) (now : Option Instant) (rival : Option Claim)
  | transition (id : Id) (target : RequestStatus) (operator reason : Option String)
      (now : Option Instant)
  | cancelRequest (id : Id) (userId : String)
  | findRequest (id : Id)
  | findRequests (chosen : RequestFilter)
  | findRequestsOfUser (userId : String)
  | issue (id : Id) (operator : Option String) (now : Option Instant)
  /-- The grants of a request, which has to exist. -/
  | findGrantsOfRequest (requestId : Id)
  /-- The grants that name a request, whether it exists or not. -/
  | findGrantsNaming (requestId : Id)
  | useGrant (id : Id) (userId : String) (now : Option Instant)
  | findGrant (id : Id)
  | findGrantsOfUser (userId : String)
  | expireGrants (now : Option Instant)
  /-- Whether an event admits a user with a proof. -/
  | verify (eventId : Id) (userId : String) (proof : Json) (now : Option Instant)
  /-- Writes a note to the journal; none stands for a note that cannot be written. -/
  | record (note : Option Note)
  | findLogs (query : JournalQuery)
  deriving Repr

/-- What is answered. -/
inductive Reply where
  | event (event : Event)
  | events (events : List Event)
  | reward (reward : Reward)
  | rewards (rewards : List Reward)
  | participation (participation : Option Participation)
  | participations (participations : List Participation)
  | statistics (stats : Statistics)
  | request (request : RewardRequest)
  | requests (requests : List RewardRequest)
  | grant (grant : Grant)
  | grants (grants : List Grant)
  | log (entry : Option LogEntry)
  | logs (entries : List LogEntry)
  | count (n : Nat)
  | truth (holds : Bool)
  deriving Repr

namespace Reply

/-- Shows a row, or null for none. -/
def shownOption {ρ : Type} (shown : ρ → Except Fault Json) : Option ρ → Except Fault Json
  | none => .ok .null
  | some row => shown row

/-- The issues of a row that does not have its shape. -/
def issues? : Except Fault Json → Option (List Issue)
  | .error (.unshowable issues) => some issues
  | _ => none

/-- Shows rows. The first row with issues decides; rows are written out only if none has some. -/
def shownList {ρ : Type} (shown : ρ → Except Fault Json) (rows : List ρ) : Except Fault Json :=
  match rows.findSome? fun row => issues? (shown row) with
  | some issues => .error (.unshowable issues)
  | none => (rows.mapM shown).map .arr

/-- A reply as JSON. -/
def shown : Reply → Except Fault Json
  | event e => e.shown
  | events es => shownList Event.shown es
  | reward r => r.shown
  | rewards rs => shownList Reward.shown rs
  | participation p => shownOption Participation.shown p
  | participations ps => shownList Participation.shown ps
  | statistics stats => .ok stats.view
  | request q => q.shown
  | requests qs => shownList RewardRequest.shown qs
  | grant g => g.shown
  | grants gs => shownList Grant.shown gs
  | log l => shownOption LogEntry.shown l
  | logs ls => shownList LogEntry.shown ls
  | count n => .ok (.int n)
  | truth holds => .ok (.bool holds)

/-- The reply with a single row read again from the database. -/
def reread (db : Database) : Reply → Reply
  | event e => event ((db.books.events.find? e.id).getD e)
  | reward r => reward ((db.books.rewards.find? r.id).getD r)
  | participation (some p) => participation (some ((db.books.participations.find? p.id).getD p))
  | request q => request ((db.books.requests.find? q.id).getD q)
  | grant g => grant ((db.books.grants.find? g.id).getD g)
  | reply => reply

end Reply

namespace Action

/-- The reply of an operation and the database after it. -/
def settle {α : Type} (s : Session) (db : Database) (reply : α → Reply)
    (result : Except Failure (Outcome α)) : Except Failure (Reply × Database) :=
  match result with
  | .ok outcome => .ok (reply outcome.answer, db.commit s outcome)
  | .error failure => .error failure

/-- The reply of a look-up, which leaves the database as it is. -/
def found {α : Type} (db : Database) (reply : α → Reply) (result : Except Failure α) :
    Except Failure (Reply × Database) :=
  match result with
  | .ok answer => .ok (reply answer, db)
  | .error failure => .error failure

/-- Does what is asked. -/
def perform (s : Session) (db : Database) : Action → Except Failure (Reply × Database)
  | createEvent draft actor => settle s db .event (db.books.createEvent s draft actor)
  | updateEvent id patch actor => settle s db .event (db.books.updateEvent s id patch actor)
  | findEvent id => found db .event (db.books.findEvent id)
  | findEvents chosen => .ok (.events (db.books.findEvents chosen), db)
  | findActiveEvents now => .ok (.events (db.books.findActiveEvents (now.getD s.clock)), db)
  | createReward draft actor => settle s db .reward (db.books.createReward s draft actor)
  | updateReward id patch actor => settle s db .reward (db.books.updateReward s id patch actor)
  | findReward id => found db .reward (db.books.findReward id)
  | findRewardsOfEvent eventId =>
    found db .rewards ((db.books.findEvent eventId).map fun event =>
      db.books.findRewardsOf event.id)
  | findRewardsNaming eventId => .ok (.rewards (db.books.findRewardsOf eventId), db)
  | participate eventId userId verificationData additionalData now =>
    settle s db (.participation ∘ some)
      (db.books.participate s eventId userId verificationData additionalData (now.getD s.clock))
  | findParticipationsOfEvent eventId =>
    .ok (.participations (db.books.findParticipationsOfEvent eventId), db)
  | findParticipationsOfUser userId =>
    .ok (.participations (db.books.findParticipationsOfUser userId), db)
  | findLatestParticipation eventId userId =>
    .ok (.participation (db.books.latestParticipation? eventId userId), db)
  | statistics eventId => found db .statistics (db.books.statistics s eventId)
  | createRequest eventId rewards userId verificationData now rival =>
    settle s db .request
      (db.books.createRequest s eventId rewards userId verificationData (now.getD s.clock) rival)
  | transition id target operator reason now =>
    settle s db .request (db.books.transition s id target operator reason (now.getD s.clock))
  | cancelRequest id userId => settle s db .request (db.books.cancelRequest s id userId)
  | findRequest id => found db .request (db.books.findRequest id)
  | findRequests chosen => .ok (.requests (db.books.findRequests chosen), db)
  | findRequestsOfUser userId => .ok (.requests (db.books.findRequestsOfUser userId), db)
  | issue id operator now =>
    settle s db .grants (db.books.issue s id operator (now.getD s.clock))
  | findGrantsOfRequest requestId =>
    found db .grants ((db.books.findRequest requestId).map fun request =>
      db.books.findGrantsOfRequest request.id)
  | findGrantsNaming requestId => .ok (.grants (db.books.findGrantsOfRequest requestId), db)
  | useGrant id userId now =>
    settle s db .grant (db.books.useGrant id userId (now.getD s.clock))
  | findGrant id => found db .grant (db.books.findGrant id)
  | findGrantsOfUser userId => .ok (.grants (db.books.findGrantsOfUser userId), db)
  | expireGrants now =>
    settle s db .count (.ok (db.books.expireGrants (now.getD s.clock)))
  | verify eventId _ proof now =>
    found db .truth ((db.books.findEvent eventId).map fun event =>
      event.admits proof (now.getD s.clock))
  | record note =>
    match note with
    | none => .ok (.log none, db)
    | some note =>
      if s.journalAccepts 0 then
        .ok (.log (some (note.entry db.journal.nextId s.clock)),
          { db with journal := db.journal.record s.clock note })
      else .ok (.log none, db)
  | findLogs query => found db .logs (db.journal.page query)

end Action

end Promotions
