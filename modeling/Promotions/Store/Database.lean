import Promotions.Vocabulary
import Promotions.Calendar
import Promotions.Store.Table

/-!
# The database

Six tables hold the business (`Books`): events, the rewards that belong to them, participations,
reward requests, the claims that live requests hold on rewards, and the grants that approved
requests were given. The seventh table is the journal, which no operation reads but the one that
lists it. A `Database` is both.

Statuses and kinds are words (`Promotions.Vocabulary`), free-form payloads are JSON values, which in
rows written by hand may be of any shape. Times that the store itself keeps may be missing in such
rows.
-/

namespace Promotions

/-- A promotion that users take part in during a window of time. -/
structure Event where
  id : Id
  title : String
  description : String
  startDate : Instant
  endDate : Instant
  status : EventStatus
  conditionType : ConditionType
  conditionValue : Json
  /-- Reward requests are approved as soon as they are made. -/
  autoReward : Bool
  /-- A user may take part more than once. -/
  allowMultiple : Bool
  participantCount : Int
  maxParticipants : Option Int
  createdBy : String
  updatedBy : Option String
  createdAt : Option Instant
  updatedAt : Option Instant
  deriving Repr, Inhabited

/-- Something of an event's catalogue, of which a limited quantity can be granted. -/
structure Reward where
  id : Id
  eventId : Id
  name : String
  description : Option String
  type : RewardType
  value : String
  metadata : Json
  totalQuantity : Int
  issuedQuantity : Int
  expiryDate : Option Instant
  createdBy : String
  updatedBy : Option String
  createdAt : Option Instant
  updatedAt : Option Instant
  deriving Repr, Inhabited

/-- One participation of a user in an event. -/
structure Participation where
  id : Id
  userId : String
  eventId : Id
  status : ParticipationStatus
  participatedAt : Instant
  verificationData : Json
  additionalData : Json
  isRewardRequested : Bool
  rewardRequestedAt : Option Instant
  rewardRequestId : Option Id
  rewardedAt : Option Instant
  participationCount : Int
  /-- Unique among all participations, where there is one. -/
  dedupeKey : Option String
  deriving Repr, Inhabited

/-- A user's request for rewards of an event. -/
structure RewardRequest where
  id : Id
  userId : String
  eventId : Id
  /-- A list of the texts of the identifiers of the wanted rewards. -/
  rewardIds : Json
  status : RequestStatus
  verificationData : Json
  requestedAt : Instant
  approvedAt : Option Instant
  issuedAt : Option Instant
  rejectedReason : Option String
  processedBy : Option String
  updatedAt : Option Instant
  deriving Repr, Inhabited

/-- A reward of an event that a live request of a user holds. -/
structure Claim where
  requestId : Id
  eventId : Id
  userId : String
  rewardId : Id
  createdAt : Instant
  deriving DecidableEq, Repr, Inhabited

/-- A reward given to a user, as the reward was at that moment. -/
structure Grant where
  id : Id
  userId : String
  eventId : Id
  rewardId : Id
  requestId : Id
  name : String
  description : Option String
  type : RewardType
  value : String
  metadata : Json
  status : GrantStatus
  issuedAt : Option Instant
  expiryDate : Option Instant
  usedAt : Option Instant
  deriving Repr, Inhabited

/-- An entry of the journal. -/
structure LogEntry where
  id : Id
  logType : LogType
  actor : String
  eventId : Option Id
  rewardId : Option Id
  requestId : Option Id
  details : Json
  createdAt : Option Instant
  deriving Repr, Inhabited

instance : Row Event := ⟨Event.id, 0xb1f6a3c48d2e4f7091c35ae200000000⟩
instance : Row Reward := ⟨Reward.id, 0xc27d09e5f4184a3bb6d80f6100000000⟩
instance : Row Participation := ⟨Participation.id, 0xd94e81b06a734c5d8e07b3f900000000⟩
instance : Row RewardRequest := ⟨RewardRequest.id, 0xe3a85c172f964e19a45b6d0c00000000⟩
instance : Row Grant := ⟨Grant.id, 0xf6128ed79b0c47a8bd3f21e400000000⟩
instance : Row LogEntry := ⟨LogEntry.id, 0xa85f3702ce614b92907ad8b500000000⟩

/-- The tables of the business. -/
structure Books where
  events : Table Event := {}
  rewards : Table Reward := {}
  participations : Table Participation := {}
  requests : Table RewardRequest := {}
  claims : List Claim := []
  grants : Table Grant := {}
  deriving Repr, Inhabited

/-- The tables of the business and the journal. -/
structure Database where
  books : Books := {}
  journal : Table LogEntry := {}
  deriving Repr, Inhabited

namespace Database

/-- The database without rows. -/
def empty : Database := {}

end Database

namespace Claim

/-- Two claims hold the same reward of an event for the same user. -/
def rivals (a b : Claim) : Bool :=
  a.eventId = b.eventId && a.userId = b.userId && a.rewardId = b.rewardId

end Claim

/-- A time that may be missing is not after another one; a missing time comes before all others. -/
def notAfter : Option Instant → Option Instant → Bool
  | none, _ => true
  | some _, none => false
  | some a, some b => a ≤ b

/-- The rows of a list from the latest to the earliest; rows of one time keep their order. -/
def latestFirst {ρ : Type} (time : ρ → Option Instant) (rows : List ρ) : List ρ :=
  rows.mergeSort fun a b => notAfter (time b) (time a)

/-- The rows of a list from the earliest to the latest; rows of one time keep their order. -/
def earliestFirst {ρ : Type} (time : ρ → Option Instant) (rows : List ρ) : List ρ :=
  rows.mergeSort fun a b => notAfter (time a) (time b)

namespace Books

/-- The user's participations in an event that count. -/
def participationsOf (books : Books) (eventId : Id) (userId : String) : List Participation :=
  books.participations.filter fun p =>
    p.eventId = eventId && p.userId = userId && p.status = .participated

/-- The user's latest participation in an event that counts. -/
def latestParticipation? (books : Books) (eventId : Id) (userId : String) : Option Participation :=
  (latestFirst (some ·.participatedAt) (books.participationsOf eventId userId)).head?

/-- Adds a claim, unless one on the same reward of the event is held for the user. -/
def addClaim? (books : Books) (claim : Claim) : Option Books :=
  if books.claims.any claim.rivals then none
  else some { books with claims := books.claims ++ [claim] }

theorem addClaim?_eq_none_iff {books : Books} {claim : Claim} :
    books.addClaim? claim = none ↔ ∃ held ∈ books.claims, claim.rivals held = true := by
  simp [addClaim?]

/-- Adds claims one after the other. -/
def addClaims? (books : Books) : List Claim → Option Books
  | [] => some books
  | claim :: rest => (books.addClaim? claim).bind fun books => books.addClaims? rest

/-- Gives up the claims of a request. -/
def releaseClaims (books : Books) (requestId : Id) : Books :=
  { books with claims := books.claims.filter fun claim => claim.requestId ≠ requestId }

/-- Adds a participation, unless its key is taken. -/
def addParticipation? (books : Books) (participation : Participation) : Option Books :=
  let taken := match participation.dedupeKey with
    | none => false
    | some key => books.participations.any fun p => p.dedupeKey = some key
  if taken then none
  else some { books with participations := books.participations.push participation }

/-- Adds a grant, unless its request was granted its reward before. -/
def addGrant? (books : Books) (grant : Grant) : Option Books :=
  let taken := books.grants.any fun g =>
    g.requestId = grant.requestId && g.rewardId = grant.rewardId
  if taken then none else some { books with grants := books.grants.push grant }

/-- A reward has never issued more than its total, nor less than nothing. -/
def stockOk (reward : Reward) : Bool :=
  0 ≤ reward.issuedQuantity && reward.issuedQuantity ≤ reward.totalQuantity

end Books

end Promotions
