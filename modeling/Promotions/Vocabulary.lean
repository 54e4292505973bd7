/-!
# The listed words of stored rows

Rows hold their statuses and kinds as words. The listed words have constructors of their own; a row
written by hand may hold any other word, which `unlisted` keeps as it is. `name` gives the word of a
value, and `Word.ofName` reads a word.
-/

namespace Promotions

/-- A type whose values are words, some of them listed. -/
class Word (α : Type) where
  name : α → String
  listed : List α
  unlisted : String → α
  name_unlisted : ∀ word, name (unlisted word) = word

namespace Word

variable {α : Type} [Word α]

/-- The value of a word. -/
def ofName (word : String) : α :=
  (listed.find? fun value : α => name value = word).getD (unlisted word)

/-- The words that are listed. -/
def words (α : Type) [Word α] : List String := (listed : List α).map name

@[simp]
theorem name_ofName (word : String) : name (ofName word : α) = word := by
  unfold ofName
  cases h : listed.find? fun value : α => name value = word with
  | none => exact name_unlisted word
  | some value => simpa using List.find?_some h

end Word

/-- The status of an event. Only an active event takes participations and reward requests. -/
inductive EventStatus where
  | draft
  | active
  | paused
  | ended
  | unlisted (word : String)
  deriving DecidableEq, Repr, Inhabited

namespace EventStatus

/-- The word of a status. -/
def name : EventStatus → String
  | draft => "DRAFT"
  | active => "ACTIVE"
  | paused => "PAUSED"
  | ended => "ENDED"
  | unlisted word => word

/-- The listed statuses. -/
def listed : List EventStatus := [draft, active, paused, ended]

instance : Word EventStatus := ⟨name, listed, unlisted, fun _ => rfl⟩

end EventStatus

/-- What a user has to show to take part in an event. -/
inductive ConditionType where
  | loginDays
  | inviteFriends
  | purchaseAmount
  | questCompletion
  | attendance
  | custom
  | unlisted (word : String)
  deriving DecidableEq, Repr, Inhabited

namespace ConditionType

/-- The word of a condition type. -/
def name : ConditionType → String
  | loginDays => "LOGIN_DAYS"
  | inviteFriends => "INVITE_FRIENDS"
  | purchaseAmount => "PURCHASE_AMOUNT"
  | questCompletion => "QUEST_COMPLETION"
  | attendance => "ATTENDANCE"
  | custom => "CUSTOM"
  | unlisted word => word

/-- The listed condition types. -/
def listed : List ConditionType :=
  [loginDays, inviteFriends, purchaseAmount, questCompletion, attendance, custom]

instance : Word ConditionType := ⟨name, listed, unlisted, fun _ => rfl⟩

end ConditionType

/-- The kind of a reward. -/
inductive RewardType where
  | point
  | item
  | coupon
  | currency
  | badge
  | unlisted (word : String)
  deriving DecidableEq, Repr, Inhabited

namespace RewardType

/-- The word of a kind of reward. -/
def name : RewardType → String
  | point => "POINT"
  | item => "ITEM"
  | coupon => "COUPON"
  | currency => "CURRENCY"
  | badge => "BADGE"
  | unlisted word => word

/-- The listed kinds of reward. -/
def listed : List RewardType := [point, item, coupon, currency, badge]

instance : Word RewardType := ⟨name, listed, unlisted, fun _ => rfl⟩

end RewardType

/-- The status of a participation. -/
inductive ParticipationStatus where
  | participated
  | rewarded
  | failed
  | unlisted (word : String)
  deriving DecidableEq, Repr, Inhabited

namespace ParticipationStatus

/-- The word of a status. -/
def name : ParticipationStatus → String
  | participated => "PARTICIPATED"
  | rewarded => "REWARDED"
  | failed => "FAILED"
  | unlisted word => word

/-- The listed statuses. -/
def listed : List ParticipationStatus := [participated, rewarded, failed]

instance : Word ParticipationStatus := ⟨name, listed, unlisted, fun _ => rfl⟩

end ParticipationStatus

/-- The status of a reward request. -/
inductive RequestStatus where
  | pending
  | approved
  | rejected
  | issued
  | cancelled
  | unlisted (word : String)
  deriving DecidableEq, Repr, Inhabited

namespace RequestStatus

/-- The word of a status. -/
def name : RequestStatus → String
  | pending => "PENDING"
  | approved => "APPROVED"
  | rejected => "REJECTED"
  | issued => "ISSUED"
  | cancelled => "CANCELLED"
  | unlisted word => word

/-- The listed statuses. -/
def listed : List RequestStatus := [pending, approved, rejected, issued, cancelled]

/-- A pending request may be approved, rejected or cancelled, and an approved one delivered; no
other change of status is allowed. -/
def mayBecome : RequestStatus → RequestStatus → Bool
  | pending, approved | pending, rejected | pending, cancelled | approved, issued => true
  | _, _ => false

instance : Word RequestStatus := ⟨name, listed, unlisted, fun _ => rfl⟩

end RequestStatus

/-- The status of a grant. -/
inductive GrantStatus where
  | active
  | used
  | expired
  | unlisted (word : String)
  deriving DecidableEq, Repr, Inhabited

namespace GrantStatus

/-- The word of a status. -/
def name : GrantStatus → String
  | active => "ACTIVE"
  | used => "USED"
  | expired => "EXPIRED"
  | unlisted word => word

/-- The listed statuses. -/
def listed : List GrantStatus := [active, used, expired]

instance : Word GrantStatus := ⟨name, listed, unlisted, fun _ => rfl⟩

end GrantStatus

/-- What a journal entry tells of. -/
inductive LogType where
  | eventCreated
  | eventUpdated
  | eventStatusChanged
  | eventParticipated
  | rewardCreated
  | rewardUpdated
  | rewardRequested
  | rewardApproved
  | rewardRejected
  | rewardCancelled
  | rewardIssued
  | rewardDelivered
  | rewardUsed
  | unlisted (word : String)
  deriving DecidableEq, Repr, Inhabited

namespace LogType

/-- The word of a kind of entry. -/
def name : LogType → String
  | eventCreated => "EVENT_CREATED"
  | eventUpdated => "EVENT_UPDATED"
  | eventStatusChanged => "EVENT_STATUS_CHANGED"
  | eventParticipated => "EVENT_PARTICIPATED"
  | rewardCreated => "REWARD_CREATED"
  | rewardUpdated => "REWARD_UPDATED"
  | rewardRequested => "REWARD_REQUESTED"
  | rewardApproved => "REWARD_APPROVED"
  | rewardRejected => "REWARD_REJECTED"
  | rewardCancelled => "REWARD_CANCELLED"
  | rewardIssued => "REWARD_ISSUED"
  | rewardDelivered => "REWARD_DELIVERED"
  | rewardUsed => "REWARD_USED"
  | unlisted word => word

/-- The listed kinds of entry. -/
def listed : List LogType :=
  [eventCreated, eventUpdated, eventStatusChanged, eventParticipated, rewardCreated, rewardUpdated,
    rewardRequested, rewardApproved, rewardRejected, rewardCancelled, rewardIssued, rewardDelivered,
    rewardUsed]

instance : Word LogType := ⟨name, listed, unlisted, fun _ => rfl⟩

end LogType

end Promotions
