import Promotions.Catalogue.Events
import Promotions.Form.Reward

/-!
# Rewards

Creating, changing and listing the rewards of an event. The total of a reward can be lowered only
down to what was issued. Changes are written as those of events are.
-/

namespace Promotions

namespace Reward

/-- A new reward of an event, with the expiry date of its draft given in UTC. -/
def ofDraft (id eventId : Id) (draft : RewardDraft) (expiryDate : Option Instant)
    (actor : String) (stamp : Instant) : Reward :=
  { id
    eventId
    name := draft.name
    description := draft.description
    type := draft.type
    value := draft.value
    metadata := draft.metadata.getD .null
    totalQuantity := draft.totalQuantity
    issuedQuantity := 0
    expiryDate
    createdBy := actor
    updatedBy := none
    createdAt := some stamp
    updatedAt := some stamp }

end Reward

namespace Books

/-- The reward of an identifier. -/
def findReward (books : Books) (id : Id) : Except Failure Reward :=
  match books.rewards.find? id with
  | some reward => .ok reward
  | none => Failure.refuse (.rewardNotFound id)

/-- The rewards of an event, in order of creation time, and of name where that is the same. -/
def findRewardsOf (books : Books) (eventId : Id) : List Reward :=
  (books.rewards.filter fun reward => reward.eventId = eventId).mergeSort fun a b =>
    !notAfter b.createdAt a.createdAt || (a.createdAt = b.createdAt && a.name ≤ b.name)

/-- The note that a reward was created. -/
def rewardCreated (reward : Reward) (view : Json) (actor : String) : Note :=
  { logType := .rewardCreated, actor, eventId := some reward.eventId, rewardId := some reward.id
    details := .obj [("reward", view)] }

/-- Creates a reward. -/
def createReward (books : Books) (s : Session) (draft : RewardDraft) (actor : String) :
    Except Failure (Outcome Reward) :=
  match books.findEvent draft.eventId with
  | .error failure => .error failure
  | .ok event =>
    match Timestamp.stored? draft.expiryDate with
    | .error failure => .error failure
    | .ok expiryDate =>
      if !fits64 draft.totalQuantity then Failure.breakOff .integerRange
      else
        let reward :=
          Reward.ofDraft books.rewards.nextId event.id draft expiryDate actor s.stamp
        if !stockOk reward then Failure.breakOff .constraint
        else
          match orBreakOff reward.shown with
          | .error failure => .error failure
          | .ok view =>
            .ok
              { answer := reward
                books := { books with rewards := books.rewards.push reward }
                notes := [rewardCreated reward view actor] }

/-- Whether the total of a reward may be edited as asked. -/
def checkTotal (reward : Reward) : Edit Int → Except Failure Unit
  | .keep => .ok ()
  | .clear => Failure.refuse (.cannotBeCleared "total_quantity")
  | .set total =>
    if total < reward.issuedQuantity then
      Failure.refuse (.totalBelowIssued total reward.issuedQuantity)
    else .ok ()

/-- The expiry date that an edit leaves. -/
def editExpiry (old : Option Instant) : Edit Timestamp → Except Failure (Option Instant)
  | .keep => .ok old
  | .clear => .ok none
  | .set date => date.stored.map some

end Books

namespace Reward

/-- The reward with a patch written into it; the expiry date is given in UTC. -/
def patched (reward : Reward) (patch : RewardPatch) (expiryDate : Option Instant)
    (actor : String) : Reward :=
  { reward with
    name := patch.name.getD reward.name
    description := patch.description.apply reward.description
    type := patch.type.getD reward.type
    value := patch.value.getD reward.value
    metadata :=
      match patch.metadata with
      | .keep => reward.metadata
      | .clear => .null
      | .set value => value
    totalQuantity := patch.totalQuantity.getD reward.totalQuantity
    expiryDate
    updatedBy := some actor }

/-- No column that a patch can write differs between two versions of a reward. -/
def sameColumns (old new : Reward) : Bool :=
  old.name = new.name && old.description = new.description && old.type = new.type &&
    old.value = new.value && Json.looselyEq old.metadata new.metadata &&
    old.totalQuantity = new.totalQuantity && old.expiryDate = new.expiryDate &&
    old.updatedBy = new.updatedBy

/-- The new version of a reward with the time of its last change, which moves only if some column
differs. -/
def restamped (old new : Reward) (stamp : Instant) : Reward :=
  { new with updatedAt := if sameColumns old new then old.updatedAt else some stamp }

/-- What is stored of a new version of a reward: metadata that is loosely the old one is not
written. -/
def stored (old new : Reward) : Reward :=
  { new with
    metadata := if Json.looselyEq old.metadata new.metadata then old.metadata else new.metadata }

end Reward

namespace RewardPatch

/-- The patch clears a column that may not be empty and that nothing guards. -/
def clearsColumn (patch : RewardPatch) : Bool :=
  patch.name.isClear || patch.type.isClear || patch.value.isClear

end RewardPatch

namespace Books

/-- The note that a reward was changed. -/
def rewardUpdated (reward : Reward) (view : Json) (changes : List String) (actor : String) : Note :=
  { logType := .rewardUpdated, actor, eventId := some reward.eventId, rewardId := some reward.id
    details := .obj [("changes", .arr (changes.map .str)), ("reward", view)] }

/-- Changes a reward. The answer is the new version, which may show metadata that is loosely the
stored one. -/
def updateReward (books : Books) (s : Session) (id : Id) (patch : RewardPatch) (actor : String) :
    Except Failure (Outcome Reward) :=
  match books.findReward id with
  | .error failure => .error failure
  | .ok reward =>
    match checkTotal reward patch.totalQuantity with
    | .error failure => .error failure
    | .ok () =>
      match editExpiry reward.expiryDate patch.expiryDate with
      | .error failure => .error failure
      | .ok expiryDate =>
        if !fits64? patch.totalQuantity.value? then Failure.breakOff .integerRange
        else if patch.clearsColumn then Failure.breakOff .constraint
        else
          let new := reward.restamped (reward.patched patch expiryDate actor) s.stamp
          match orBreakOff new.shown with
          | .error failure => .error failure
          | .ok view =>
            .ok
              { answer := new
                books := { books with rewards := books.rewards.put (reward.stored new) }
                notes := [rewardUpdated new view patch.changes actor] }

end Books

end Promotions
