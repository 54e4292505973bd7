import Promotions.Failure
import Promotions.Store.Database

/-!
# When a user may take part

An event takes participations and requests while it is active: its status is active and the time is
within its window, both ends included. Besides, its condition has to be met by the proof that the
user sends. `Event.admits` puts both together. `EventSketch.admits` asks the same of an event that
is not stored, in which something may be missing and times may carry offsets.
-/

namespace Promotions

namespace ConditionType

/-- A proof meets a condition. Presence is its own proof; a purchase is proved by a `purchaseId`
that counts as a value, invitations by a list `invitedUsers` with some item. No other condition can
be met. A proof that is no object proves nothing. -/
def isMetBy : ConditionType → Json → Bool
  | loginDays, _ | attendance, _ => true
  | purchaseAmount, proof => (proof.get? "purchaseId").any Json.truthy
  | inviteFriends, proof =>
    match proof.get? "invitedUsers" with
    | some (.arr (_ :: _)) => true
    | _ => false
  | questCompletion, _ | custom, _ | unlisted _, _ => false

end ConditionType

namespace Event

/-- The event is active at a time. -/
def isActiveAt (event : Event) (now : Instant) : Bool :=
  event.status = .active && event.startDate ≤ now && now ≤ event.endDate

/-- The event is active at a time and its condition is met by a proof. -/
def admits (event : Event) (proof : Json) (now : Instant) : Bool :=
  event.isActiveAt now && event.conditionType.isMetBy proof

end Event

/-- What counts of an event that is not stored. -/
structure EventSketch where
  status : Option EventStatus
  startDate : Option Timestamp
  endDate : Option Timestamp
  conditionType : Option ConditionType
  deriving DecidableEq, Repr

namespace EventSketch

/-- Whether a time is not after another one, if there are both. -/
def inOrder (first second : Option Timestamp) : Except Fault Bool :=
  match first, second with
  | some t, some u =>
    match t.notAfter? u with
    | some holds => .ok holds
    | none => .error .incomparable
  | _, _ => .error .incomparable

/-- The event is active at a time. Its status is looked at first, then the start of its window, and
then the end. -/
def isActiveAt (event : EventSketch) (now : Timestamp) : Except Fault Bool :=
  if event.status ≠ some .active then .ok false
  else
    match inOrder event.startDate now with
    | .error fault => .error fault
    | .ok false => .ok false
    | .ok true => inOrder now event.endDate

/-- The event is active at a time and its condition is met by a proof. -/
def admits (event : EventSketch) (proof : Json) (now : Timestamp) : Except Fault Bool :=
  (event.isActiveAt now).map fun isActive =>
    isActive && event.conditionType.any fun condition => condition.isMetBy proof

end EventSketch

end Promotions
