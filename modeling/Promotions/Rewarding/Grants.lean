import Promotions.Outcome

/-!
# Grants

A grant is active until its user uses it or it expires. It can be used up to and including its
expiry date; after that, expiry marks it as expired.
-/

namespace Promotions

namespace Grant

/-- The grant's expiry date has passed. -/
def isPast (grant : Grant) (now : Instant) : Bool := grant.expiryDate.any (· < now)

/-- The grant is active although its expiry date has passed. -/
def isDue (grant : Grant) (now : Instant) : Bool := grant.status = .active && grant.isPast now

/-- The grant after it was used. -/
def used (grant : Grant) (now : Instant) : Grant :=
  { grant with status := .used, usedAt := some now }

/-- The grant after expiry: expired if it is due. -/
def expire (grant : Grant) (now : Instant) : Grant :=
  if grant.isDue now then { grant with status := .expired } else grant

end Grant

namespace Books

/-- The grant of an identifier. -/
def findGrant (books : Books) (id : Id) : Except Failure Grant :=
  match books.grants.find? id with
  | some grant => .ok grant
  | none => Failure.refuse (.grantNotFound id)

/-- The grants of a user, from the latest. -/
def findGrantsOfUser (books : Books) (userId : String) : List Grant :=
  latestFirst Grant.issuedAt (books.grants.filter fun grant => grant.userId = userId)

/-- The note that a grant was used. -/
def rewardUsed (grant : Grant) (userId : String) : Note :=
  { logType := .rewardUsed, actor := userId, eventId := some grant.eventId
    rewardId := some grant.rewardId, requestId := some grant.requestId
    details := .obj [("userRewardId", .str grant.id.text)] }

/-- Uses a grant. -/
def useGrant (books : Books) (id : Id) (userId : String) (now : Instant) :
    Except Failure (Outcome Grant) :=
  match books.findGrant id with
  | .error failure => .error failure
  | .ok grant =>
    if grant.userId ≠ userId then Failure.refuse .grantOfAnotherUser
    else if grant.status ≠ .active then Failure.refuse .grantNotUsable
    else if grant.isPast now then Failure.refuse .grantExpired
    else
      .ok
        { answer := grant.used now
          books := { books with grants := books.grants.put (grant.used now) }
          notes := [rewardUsed grant userId] }

/-- Marks the grants that are due as expired, and counts them. -/
def expireGrants (books : Books) (now : Instant) : Outcome Nat :=
  { answer := books.grants.count fun grant => grant.isDue now
    books :=
      { books with
        grants := { books.grants with rows := books.grants.rows.map fun g => g.expire now } } }

end Books

end Promotions
