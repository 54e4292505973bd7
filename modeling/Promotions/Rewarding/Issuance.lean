import Promotions.Rewarding.Metadata

/-!
# Issuing rewards

`Books.issue` turns a request into grants: one for each wanted reward that still exists, in the
order of the request. Each grant takes one piece of the reward's stock and copies the reward as it
is at that moment. If a reward has no piece left, or was granted to the request before, nothing is
issued at all.
-/

namespace Promotions

namespace Grant

/-- The grant of a reward to the user of a request. -/
def ofReward (id : Id) (request : RewardRequest) (reward : Reward) (metadata : Json)
    (now : Instant) : Grant :=
  { id
    userId := request.userId
    eventId := request.eventId
    rewardId := reward.id
    requestId := request.id
    name := reward.name
    description := reward.description
    type := reward.type
    value := reward.value
    metadata
    status := .active
    issuedAt := some now
    expiryDate := reward.expiryDate
    usedAt := none }

end Grant

namespace Books

/-- The request of an identifier. -/
def findRequest (books : Books) (id : Id) : Except Failure RewardRequest :=
  match books.requests.find? id with
  | some request => .ok request
  | none => Failure.refuse (.requestNotFound id)

/-- The grants of a request, from the earliest. -/
def findGrantsOfRequest (books : Books) (requestId : Id) : List Grant :=
  earliestFirst Grant.issuedAt (books.grants.filter fun grant => grant.requestId = requestId)

/-- Takes one piece of a reward's stock. -/
def takeOne (books : Books) (rewardId : Id) (stamp : Instant) : Books :=
  { books with
    rewards := books.rewards.modify rewardId fun reward =>
      { reward with issuedQuantity := reward.issuedQuantity + 1, updatedAt := some stamp } }

/-- The note that a grant was issued. -/
def rewardIssued (grant : Grant) (view : Json) (operator : Option String) : Note :=
  { logType := .rewardIssued, actor := operator.getD "", eventId := some grant.eventId
    rewardId := some grant.rewardId, requestId := some grant.requestId
    details := .obj [("userReward", view)] }

/-- Grants one reward to the user of a request. -/
def issueOne (books : Books) (s : Session) (request : RewardRequest) (operator : Option String)
    (now : Instant) (reward : Reward) : Except Failure (Outcome Grant) :=
  if reward.totalQuantity ≤ reward.issuedQuantity then
    Failure.refuse (.outOfStock reward.id reward.name)
  else
    match Metadata.copy reward.metadata with
    | .error fault => Failure.breakOff fault
    | .ok copied =>
      let grant := Grant.ofReward books.grants.nextId request reward copied.content now
      match (books.takeOne reward.id s.stamp).addGrant? grant with
      | none => Failure.refuse (.alreadyIssued reward.id request.id)
      | some books =>
        match orBreakOff (copied.checked grant.shown) with
        | .error failure => .error failure
        | .ok view => .ok { answer := grant, books, notes := [rewardIssued grant view operator] }

/-- Grants the rewards of a list, those that exist, one after the other. -/
def issueEach (s : Session) (request : RewardRequest) (operator : Option String) (now : Instant) :
    Books → List Id → Except Failure (Outcome (List Grant))
  | books, [] => .ok { answer := [], books }
  | books, id :: rest =>
    match books.rewards.find? id with
    | none => issueEach s request operator now books rest
    | some reward =>
      match books.issueOne s request operator now reward with
      | .error failure => .error failure
      | .ok first =>
        match issueEach s request operator now first.books rest with
        | .error failure => .error failure
        | .ok others =>
          .ok
            { answer := first.answer :: others.answer
              books := others.books
              notes := first.notes ++ others.notes }

/-- Issues the rewards of a request. -/
def issueRequest (books : Books) (s : Session) (request : RewardRequest)
    (operator : Option String) (now : Instant) : Except Failure (Outcome (List Grant)) :=
  match request.wanted with
  | .error fault => Failure.breakOff fault
  | .ok ids =>
    if ids.isEmpty then Failure.refuse .nothingToIssue
    else
      match issueEach s request operator now books ids with
      | .error failure => .error failure
      | .ok issued =>
        if issued.answer.isEmpty then Failure.refuse .rewardsGone else .ok issued

/-- Issues the rewards of a request given by its identifier. A request that was approved or
delivered keeps the grants that it has. -/
def issue (books : Books) (s : Session) (id : Id) (operator : Option String) (now : Instant) :
    Except Failure (Outcome (List Grant)) :=
  match books.findRequest id with
  | .error failure => .error failure
  | .ok request =>
    if request.status = .approved ∨ request.status = .issued then
      .ok { answer := books.findGrantsOfRequest request.id, books }
    else books.issueRequest s request operator now

end Books

end Promotions
