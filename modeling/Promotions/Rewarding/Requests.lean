import Promotions.Condition
import Promotions.Catalogue.Events
import Promotions.Form.Request
import Promotions.Rewarding.Issuance

/-!
# Reward requests

A user asks for rewards of an event (`Books.createRequest`), and an operator decides
(`Books.transition`). A live request, one that is pending, approved or delivered, holds a claim on
each of its rewards, and no two claims of a user hold the same reward of an event. Approval issues
all rewards of the request or none.

Making a request has two halves: `Books.admitRequest` checks it against the books, and
`Books.fileRequest` writes it. In between another request may have taken one of the claims; then the
writing is refused as a duplicate.
-/

namespace Promotions

namespace RewardRequest

/-- A new request for the rewards of a list. -/
def filed (id eventId : Id) (items : List Json) (userId : String) (verificationData : Json)
    (now stamp : Instant) : RewardRequest :=
  { id
    userId
    eventId
    rewardIds := .arr items
    status := .pending
    verificationData := verificationData.orEmpty
    requestedAt := now
    approvedAt := none
    issuedAt := none
    rejectedReason := none
    processedBy := none
    updatedAt := some stamp }

/-- The request once it is approved. -/
def approved (request : RewardRequest) (operator : Option String) (now : Instant) :
    RewardRequest :=
  { request with
    status := .approved, approvedAt := some now, issuedAt := some now, processedBy := operator }

/-- The request once it is rejected. -/
def rejected (request : RewardRequest) (operator reason : Option String) : RewardRequest :=
  { request with status := .rejected, rejectedReason := reason, processedBy := operator }

/-- The request once it is cancelled. -/
def cancelled (request : RewardRequest) (operator : Option String) : RewardRequest :=
  { request with status := .cancelled, processedBy := operator }

/-- The request once its rewards are delivered. -/
def delivered (request : RewardRequest) (operator : Option String) (now : Instant) :
    RewardRequest :=
  { request with status := .issued, issuedAt := some now, processedBy := operator }

end RewardRequest

namespace Books

/-! ### Moving a request to another status -/

/-- A note on a request, with its first wanted reward and the items of its wanted list. -/
def requestNote (logType : LogType) (actor : Option String) (request : RewardRequest)
    (first : Option Id) (items : List Json) (more : List (String × Json)) : Note :=
  { logType, actor := actor.getD "", eventId := some request.eventId, rewardId := first
    requestId := some request.id
    details := .obj
      ([("userId", .str request.userId), ("rewardIds", .arr items),
        ("status", .str request.status.name)] ++ more) }

/-- The note that a request has got another status. -/
def requestMoved (logType : LogType) (operator : Option String) (old new : RewardRequest)
    (more : List (String × Json)) : Except Failure Note :=
  match orBreakOff new.firstReward with
  | .error failure => .error failure
  | .ok first =>
    match orBreakOff new.items with
    | .error failure => .error failure
    | .ok items =>
      .ok (requestNote logType operator new first items
        (("previousStatus", .str old.status.name) :: more))

/-- The user's latest participation in the event of a request, if it carries the request, is
marked as rewarded. -/
def markRewarded (books : Books) (request : RewardRequest) (now : Instant) : Books :=
  match books.latestParticipation? request.eventId request.userId with
  | none => books
  | some latest =>
    if latest.rewardRequestId = some request.id then
      { books with
        participations := books.participations.modify latest.id fun p =>
          { p with rewardedAt := some now } }
    else books

/-- Puts a changed request in place, as last changed now. -/
def putRequest (books : Books) (s : Session) (request : RewardRequest) : Books :=
  { books with requests := books.requests.put { request with updatedAt := some s.stamp } }

/-- Approves a request: its rewards are issued first. -/
def approveRequest (books : Books) (s : Session) (request : RewardRequest)
    (operator : Option String) (now : Instant) : Except Failure (Outcome RewardRequest) :=
  match books.issueRequest s request operator now with
  | .error failure => .error failure
  | .ok issued =>
    let approved := { request.approved operator now with updatedAt := some s.stamp }
    match requestMoved .rewardApproved operator request approved
        [("grantCount", .int issued.answer.length)] with
    | .error failure => .error failure
    | .ok note =>
      .ok
        { answer := approved
          books := (issued.books.putRequest s approved).markRewarded approved now
          notes := issued.notes ++ [note] }

/-- Gives a request another status without issuing anything. -/
def settleRequest (books : Books) (s : Session) (request settled : RewardRequest)
    (logType : LogType) (operator : Option String) (more : List (String × Json)) :
    Except Failure (Outcome RewardRequest) :=
  match requestMoved logType operator request settled more with
  | .error failure => .error failure
  | .ok note =>
    .ok
      { answer := { settled with updatedAt := some s.stamp }
        books := books.putRequest s settled
        notes := [note] }

/-- Moves a request to a status that it may take. -/
def moveRequest (books : Books) (s : Session) (request : RewardRequest) (target : RequestStatus)
    (operator reason : Option String) (now : Instant) : Except Failure (Outcome RewardRequest) :=
  match target with
  | .approved => books.approveRequest s request operator now
  | .rejected =>
    (books.releaseClaims request.id).settleRequest s request (request.rejected operator reason)
      .rewardRejected operator [("rejectedReason", .ofText? reason)]
  | .cancelled =>
    (books.releaseClaims request.id).settleRequest s request (request.cancelled operator)
      .rewardCancelled operator []
  | .issued =>
    books.settleRequest s request (request.delivered operator now) .rewardDelivered operator []
  | .pending | .unlisted _ => .ok { answer := request, books }

/-- Moves a request to another status. The same status again changes nothing. -/
def transition (books : Books) (s : Session) (id : Id) (target : RequestStatus)
    (operator reason : Option String) (now : Instant) : Except Failure (Outcome RewardRequest) :=
  if target ∉ RequestStatus.listed then Failure.refuse (.unknownStatus target.name)
  else
    match books.findRequest id with
    | .error failure => .error failure
    | .ok request =>
      if target = request.status then .ok { answer := request, books }
      else if !request.status.mayBecome target then
        Failure.refuse (.transitionNotAllowed request.status target)
      else books.moveRequest s request target operator reason now

/-- Cancels a request of the user's own. -/
def cancelRequest (books : Books) (s : Session) (id : Id) (userId : String) :
    Except Failure (Outcome RewardRequest) :=
  match books.findRequest id with
  | .error failure => .error failure
  | .ok request =>
    if request.userId ≠ userId then Failure.refuse .requestOfAnotherUser
    else books.transition s request.id .cancelled (some userId) none s.clock

/-! ### Making a request -/

/-- The claims that a request on some rewards needs. -/
def claimsFor (requestId eventId : Id) (userId : String) (stamp : Instant) (rewards : List Id) :
    List Claim :=
  rewards.map fun rewardId => { requestId, eventId, userId, rewardId, createdAt := stamp }

/-- Checks a request against the books: the event, and the wanted rewards, each once. -/
def admitRequest (books : Books) (eventId : Id) (spellings : List IdSpelling) (userId : String)
    (verificationData : Json) (now : Instant) : Except Failure (Event × List Id) :=
  match books.findEvent eventId with
  | .error failure => .error failure
  | .ok event =>
    match Id.orderedUnique spellings with
    | .error fault => Failure.breakOff (.badId fault)
    | .ok rewards =>
      if rewards.isEmpty then Failure.refuse .noRewardIds
      else if !rewards.all fun id => (books.rewards.find? id).any (·.eventId = event.id) then
        Failure.refuse .rewardsNotOfEvent
      else if !event.isActiveAt now then Failure.refuse .eventNotActive
      else if !event.admits verificationData now then Failure.refuse .conditionsNotMet
      else if books.claims.any fun claim =>
          claim.eventId = event.id && claim.userId = userId && rewards.contains claim.rewardId then
        Failure.refuse .alreadyRequested
      else .ok (event, rewards)

/-- The user's latest participation in an event carries a request from now on. -/
def linkParticipation (books : Books) (request : RewardRequest) (now : Instant) : Books :=
  match books.latestParticipation? request.eventId request.userId with
  | none => books
  | some latest =>
    { books with
      participations := books.participations.modify latest.id fun p =>
        { p with
          isRewardRequested := true
          rewardRequestedAt := some now
          rewardRequestId := some request.id } }

/-- Writes a request: the row, its claims, the link from the participation, and the note. -/
def writeRequest (books : Books) (s : Session) (event : Event) (rewards : List Id)
    (userId : String) (verificationData : Json) (now : Instant) :
    Except Failure (Outcome RewardRequest) :=
  let items := rewards.map fun id => Json.str id.text
  let request := RewardRequest.filed books.requests.nextId event.id items userId verificationData
    now s.stamp
  let added := { books with requests := books.requests.push request }
  match added.addClaims? (claimsFor request.id event.id userId s.stamp rewards) with
  | none => Failure.refuse .alreadyRequested
  | some books =>
    .ok
      { answer := request
        books := books.linkParticipation request now
        notes := [requestNote .rewardRequested (some userId) request rewards.head? items []] }

/-- Approves a request at once in the name of the system. If the approval is refused, the request
stays pending, as if nobody had tried. -/
def approveAtOnce (s : Session) (filed : Outcome RewardRequest) :
    Except Failure (Outcome RewardRequest) :=
  match filed.books.transition s filed.answer.id .approved (some s.systemOperator) none s.clock with
  | .ok approved => .ok { approved with notes := filed.notes ++ approved.notes }
  | .error (.refused _) => .ok filed
  | .error (.fault fault) => Failure.breakOff fault

/-- Writes a request, and approves it at once if the event says so. -/
def fileRequest (books : Books) (s : Session) (event : Event) (rewards : List Id)
    (userId : String) (verificationData : Json) (now : Instant) :
    Except Failure (Outcome RewardRequest) :=
  match books.writeRequest s event rewards userId verificationData now with
  | .error failure => .error failure
  | .ok filed => if event.autoReward then approveAtOnce s filed else .ok filed

/-- Asks for rewards of an event. A rival claim, if given, appears after the check and before the
writing. -/
def createRequest (books : Books) (s : Session) (eventId : Id) (spellings : List IdSpelling)
    (userId : String) (verificationData : Json) (now : Instant) (rival : Option Claim) :
    Except Failure (Outcome RewardRequest) :=
  match books.admitRequest eventId spellings userId verificationData now with
  | .error failure => .error failure
  | .ok (event, rewards) =>
    match (match rival with
      | none => some books
      | some claim => books.addClaim? claim) with
    | none => Failure.refuse .alreadyRequested
    | some books => books.fileRequest s event rewards userId verificationData now

/-! ### Listing requests -/

/-- The requests of a user, from the latest. -/
def findRequestsOfUser (books : Books) (userId : String) : List RewardRequest :=
  latestFirst (some ·.requestedAt)
    (books.requests.filter fun request => request.userId = userId)

/-- The requests that a filter chooses, from the latest. -/
def findRequests (books : Books) (chosen : RequestFilter) : List RewardRequest :=
  latestFirst (some ·.requestedAt) <| books.requests.filter fun request =>
    Text.isWanted chosen.status request.status.name && Text.isWanted chosen.userId request.userId &&
      chosen.eventId.all (· = request.eventId)

end Books

end Promotions
