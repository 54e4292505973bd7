import Mathlib.Tactic.SplitIfs
import Promotions.Rewarding.Requests

/-!
# What issuing and moving requests write

`Granting` lists what issuing the rewards of a request writes: reward after reward, those that no
longer exist are passed over, and each of the others has a piece of its stock taken and a grant
added. `Moving` lists what a request's change of status writes, in four cases, the first of which is
an approval with its grants. Both are relations between the books before and after; the operations
are inverted into them once (`issueEach_eq_ok`, `moveRequest_eq_ok`, `transition_eq_ok`,
`cancelRequest_eq_ok`), and no later proof opens an operation again.
-/

namespace Promotions.Books

/-! ### Grants -/

/-- The books after a grant was added and a piece of its reward was taken. -/
def withGrant (books : Books) (stamp : Instant) (grant : Grant) : Books :=
  { books.takeOne grant.rewardId stamp with grants := books.grants.push grant }

/-- **The rewards of a list are granted** to the user of a request, one after the other. -/
inductive Granting (s : Session) (request : RewardRequest) (operator : Option String)
    (now : Instant) : Books → List Id → Books → List Grant → List Note → Prop
  /-- Nothing is left to grant. -/
  | done (books : Books) : Granting s request operator now books [] books [] []
  /-- A reward that does not exist is passed over. -/
  | skipped {books after : Books} {id : Id} {rest : List Id} {grants : List Grant}
      {notes : List Note} (hnone : books.rewards.find? id = none)
      (hrest : Granting s request operator now books rest after grants notes) :
      Granting s request operator now books (id :: rest) after grants notes
  /-- A reward that is in stock, and that the request was not granted before, is granted. -/
  | granted {books after : Books} {id : Id} {rest : List Id} {grants : List Grant}
      {notes : List Note} {reward : Reward} {copied : Metadata.Copied} {grant : Grant} {view : Json}
      (hreward : books.rewards.find? id = some reward)
      (hstock : reward.issuedQuantity < reward.totalQuantity)
      (hcopied : Metadata.copy reward.metadata = .ok copied)
      (hgrant : grant = Grant.ofReward books.grants.nextId request reward copied.content now)
      (hnew : ∀ g ∈ books.grants.rows, ¬(g.requestId = request.id ∧ g.rewardId = reward.id))
      (hview : copied.checked grant.shown = .ok view)
      (hrest : Granting s request operator now (books.withGrant s.stamp grant) rest after grants
        notes) :
      Granting s request operator now books (id :: rest) after (grant :: grants)
        (rewardIssued grant view operator :: notes)

theorem orBreakOff_eq_ok {α : Type} {result : Except Fault α} {value : α}
    (h : orBreakOff result = .ok value) : result = .ok value := by
  cases result with
  | ok found => exact congrArg _ (Except.ok.inj h)
  | error fault => cases h

theorem orBreakOff_ne_refused {α : Type} {result : Except Fault α} {refusal : Refusal} :
    orBreakOff result ≠ .error (.refused refusal) := by
  cases result <;> simp [orBreakOff, Failure.breakOff]

theorem addGrant?_eq_some {books after : Books} {grant : Grant}
    (h : books.addGrant? grant = some after) :
    after = { books with grants := books.grants.push grant } ∧
      ∀ g ∈ books.grants.rows, ¬(g.requestId = grant.requestId ∧ g.rewardId = grant.rewardId) := by
  unfold addGrant? at h
  dsimp only at h
  split at h
  · cases h
  · next htaken =>
    refine ⟨(Option.some.inj h).symm, fun g hg heq => htaken ?_⟩
    simp only [Table.any, List.any_eq_true, Bool.and_eq_true, decide_eq_true_eq]
    exact ⟨g, hg, heq⟩

/-- **One grant**: the reward is in stock and was not granted to the request before. -/
theorem issueOne_eq_ok {s : Session} {books : Books} {request : RewardRequest}
    {operator : Option String} {now : Instant} {reward : Reward} {o : Outcome Grant}
    (h : books.issueOne s request operator now reward = .ok o) :
    reward.issuedQuantity < reward.totalQuantity ∧
      (∀ g ∈ books.grants.rows, ¬(g.requestId = request.id ∧ g.rewardId = reward.id)) ∧
      o.books = books.withGrant s.stamp o.answer ∧
      ∃ copied view, Metadata.copy reward.metadata = .ok copied ∧
        o.answer = Grant.ofReward books.grants.nextId request reward copied.content now ∧
        copied.checked o.answer.shown = .ok view ∧
        o.notes = [rewardIssued o.answer view operator] := by
  unfold issueOne at h
  split at h
  · cases h
  · next hstock =>
    split at h
    · cases h
    · next copied hcopied =>
      simp only at h
      split at h
      · cases h
      · next added hadded =>
        split at h
        · cases h
        · next view hview =>
          cases Except.ok.inj h
          obtain ⟨rfl, hnew⟩ := addGrant?_eq_some hadded
          exact ⟨by omega, hnew, rfl, copied, view, hcopied, rfl, orBreakOff_eq_ok hview, rfl⟩

theorem issueEach_eq_ok {s : Session} {request : RewardRequest} {operator : Option String}
    {now : Instant} {ids : List Id} {books : Books} {o : Outcome (List Grant)}
    (h : issueEach s request operator now books ids = .ok o) :
    Granting s request operator now books ids o.books o.answer o.notes := by
  induction ids generalizing books o with
  | nil =>
    cases Except.ok.inj h
    exact .done books
  | cons id rest ih =>
    rw [issueEach] at h
    split at h
    · next hnone => exact .skipped hnone (ih h)
    · next reward hreward =>
      split at h
      · cases h
      · next first hfirst =>
        split at h
        · cases h
        · next others hothers =>
          cases Except.ok.inj h
          obtain ⟨hstock, hnew, hbooks, copied, view, hcopied, hanswer, hview, hnotes⟩ :=
            issueOne_eq_ok hfirst
          rw [hnotes]
          exact .granted hreward hstock hcopied hanswer hnew hview (hbooks ▸ ih hothers)

theorem addGrant?_of_new {books : Books} {grant : Grant}
    (h : ∀ g ∈ books.grants.rows, ¬(g.requestId = grant.requestId ∧ g.rewardId = grant.rewardId)) :
    books.addGrant? grant = some { books with grants := books.grants.push grant } := by
  unfold addGrant?
  dsimp only
  rw [if_neg]
  simpa [Table.any] using h

theorem Granting.issueEach_eq {s : Session} {request : RewardRequest} {operator : Option String}
    {now : Instant} {books after : Books} {ids : List Id} {grants : List Grant} {notes : List Note}
    (h : Granting s request operator now books ids after grants notes) :
    issueEach s request operator now books ids = .ok { answer := grants, books := after, notes } := by
  induction h with
  | done books => rfl
  | skipped hnone hrest ih =>
    rw [issueEach, hnone]
    exact ih
  | @granted books after id rest grants notes reward copied grant view hreward hstock hcopied hgrant
      hnew hview hrest ih =>
    have hadded : (books.takeOne reward.id s.stamp).addGrant? grant =
        some (books.withGrant s.stamp grant) := by
      rw [hgrant]
      exact addGrant?_of_new hnew
    have hone : books.issueOne s request operator now reward = .ok
        { answer := grant, books := books.withGrant s.stamp grant
          notes := [rewardIssued grant view operator] } := by
      unfold issueOne
      rw [if_neg (Int.not_le.mpr hstock), hcopied]
      dsimp only
      rw [← hgrant, hadded, hview]
      rfl
    rw [issueEach, hreward]
    dsimp only
    rw [hone]
    dsimp only
    rw [ih]
    rfl

theorem issueRequest_eq_ok {s : Session} {books : Books} {request : RewardRequest}
    {operator : Option String} {now : Instant} {o : Outcome (List Grant)}
    (h : books.issueRequest s request operator now = .ok o) :
    ∃ ids, request.wanted = .ok ids ∧ ids ≠ [] ∧
      Granting s request operator now books ids o.books o.answer o.notes ∧ o.answer ≠ [] := by
  unfold issueRequest at h
  split at h
  · cases h
  · next ids hids =>
    split at h
    · cases h
    · next hempty =>
      split at h
      · cases h
      · next issued hissued =>
        split at h
        · cases h
        · next hnone =>
          cases Except.ok.inj h
          exact ⟨ids, hids, by simpa using hempty, issueEach_eq_ok hissued, by simpa using hnone⟩

/-! ### Changes of status -/

/-- **A request moves to another status**: what is written for each of the four. -/
inductive Moving (s : Session) (books : Books) (request : RewardRequest)
    (operator reason : Option String) (now : Instant) : RequestStatus → Books → List Note → Prop
  /-- All wanted rewards are granted, and then the request is marked. -/
  | approved {ids : List Id} {issued : Books} {grants : List Grant} {notes : List Note}
      {note : Note} (hwanted : request.wanted = .ok ids) (hids : ids ≠ [])
      (hgranting : Granting s request operator now books ids issued grants notes)
      (hgrants : grants ≠ [])
      (hnote : requestMoved .rewardApproved operator request (request.approved operator now)
        [("grantCount", .int grants.length)] = .ok note) :
      Moving s books request operator reason now .approved
        ((issued.putRequest s (request.approved operator now)).markRewarded request now)
        (notes ++ [note])
  /-- The claims are released. -/
  | rejected {note : Note}
      (hnote : requestMoved .rewardRejected operator request (request.rejected operator reason)
        [("rejectedReason", .ofText? reason)] = .ok note) :
      Moving s books request operator reason now .rejected
        ((books.releaseClaims request.id).putRequest s (request.rejected operator reason)) [note]
  /-- The claims are released. -/
  | cancelled {note : Note}
      (hnote : requestMoved .rewardCancelled operator request (request.cancelled operator) [] =
        .ok note) :
      Moving s books request operator reason now .cancelled
        ((books.releaseClaims request.id).putRequest s (request.cancelled operator)) [note]
  /-- Only the request changes. -/
  | delivered {note : Note}
      (hnote : requestMoved .rewardDelivered operator request (request.delivered operator now) [] =
        .ok note) :
      Moving s books request operator reason now .issued
        (books.putRequest s (request.delivered operator now)) [note]

theorem findRequest_eq_ok {books : Books} {id : Id} {request : RewardRequest}
    (h : books.findRequest id = .ok request) : books.requests.find? id = some request := by
  unfold findRequest at h
  split at h
  · next found hfind => rw [hfind, Except.ok.inj h]
  · cases h

theorem requestMoved_eq_ok {logType : LogType} {operator : Option String} {old new : RewardRequest}
    {more : List (String × Json)} {note : Note}
    (h : requestMoved logType operator old new more = .ok note) :
    ∃ first items, new.firstReward = .ok first ∧ note = requestNote logType operator new first items
      (("previousStatus", .str old.status.name) :: more) := by
  unfold requestMoved at h
  split at h
  · cases h
  · next first hfirst =>
    split at h
    · cases h
    · next items _ =>
      exact ⟨first, items, orBreakOff_eq_ok hfirst, (Except.ok.inj h).symm⟩

theorem settleRequest_eq_ok {s : Session} {books : Books} {request settled : RewardRequest}
    {logType : LogType} {operator : Option String} {more : List (String × Json)}
    {o : Outcome RewardRequest}
    (h : books.settleRequest s request settled logType operator more = .ok o) :
    ∃ note, requestMoved logType operator request settled more = .ok note ∧
      o.books = books.putRequest s settled ∧ o.notes = [note] := by
  unfold settleRequest at h
  split at h
  · cases h
  · next note hnote =>
    cases Except.ok.inj h
    exact ⟨note, hnote, rfl, rfl⟩

variable {s : Session} {books : Books} {operator reason : Option String} {now : Instant}
  {o : Outcome RewardRequest}

theorem moveRequest_eq_ok {request : RewardRequest} {target : RequestStatus}
    (hmay : request.status.mayBecome target = true)
    (h : books.moveRequest s request target operator reason now = .ok o) :
    Moving s books request operator reason now target o.books o.notes := by
  unfold moveRequest at h
  split at h
  · unfold approveRequest at h
    split at h
    · cases h
    · next issued hissued =>
      simp only at h
      split at h
      · cases h
      · next note hnote =>
        cases Except.ok.inj h
        obtain ⟨ids, hwanted, hids, hgranting, hgrants⟩ := issueRequest_eq_ok hissued
        exact .approved hwanted hids hgranting hgrants hnote
  · obtain ⟨note, hnote, hbooks, hnotes⟩ := settleRequest_eq_ok h
    rw [hbooks, hnotes]
    exact .rejected hnote
  · obtain ⟨note, hnote, hbooks, hnotes⟩ := settleRequest_eq_ok h
    rw [hbooks, hnotes]
    exact .cancelled hnote
  · obtain ⟨note, hnote, hbooks, hnotes⟩ := settleRequest_eq_ok h
    rw [hbooks, hnotes]
    exact .delivered hnote
  · cases hs : request.status <;> simp [hs, RequestStatus.mayBecome] at hmay
  · cases hs : request.status <;> simp [hs, RequestStatus.mayBecome] at hmay

/-- **A transition** finds its request, and either changes nothing, because the request has the
status already, or moves it. -/
theorem transition_eq_ok {id : Id} {target : RequestStatus}
    (h : books.transition s id target operator reason now = .ok o) :
    ∃ request, books.requests.find? id = some request ∧
      (target = request.status ∧ o.books = books ∧ o.notes = [] ∨
        request.status.mayBecome target = true ∧
          Moving s books request operator reason now target o.books o.notes) := by
  unfold transition at h
  split at h
  · cases h
  · split at h
    · cases h
    · next request hfind =>
      refine ⟨request, findRequest_eq_ok hfind, ?_⟩
      split at h
      · next hsame =>
        cases Except.ok.inj h
        exact Or.inl ⟨hsame, rfl, rfl⟩
      · split at h
        · cases h
        · next hmay =>
          have hmay' : request.status.mayBecome target = true := by simpa using hmay
          exact Or.inr ⟨hmay', moveRequest_eq_ok hmay' h⟩

theorem transition_eq_approveRequest {request : RewardRequest}
    (hfound : books.requests.find? request.id = some request) (hpending : request.status = .pending)
    (s : Session) (operator reason : Option String) (now : Instant) :
    books.transition s request.id .approved operator reason now =
      books.approveRequest s request operator now := by
  have hfind : books.findRequest request.id = .ok request := by
    unfold findRequest
    rw [hfound]
  unfold transition
  rw [if_neg (by decide), hfind]
  dsimp only
  rw [hpending, if_neg (by decide), if_neg (by decide)]
  rfl

theorem Moving.transition_eq {request : RewardRequest} {after : Books} {notes : List Note}
    (h : Moving s books request operator reason now .approved after notes)
    (hfound : books.requests.find? request.id = some request) (hpending : request.status = .pending) :
    books.transition s request.id .approved operator reason now = .ok
      { answer := { request.approved operator now with updatedAt := some s.stamp }
        books := after
        notes } := by
  rw [transition_eq_approveRequest hfound hpending]
  cases h with
  | @approved ids issued grants notes note hwanted hids hgranting hgrants hnote =>
    have hissued : books.issueRequest s request operator now = .ok
        { answer := grants, books := issued, notes } := by
      unfold issueRequest
      rw [hwanted]
      dsimp only
      rw [if_neg (by simpa using hids), hgranting.issueEach_eq]
      dsimp only
      rw [if_neg (by simpa using hgrants)]
    -- the note does not tell the time of the last change
    have hnote' : requestMoved .rewardApproved operator request
        { request.approved operator now with updatedAt := some s.stamp }
        [("grantCount", .int grants.length)] = .ok note := hnote
    unfold approveRequest
    rw [hissued]
    dsimp only
    rw [hnote']
    rfl

theorem cancelRequest_eq_ok {id : Id} {userId : String}
    (h : books.cancelRequest s id userId = .ok o) :
    ∃ request, books.requests.find? id = some request ∧ request.userId = userId ∧
      books.transition s request.id .cancelled (some userId) none s.clock = .ok o := by
  unfold cancelRequest at h
  split at h
  · cases h
  · next request hfind =>
    split at h
    · cases h
    · next huser => exact ⟨request, findRequest_eq_ok hfind, by simpa using huser, h⟩

end Promotions.Books
