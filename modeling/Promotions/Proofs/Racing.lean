import Promotions.Proofs.InPlace
import Promotions.Proofs.Surfaces

/-!
# Rival claims

Between the check of a request and its writing a rival may take one of its rewards. The check has
passed by then, and only the claims can tell, of which no two hold the same reward of an event for
the same user. So the request is refused just if the rival has taken one of its rewards
(`Claim.Takes`). Any other claim may be there or not: it is kept beside what the request writes, and
nothing else comes out differently, approval at once included (`claims_close_the_race`).

The reason is that no operation reads claims but those that add or release some. This is said for
each of them as an equation: other claims before it are other claims after it
(`Books.approveAtOnce_withClaims`). Whatever rivals there have been, no two claims hold the same,
and no live request is left without its claims (`Books.Claimed`).
-/

namespace Promotions

/-! ### Other claims -/

/-- The books with other claims. -/
def Books.withClaims (books : Books) (claims : List Claim) : Books := { books with claims }

/-- An outcome with other claims. -/
def Outcome.withClaims {α : Type} (claims : List Claim) (o : Outcome α) : Outcome α :=
  { o with books := o.books.withClaims claims }

namespace Books

variable (books : Books) (claims : List Claim) (s : Session) (request : RewardRequest)
  (operator : Option String) (now : Instant)

@[simp]
theorem claims_withClaims : (books.withClaims claims).claims = claims := rfl

theorem latestParticipation?_withClaims (eventId : Id) (userId : String) :
    (books.withClaims claims).latestParticipation? eventId userId =
      books.latestParticipation? eventId userId := rfl

theorem linkParticipation_withClaims :
    (books.withClaims claims).linkParticipation request now =
      (books.linkParticipation request now).withClaims claims := by
  unfold linkParticipation
  rw [latestParticipation?_withClaims]
  split <;> rfl

theorem markRewarded_withClaims :
    (books.withClaims claims).markRewarded request now =
      (books.markRewarded request now).withClaims claims := by
  unfold markRewarded
  rw [latestParticipation?_withClaims]
  split
  · rfl
  · split <;> rfl

theorem putRequest_withClaims :
    (books.withClaims claims).putRequest s request =
      (books.putRequest s request).withClaims claims := rfl

theorem addGrant?_withClaims (grant : Grant) :
    (books.withClaims claims).addGrant? grant =
      (books.addGrant? grant).map (·.withClaims claims) := by
  unfold addGrant?
  dsimp only [withClaims]
  split <;> rfl

theorem issueOne_withClaims (reward : Reward) :
    (books.withClaims claims).issueOne s request operator now reward =
      (books.issueOne s request operator now reward).map (Outcome.withClaims claims) := by
  unfold issueOne
  split
  · rfl
  · cases Metadata.copy reward.metadata with
    | error fault => rfl
    | ok copied =>
      dsimp only
      rw [show (books.withClaims claims).takeOne reward.id s.stamp =
        (books.takeOne reward.id s.stamp).withClaims claims from rfl, addGrant?_withClaims]
      rw [show (books.withClaims claims).grants = books.grants from rfl]
      cases (books.takeOne reward.id s.stamp).addGrant?
          (Grant.ofReward books.grants.nextId request reward copied.content now) with
      | none => rfl
      | some added =>
        dsimp only [Option.map_some]
        split <;> rfl

/-- **No claim matters to what is granted.** -/
theorem issueEach_withClaims (ids : List Id) :
    issueEach s request operator now (books.withClaims claims) ids =
      (issueEach s request operator now books ids).map (Outcome.withClaims claims) := by
  induction ids generalizing books with
  | nil => rfl
  | cons id rest ih =>
    rw [issueEach, issueEach]
    rw [show (books.withClaims claims).rewards = books.rewards from rfl]
    cases books.rewards.find? id with
    | none => exact ih books
    | some reward =>
      dsimp only
      rw [issueOne_withClaims]
      cases books.issueOne s request operator now reward with
      | error failure => rfl
      | ok first =>
        dsimp only [Except.map]
        rw [show (first.withClaims claims).books = first.books.withClaims claims from rfl, ih]
        cases issueEach s request operator now first.books rest <;> rfl

theorem issueRequest_withClaims :
    (books.withClaims claims).issueRequest s request operator now =
      (books.issueRequest s request operator now).map (Outcome.withClaims claims) := by
  unfold issueRequest
  cases request.wanted with
  | error fault => rfl
  | ok ids =>
    dsimp only
    rw [issueEach_withClaims]
    split
    · rfl
    · cases issueEach s request operator now books ids with
      | error failure => rfl
      | ok issued =>
        dsimp only [Except.map, Outcome.withClaims]
        split <;> rfl

theorem approveRequest_withClaims :
    (books.withClaims claims).approveRequest s request operator now =
      (books.approveRequest s request operator now).map (Outcome.withClaims claims) := by
  unfold approveRequest
  rw [issueRequest_withClaims]
  cases books.issueRequest s request operator now with
  | error failure => rfl
  | ok issued =>
    dsimp only [Except.map, Outcome.withClaims]
    split
    · rfl
    · rw [putRequest_withClaims, markRewarded_withClaims]

/-- **No claim matters to an approval.** -/
theorem transition_approved_withClaims (id : Id) (reason : Option String) :
    (books.withClaims claims).transition s id .approved operator reason now =
      (books.transition s id .approved operator reason now).map (Outcome.withClaims claims) := by
  unfold transition
  rw [show (books.withClaims claims).findRequest id = books.findRequest id from rfl]
  split
  · rfl
  · cases books.findRequest id with
    | error failure => rfl
    | ok request =>
      dsimp only
      split
      · rfl
      · split
        · rfl
        · exact approveRequest_withClaims books claims s request operator now

theorem approveAtOnce_withClaims (filed : Outcome RewardRequest) :
    approveAtOnce s (filed.withClaims claims) =
      (approveAtOnce s filed).map (Outcome.withClaims claims) := by
  unfold approveAtOnce
  rw [show (filed.withClaims claims).books = filed.books.withClaims claims from rfl,
    show (filed.withClaims claims).answer = filed.answer from rfl, transition_approved_withClaims]
  cases filed.books.transition s filed.answer.id .approved (some s.systemOperator) none s.clock with
  | ok approved => rfl
  | error failure => cases failure <;> rfl

/-! ### Claims that are held -/

/-- **The claims are in order**: no two hold the same reward of an event for the same user, and a
live request holds one on each reward that it lists. -/
structure Claimed (books : Books) : Prop where
  unrivalled : books.claims.Pairwise fun a b => b.rivals a = false
  held : ∀ q ∈ books.requests.rows, q.status.isLive = true → ∀ rewardId, q.Lists rewardId →
    ∃ c ∈ books.claims, c.IsOf q ∧ c.rewardId = rewardId

section Claimed
variable {s : Session} {books after : Books}

theorem Claimed.of_eq (h : books.Claimed) (hrequests : after.requests = books.requests)
    (hclaims : after.claims = books.claims) : after.Claimed where
  unrivalled := by rw [hclaims]; exact h.unrivalled
  held := by rw [hrequests, hclaims]; exact h.held

theorem Filing.claimed {event : Event} {rewards : List Id} {userId : String}
    {verificationData : Json} {now : Instant} {request : RewardRequest} {notes : List Note}
    (h : Filing s books event rewards userId verificationData now request after notes)
    (hbooks : books.Claimed) : after.Claimed := by
  have hlists {rewardId : Id} : request.Lists rewardId ↔ rewardId ∈ rewards :=
    RewardRequest.lists_iff (by rw [h.request_eq]; rfl)
  have hclaim {rewardId : Id} (hmem : rewardId ∈ rewards) := h.exists_claim hmem
  obtain ⟨participations, -, rfl⟩ := h.exists_eq
  refine ⟨List.pairwise_append.mpr ⟨hbooks.unrivalled, h.unrivalled.listed, ?_⟩, ?_⟩
  · exact fun a ha b hb => h.unrivalled.held b hb a ha
  · intro q hq hlive rewardId hrewardId
    rcases List.mem_append.mp hq with hq | hq
    · obtain ⟨c, hc, hof⟩ := hbooks.held q hq hlive rewardId hrewardId
      exact ⟨c, List.mem_append_left _ hc, hof⟩
    · cases List.mem_singleton.mp hq
      exact hclaim (hlists.mp hrewardId)

theorem Moving.claimed {request : RewardRequest} {operator reason : Option String} {now : Instant}
    {target : RequestStatus} {notes : List Note}
    (h : Moving s books request operator reason now target after notes) (hbooks : books.Claimed)
    (hrequest : request ∈ books.requests.rows) (hmay : request.status.mayBecome target = true) :
    after.Claimed := by
  have hcontinues := request.continues_moved target operator reason now s.stamp
  have hput {q : RewardRequest} := mem_requests_put (q := q) h.requests_eq hrequest
    (request.id_moved target operator reason now s.stamp)
  have hclaims := h.claims_eq
  refine ⟨?_, fun q hq hlive rewardId hlists => ?_⟩
  · rw [hclaims]
    split
    · exact hbooks.unrivalled
    · exact hbooks.unrivalled.filter _
  rcases hput.mp hq with rfl | ⟨hq, hne⟩
  · -- the request is still live, so that nothing was released
    rw [RewardRequest.status_moved hmay] at hlive
    obtain ⟨c, hc, hof, hreward⟩ := hbooks.held request hrequest
      (RequestStatus.isLive_of_mayBecome hmay) rewardId (hcontinues.lists_iff.mp hlists)
    rw [hclaims, if_pos hlive]
    exact ⟨c, hc, hof.continues hcontinues, hreward⟩
  · obtain ⟨c, hc, hof, hreward⟩ := hbooks.held q hq hlive rewardId hlists
    refine ⟨c, ?_, hof, hreward⟩
    rw [hclaims]
    split
    · exact hc
    · exact List.mem_filter.mpr ⟨hc, by simpa [hof.requestId_eq] using hne⟩

end Claimed

end Books

open Books

theorem Raced.claimed {books raced : Books} {rival : Option Claim} (h : Raced books rival raced)
    (hbooks : books.Claimed) : raced.Claimed := by
  cases rival with
  | none =>
    cases h
    exact hbooks
  | some claim =>
    obtain ⟨rfl, hnew⟩ := addClaim?_eq_some h
    refine ⟨List.pairwise_append.mpr ⟨hbooks.unrivalled, List.pairwise_singleton _ _, ?_⟩, ?_⟩
    · intro held hheld added hadded
      rw [List.mem_singleton.mp hadded]
      exact hnew held hheld
    · intro q hq hlive rewardId hlists
      obtain ⟨c, hc, hof⟩ := hbooks.held q hq hlive rewardId hlists
      exact ⟨c, List.mem_append_left _ hc, hof⟩

/-- **Every change keeps the claims in order**, whatever rivals appear. -/
theorem Change.claimed {s : Session} {books after : Books} {action : Action} {notes : List Note}
    (h : Change s books action after notes) (hbooks : books.Claimed) : after.Claimed := by
  cases h with
  | nothing | noted => exact hbooks
  | eventMade | eventEdited | rewardMade | rewardEdited | tookPart | used | expired =>
    exact hbooks.of_eq rfl rfl
  | filed _ hraced hfiling => exact hfiling.claimed (hraced.claimed hbooks)
  | filedAndApproved _ hraced hfiling _ hfound hmay hmoving =>
    exact hmoving.claimed (hfiling.claimed (hraced.claimed hbooks))
      (Table.mem_of_find?_eq_some hfound) hmay
  | moved hfound hmay hmoving =>
    exact hmoving.claimed hbooks (Table.mem_of_find?_eq_some hfound) hmay
  | cancelled hfound _ hmay hmoving =>
    exact hmoving.claimed hbooks (Table.mem_of_find?_eq_some hfound) hmay
  | issued _ _ _ hgranting =>
    obtain ⟨rewards, table, rfl⟩ := hgranting.exists_eq
    exact hbooks.of_eq rfl rfl

theorem Database.Reachable.claimed {P : Action → Prop} {db : Database} (h : db.Reachable P) :
    db.books.Claimed :=
  (h.mono (Q := fun _ => True) fun _ _ => trivial).keeps (fun _ _ => trivial)
    ⟨.nil, by simp⟩ fun _ hbooks hchange => hchange.claimed hbooks

/-! ### The race -/

/-- The claim takes one of the rewards that a user asks for. -/
def Claim.Takes (rival : Claim) (eventId : Id) (userId : String) (rewards : List Id) : Prop :=
  rival.eventId = eventId ∧ rival.userId = userId ∧ rival.rewardId ∈ rewards

instance (rival : Claim) (eventId : Id) (userId : String) (rewards : List Id) :
    Decidable (rival.Takes eventId userId rewards) := by
  unfold Claim.Takes
  infer_instance

namespace Books

section Race
variable {s : Session} {books after : Books} {event : Event} {rewards : List Id} {userId : String}
  {verificationData : Json} {now : Instant} {request : RewardRequest} {notes : List Note}
  {rival : Claim}

/-- A claim that takes a reward rivals the one that is needed on it, and no other claim does. -/
theorem exists_rivals_iff_takes {id eventId : Id} {stamp : Instant} :
    (∃ claim ∈ claimsFor id eventId userId stamp rewards, claim.rivals rival = true) ↔
      rival.Takes eventId userId rewards := by
  constructor
  · rintro ⟨claim, hclaim, hrivals⟩
    obtain ⟨rewardId, hrewardId, rfl⟩ := List.mem_map.mp hclaim
    obtain ⟨hevent, huser, hreward⟩ := Claim.rivals_iff.mp hrivals
    exact ⟨hevent.symm, huser.symm, hreward ▸ hrewardId⟩
  · rintro ⟨hevent, huser, hreward⟩
    exact ⟨_, List.mem_map_of_mem hreward, Claim.rivals_iff.mpr ⟨hevent.symm, huser.symm, rfl⟩⟩

/-- **Claims are not added** if one that is held rivals one of them. -/
theorem addClaims?_of_takes {id eventId : Id} {stamp : Instant}
    (h : rival.Takes eventId userId rewards) (hrival : rival ∈ books.claims) :
    books.addClaims? (claimsFor id eventId userId stamp rewards) = none := by
  cases hadded : books.addClaims? (claimsFor id eventId userId stamp rewards) with
  | none => rfl
  | some added =>
    obtain ⟨claim, hclaim, hrivals⟩ := exists_rivals_iff_takes.mpr h
    rw [(addClaims?_eq_some hadded).2.held claim hclaim rival hrival] at hrivals
    cases hrivals

/-- **A request is filed beside other claims** as it would be filed without them. -/
theorem Filing.withClaims
    (h : Filing s books event rewards userId verificationData now request after notes)
    {claims : List Claim}
    (hheld : ∀ claim ∈ claimsFor request.id event.id userId s.stamp rewards, ∀ other ∈ claims,
      claim.rivals other = false) :
    Filing s (books.withClaims claims) event rewards userId verificationData now request
      (after.withClaims (claims ++ claimsFor request.id event.id userId s.stamp rewards)) notes where
  request_eq := h.request_eq
  unrivalled := ⟨hheld, h.unrivalled.listed⟩
  after_eq := by
    rw [h.after_eq, ← linkParticipation_withClaims]
    rfl
  notes_eq := h.notes_eq

theorem Filing.claims_eq
    (h : Filing s books event rewards userId verificationData now request after notes) :
    after.claims = books.claims ++ claimsFor request.id event.id userId s.stamp rewards := by
  obtain ⟨participations, -, rfl⟩ := h.exists_eq
  rfl

theorem claims_approveAtOnce {filed o : Outcome RewardRequest} (h : approveAtOnce s filed = .ok o) :
    o.books.claims = filed.books.claims := by
  have hsame := approveAtOnce_withClaims filed.books.claims s filed
  rw [show filed.withClaims filed.books.claims = filed from rfl, h] at hsame
  exact congrArg (fun o => o.books.claims) (Except.ok.inj hsame)

section
variable {eventId : Id} {spellings : List IdSpelling}
  (hadmitted : Admitted books eventId spellings userId verificationData now event rewards)
  (hnew : ∀ c ∈ books.claims, rival.rivals c = false)
include hadmitted hnew

/-- **A request is refused** if a rival takes one of its rewards after the check. -/
theorem createRequest_of_takes (h : rival.Takes event.id userId rewards) :
    books.createRequest s eventId spellings userId verificationData now (some rival) =
      Failure.refuse .alreadyRequested := by
  unfold createRequest fileRequest writeRequest
  rw [hadmitted.admitRequest_eq]
  dsimp only
  rw [addClaim?_of_new hnew]
  dsimp only
  rw [addClaims?_of_takes h (by simp)]
  rfl

/-- **A request is made beside a claim** that takes none of its rewards as it is made without it. -/
theorem Filing.createRequest_beside {filed o : Outcome RewardRequest}
    (hfiling : Filing s books event rewards userId verificationData now filed.answer filed.books
      filed.notes)
    (ho : (if event.autoReward then approveAtOnce s filed else .ok filed) = .ok o)
    (h : ¬rival.Takes event.id userId rewards) :
    books.createRequest s eventId spellings userId verificationData now (some rival) =
      .ok (o.withClaims (books.claims ++ rival ::
        claimsFor filed.answer.id event.id userId s.stamp rewards)) := by
  have hheld : ∀ claim ∈ claimsFor filed.answer.id event.id userId s.stamp rewards,
      ∀ other ∈ books.claims ++ [rival], claim.rivals other = false := by
    intro claim hclaim other hother
    rcases List.mem_append.mp hother with hother | hother
    · exact hfiling.unrivalled.held claim hclaim other hother
    · rw [List.mem_singleton.mp hother, Bool.eq_false_iff]
      exact fun hrivals => h (exists_rivals_iff_takes.mp ⟨claim, hclaim, hrivals⟩)
  have hraced : Raced books (some rival) (books.withClaims (books.claims ++ [rival])) :=
    addClaim?_of_new hnew
  rw [(hfiling.withClaims hheld).createRequest_eq hraced hadmitted]
  simp only [List.append_assoc, List.singleton_append]
  split at ho
  · next hauto =>
    rw [if_pos hauto]
    exact (approveAtOnce_withClaims _ s filed).trans (by rw [ho]; rfl)
  · next hauto =>
    rw [if_neg hauto, ← Except.ok.inj ho]
    rfl

end

end Race

end Books

/-- **What a request that is refused for a rival leaves** is the rival's claim alone: the row and
the claims that it could write were taken back. -/
theorem InPlace.createRequest_of_takes {s : Session} {wreck : Wreck} {sheet : Sheet} {eventId : Id}
    {spellings : List IdSpelling} {userId : String} {verificationData : Json} {now : Instant}
    {event : Event} {rewards : List Id} {rival : Claim}
    (hadmitted : Admitted sheet.books eventId spellings userId verificationData now event rewards)
    (hnew : ∀ c ∈ sheet.books.claims, rival.rivals c = false)
    (h : rival.Takes event.id userId rewards) :
    createRequest s wreck eventId spellings userId verificationData now (some rival) sheet =
      (.error (.refused .alreadyRequested),
        { sheet with books := sheet.books.withClaims (sheet.books.claims ++ [rival]) }) := by
  have hrace : race (some rival) sheet =
      (.ok (), { sheet with books := sheet.books.withClaims (sheet.books.claims ++ [rival]) }) := by
    simp [race, addClaim?_of_new hnew, withClaims]
  have hinsert (s : Session) (verificationData : Json) : insertRequest s event rewards userId
      verificationData now { sheet with
        books := sheet.books.withClaims (sheet.books.claims ++ [rival]) } =
      (.error (.refused .alreadyRequested),
        { sheet with books := sheet.books.withClaims (sheet.books.claims ++ [rival]) }) := by
    simp [insertRequest, addClaims?_of_takes h, withClaims, Failure.refuse]
  simp [createRequest, hadmitted.admitRequest_eq, hrace, writeRequest, hinsert]

/-- **Claims close the race.** In every database that can be reached, whatever rivals there have
been, no two claims hold the same reward of an event for the same user, and no live request is left
without its claims. Let somebody ask for rewards who would be given them, and let a rival write a
claim that nobody holds yet, between the check and the writing. If the claim takes one of the
rewards, and only then, the call is answered with 409 and changes nothing; all that is there when it
fails is the claim of the rival, as what the call has written itself was taken back. With any other
claim it succeeds, gives the same answer and leads to the same tables as without, but for this claim
beside its own. -/
theorem claims_close_the_race {db : Database} (h : db.Reachable fun _ => True) :
    db.books.Claimed ∧
    ∀ (s : Session) (eventId : Id) (spellings : List IdSpelling) (userId : String)
      (verificationData : Json) (now : Option Instant) (reply : Reply) (after : Database),
      (Action.createRequest eventId spellings userId verificationData now none).perform s db =
        .ok (reply, after) →
      ∃ rewards new, Id.orderedUnique spellings = .ok rewards ∧
        after.books.claims = db.books.claims ++ new ∧
        ∀ rival : Claim, (∀ c ∈ db.books.claims, rival.rivals c = false) →
          let raced :=
            Action.createRequest eventId spellings userId verificationData now (some rival)
          let call : Moment := ⟨s, .call raced⟩
          (call.status? db = some 409 ∧ call.after db = db ↔ rival.Takes eventId userId rewards) ∧
          (rival.Takes eventId userId rewards → ∀ wreck : Wreck,
            raced.inPlace s wreck { books := db.books, journal := db.journal } =
              (.error (.refused .alreadyRequested),
                { books := db.books.withClaims (db.books.claims ++ [rival])
                  journal := db.journal })) ∧
          (¬rival.Takes eventId userId rewards → raced.perform s db = .ok (reply,
            { after with books := after.books.withClaims (db.books.claims ++ rival :: new) })) ∧
          (call.after db).books.Claimed := by
  refine ⟨h.claimed, ?_⟩
  intro s eventId spellings userId verificationData now reply after hperform
  simp only [Action.perform, Action.settle] at hperform
  split at hperform
  · next o ho =>
    cases Except.ok.inj hperform
    obtain ⟨event, rewards, raced, filed, hadmitted, hraced, hfiling, hrest⟩ :=
      createRequest_eq_ok ho
    cases hraced
    have hevent : event.id = eventId := Table.id_of_find?_eq_some hadmitted.event_found
    have hclaims : o.books.claims = filed.books.claims := by
      split at hrest
      · exact claims_approveAtOnce hrest
      · rw [← Except.ok.inj hrest]
    let new := claimsFor filed.answer.id event.id userId s.stamp rewards
    refine ⟨rewards, new, hadmitted.resolved, hclaims.trans hfiling.claims_eq, ?_⟩
    intro rival hnew raced call
    rw [← hevent]
    have hrefused (htakes : rival.Takes event.id userId rewards) :
        raced.perform s db = .error (.refused .alreadyRequested) := by
      simp only [raced, Action.perform, Action.settle,
        createRequest_of_takes hadmitted hnew htakes, Failure.refuse]
    have hbeside (hnot : ¬rival.Takes event.id userId rewards) : raced.perform s db =
        .ok (.request o.answer, { db.commit s o with
          books := o.books.withClaims (db.books.claims ++ rival :: new) }) := by
      simp only [raced, Action.perform, Action.settle,
        hfiling.createRequest_beside hadmitted hnew hrest hnot]
      rfl
    refine ⟨⟨?_, fun htakes => ?_⟩, ?_, hbeside, ?_⟩
    · rintro ⟨hstatus, -⟩
      by_contra hnot
      simp only [call, Moment.status?, hbeside hnot] at hstatus
      cases hstatus
    · obtain ⟨hsame, hstatus⟩ := Moment.refused (m := call) rfl (hrefused htakes)
      exact ⟨hstatus, hsame⟩
    · intro htakes wreck
      have hleft : InPlace.createRequest s wreck eventId spellings userId verificationData
          (now.getD s.clock) (some rival) { books := db.books, journal := db.journal } = _ :=
        InPlace.createRequest_of_takes hadmitted hnew htakes
      show (InPlace.createRequest _ _ _ _ _ _ _ _ >>= fun request =>
        pure (Reply.request request)) _ = _
      rw [Work.bind_apply, hleft]
    · exact (h.after [call] fun _ _ _ _ => trivial).claimed
  · cases hperform

/-- A claim of another request on the first reward of `approvingRun`. -/
def claimOf (userId : String) : Claim :=
  { requestId := ⟨7⟩, eventId := ({} : Table Event).nextId, userId
    rewardId := ({} : Table Reward).nextId, createdAt := ⟨4000000⟩ }

/-- Ann asks for the first reward of `approvingRun`, and a rival claim appears. -/
def asksBeside (rival : Claim) : Moment :=
  ⟨{ clock := ⟨4000000⟩ }, .call (.createRequest ({} : Table Event).nextId
    [.known ({} : Table Reward).nextId] "ann" .empty none (some rival))⟩

/-- Ann's request fails if the claim is one of hers, and is made beside the claim if it is Bob's. -/
theorem claims_close_the_race_approvingRun :
    let db := Database.empty.after approvingRun
    db.Reachable (fun _ => True) ∧
      ((asksBeside (claimOf "ann")).status? db = some 409 ∧
        (asksBeside (claimOf "ann")).after db = db) ∧
      ∃ new, ((asksBeside (claimOf "bob")).after db).books.claims = claimOf "bob" :: new := by
  intro db
  have hreachable : db.Reachable fun _ => True := ⟨approvingRun, fun _ _ _ _ => trivial, rfl⟩
  have hok : ((askingFor false).perform { clock := ⟨4000000⟩ } db).isOk = true := by decide +kernel
  have hnone : db.books.claims = [] := List.isEmpty_iff.mp (by decide +kernel)
  cases hperform : (askingFor false).perform { clock := ⟨4000000⟩ } db with
  | error failure => exact absurd (hperform ▸ hok) nofun
  | ok result =>
    obtain ⟨rewards, new, hrewards, -, hrace⟩ :=
      (claims_close_the_race hreachable).2 _ _ _ _ _ _ _ _ hperform
    cases hrewards
    have hnew (rival : Claim) : ∀ c ∈ db.books.claims, rival.rivals c = false := by simp [hnone]
    obtain ⟨hfails, -⟩ := hrace (claimOf "ann") (hnew _)
    obtain ⟨-, -, hbeside, -⟩ := hrace (claimOf "bob") (hnew _)
    refine ⟨hreachable, hfails.mpr (by decide), new, ?_⟩
    have hperformed : (Action.createRequest ({} : Table Event).nextId
        [.known ({} : Table Reward).nextId] "ann" .empty none (some (claimOf "bob"))).perform
          { clock := ⟨4000000⟩ } db = _ := hbeside (by decide)
    simp only [asksBeside, Moment.after, hperformed, claims_withClaims, hnone, List.nil_append]

end Promotions
