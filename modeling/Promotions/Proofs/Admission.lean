import Promotions.Proofs.Approval
import Promotions.Proofs.Claims
import Promotions.Proofs.Interference
import Promotions.Proofs.Links

/-!
# What a request is refused for

A request is refused for the first of six reasons that applies (`Books.objection?`). The last of
them is about other requests: a live one of the same user for the same event lists one of the
rewards. The operation looks for a claim instead, which comes to the same as claims mirror live
requests (`Books.Mirrored.any_claims_iff`). Nothing else is looked at, and what is admitted is
filed: an approval at once can only be refused, since in a database that can be reached all metadata
can be written out (`Books.Filing.exists_approveAtOnce_eq_ok`).
-/

namespace Promotions

/-- **A list of spellings is read** as the identifiers that they mean, each at its first place. -/
theorem Id.orderedUnique_eq_ok {spellings : List IdSpelling} {ids : List Id}
    (h : spellings.map IdSpelling.resolve = ids.map .ok) :
    Id.orderedUnique spellings = .ok ids.eraseDups := by
  have hresolved : spellings.mapM IdSpelling.resolve = .ok ids := mapM_eq_ok_of_map_eq h
  unfold orderedUnique
  rw [hresolved]

namespace RewardRequest

/-- The wanted list holds the text of an identifier. -/
def lists (q : RewardRequest) (rewardId : Id) : Bool :=
  match q.rewardIds with
  | .arr items => items.any fun
    | .str text => text = rewardId.text
    | _ => false
  | _ => false

theorem lists_eq_true_iff {q : RewardRequest} {rewardId : Id} :
    q.lists rewardId = true ↔ q.Lists rewardId := by
  unfold lists Lists
  cases q.rewardIds with
  | arr items =>
    simp only [List.any_eq_true, Json.arr.injEq, exists_eq_left']
    constructor
    · rintro ⟨item, hitem, htext⟩
      cases item with
      | str text => rwa [← of_decide_eq_true htext]
      | null | bool | int | double | arr | obj => cases htext
    · intro hmem
      exact ⟨_, hmem, decide_eq_true rfl⟩
  | null | bool | int | double | str | obj => simp

instance (q : RewardRequest) (rewardId : Id) : Decidable (q.Lists rewardId) :=
  decidable_of_iff _ lists_eq_true_iff

end RewardRequest

namespace Books

/-! ### The reasons -/

instance (books : Books) (eventId rewardId : Id) : Decidable (books.Offers eventId rewardId) := by
  unfold Offers
  infer_instance

/-- **A live request of the user** for the event lists one of the rewards. -/
def IsAsked (books : Books) (eventId : Id) (userId : String) (ids : List Id) : Prop :=
  ∃ q ∈ books.requests.rows, (q.eventId = eventId ∧ q.userId = userId) ∧
    q.status ∈ [.pending, .approved, .issued] ∧ ∃ id ∈ ids, q.Lists id

instance (books : Books) (eventId : Id) (userId : String) (ids : List Id) :
    Decidable (books.IsAsked eventId userId ids) := by
  unfold IsAsked
  infer_instance

/-- **What a request for rewards is refused for**: the first reason that applies. -/
def objection? (books : Books) (eventId : Id) (ids : List Id) (userId : String)
    (verificationData : Json) (now : Instant) : Option Refusal :=
  match books.events.find? eventId with
  | none => some (.eventNotFound eventId)
  | some event =>
    if ids = [] then some .noRewardIds
    else if ∃ id ∈ ids, ¬books.Offers eventId id then some .rewardsNotOfEvent
    else if ¬(event.status = .active ∧ event.startDate ≤ now ∧ now ≤ event.endDate) then
      some .eventNotActive
    else if event.admits verificationData now = false then some .conditionsNotMet
    else if books.IsAsked eventId userId ids then some .alreadyRequested
    else none

section
variable {books : Books} {eventId : Id} {ids : List Id} {userId : String}

/-- **A claim is in the way just if a live request is.** -/
theorem Mirrored.any_claims_iff (h : books.Mirrored) :
    (books.claims.any fun claim =>
      claim.eventId = eventId && claim.userId = userId && ids.contains claim.rewardId) = true ↔
      books.IsAsked eventId userId ids := by
  have hlive {status : RequestStatus} :
      status ∈ [RequestStatus.pending, .approved, .issued] ↔ status.isLive = true := by
    cases status <;> simp [RequestStatus.isLive]
  simp only [List.any_eq_true, Bool.and_eq_true, decide_eq_true_eq, List.contains_iff_mem, IsAsked,
    hlive]
  constructor
  · rintro ⟨claim, hclaim, ⟨hevent, huser⟩, hreward⟩
    obtain ⟨q, hq, hqlive, hlists, hof⟩ := h.backed claim hclaim
    exact ⟨q, hq, ⟨hof.eventId_eq ▸ hevent, hof.userId_eq ▸ huser⟩, hqlive, _, hreward, hlists⟩
  · rintro ⟨q, hq, ⟨hevent, huser⟩, hqlive, id, hid, hlists⟩
    obtain ⟨claim, hclaim, hof, rfl⟩ := h.exists_claim hq hqlive hlists
    exact ⟨claim, hclaim, ⟨hof.eventId_eq.trans hevent, hof.userId_eq.trans huser⟩, hid⟩

theorem any_find?_iff (h : books.Numbered) {id : Id} :
    (books.rewards.find? id).any (·.eventId = eventId) = true ↔ books.Offers eventId id := by
  unfold Offers
  simp only [Option.any_eq_true, decide_eq_true_eq, h.rewards.find?_eq_some_iff, and_assoc]
  rfl

theorem isActiveAt_iff {event : Event} {now : Instant} : event.isActiveAt now = true ↔
    event.status = .active ∧ event.startDate ≤ now ∧ now ≤ event.endDate := by
  simp [Event.isActiveAt, and_assoc]

variable (eventId userId) in
/-- **A request is checked** for the reasons to refuse it, in order. -/
theorem Mirrored.admitRequest_eq (h : books.Mirrored) {spellings : List IdSpelling}
    (hids : spellings.map IdSpelling.resolve = ids.map .ok) (verificationData : Json)
    (now : Instant) :
    match books.objection? eventId ids userId verificationData now with
    | some refusal =>
      books.admitRequest eventId spellings userId verificationData now = Failure.refuse refusal
    | none => ∃ event,
      Admitted books eventId spellings userId verificationData now event ids.eraseDups := by
  unfold objection?
  cases hfound : books.events.find? eventId with
  | none => simp only [admitRequest, findEvent, hfound, Failure.refuse]
  | some event =>
    obtain rfl : event.id = eventId := Table.id_of_find?_eq_some hfound
    -- each check of the operation is the condition of the reason that it is made for
    have hempty : ids.eraseDups.isEmpty = true ↔ ids = [] := by
      cases ids <;> simp [List.eraseDups_cons]
    have hoffers : (!ids.eraseDups.all fun id =>
        (books.rewards.find? id).any (·.eventId = event.id)) = true ↔
          ∃ id ∈ ids, ¬books.Offers event.id id := by
      simp [← any_find?_iff h.numbered]
    have hactive : (!event.isActiveAt now) = true ↔
        ¬(event.status = .active ∧ event.startDate ≤ now ∧ now ≤ event.endDate) := by
      rw [← isActiveAt_iff, Bool.not_eq_true', Bool.not_eq_true]
    have hadmits : (!event.admits verificationData now) = true ↔
        event.admits verificationData now = false := by rw [Bool.not_eq_true']
    have hclaims : (books.claims.any fun claim => claim.eventId = event.id &&
        claim.userId = userId && ids.eraseDups.contains claim.rewardId) = true ↔
          books.IsAsked event.id userId ids := by
      simp only [← h.any_claims_iff, List.any_eq_true, Bool.and_eq_true, List.contains_iff_mem,
        List.mem_eraseDups]
    have hchecks : books.admitRequest event.id spellings userId verificationData now =
        if ids = [] then Failure.refuse .noRewardIds
        else if ∃ id ∈ ids, ¬books.Offers event.id id then Failure.refuse .rewardsNotOfEvent
        else if ¬(event.status = .active ∧ event.startDate ≤ now ∧ now ≤ event.endDate) then
          Failure.refuse .eventNotActive
        else if event.admits verificationData now = false then Failure.refuse .conditionsNotMet
        else if books.IsAsked event.id userId ids then Failure.refuse .alreadyRequested
        else .ok (event, ids.eraseDups) := by
      unfold admitRequest findEvent
      rw [hfound]
      dsimp only
      rw [Id.orderedUnique_eq_ok hids]
      simp only [hempty, hoffers, hactive, hadmits, hclaims]
    dsimp only
    split_ifs at hchecks ⊢
    all_goals first
      | exact hchecks
      | exact ⟨event, admitRequest_eq_ok hchecks⟩

end

/-! ### What is admitted is filed -/

theorem Denied.exists_refused {books : Books} {requestId : Id} {ids : List Id} {failure : Failure}
    (h : books.Denied requestId ids failure) (hwritable : books.Writable ids) :
    ∃ refusal, failure = .refused refusal := by
  cases h with
  | @nothing refusal => exact ⟨refusal, rfl⟩
  | @obstructed refusal => exact ⟨refusal, rfl⟩
  | overloaded hoverloaded => exact absurd hwritable hoverloaded.not_writable

section Filing
variable {s : Session} {db : Database} {after : Books} {event : Event} {rewards : List Id}
  {userId : String} {verificationData : Json} {now : Instant} {request : RewardRequest}
  {notes : List Note}
  (h : Filing s db.books event rewards userId verificationData now request after notes)
include h

theorem Filing.reads (hspelled : ∀ id ∈ rewards, id.IsSpelled) : request.Reads rewards :=
  RewardRequest.reads_of_eq (by rw [h.request_eq]; rfl) hspelled

/-- **An approval at once does not break off**: it is done, or dropped because it is refused. -/
theorem Filing.exists_approveAtOnce_eq_ok {P : Action → Prop} (hdb : db.Reachable P)
    (hspelled : ∀ id ∈ rewards, id.IsSpelled) :
    ∃ o, approveAtOnce s { answer := request, books := after, notes } = .ok o := by
  have hshaped : ∀ r ∈ after.rewards.rows, r.IsShaped := h.stock_eq.1 ▸ hdb.shaped_rewards
  have hwritable : after.Writable (after.existing rewards) := fun id _ reward hreward =>
    (hshaped reward (Table.mem_of_find?_eq_some hreward)).isShallow
  unfold approveAtOnce
  dsimp only
  rcases transition_cases s (some s.systemOperator) s.clock (h.reads hspelled)
    (fun r hr => (hshaped r hr).isObjectOrNull) (h.find?_eq hdb.numbered) h.status_eq none with
    ⟨-, approved, more, -, happroved⟩ | ⟨failure, hdenied, -, hfails⟩
  · rw [happroved]
    exact ⟨_, rfl⟩
  · obtain ⟨refusal, rfl⟩ := hdenied.exists_refused hwritable
    rw [hfails]
    exact ⟨_, rfl⟩

end Filing

end Books

/-- **The latest participation of a user carries a request** from now on, if the user has taken part
in its event; no other participation changes. -/
def Books.LinksLatest (books : Books) (q : RewardRequest) (after : Table Participation) : Prop :=
  (books.participationsOf q.eventId q.userId = [] ∧ after = books.participations) ∨
  ∃ latest ∈ books.participationsOf q.eventId q.userId,
    (∀ other ∈ books.participationsOf q.eventId q.userId,
      other.participatedAt ≤ latest.participatedAt) ∧
    after = books.participations.modify latest.id fun p =>
      { p with
        isRewardRequested := true
        rewardRequestedAt := some q.requestedAt
        rewardRequestId := some q.id }

/-- **The database receives a request** on which nothing is decided yet. -/
structure Database.Receives (s : Session) (db : Database) (q : RewardRequest) (rewardIds : List Id)
    (after : Database) : Prop where
  /-- The request is added, under an identifier of its own. -/
  requests_eq : after.books.requests = db.books.requests.push q
  fresh : ∀ other ∈ db.books.requests.rows, other.id ≠ q.id
  /-- One claim is added for each of the rewards, which are all different. -/
  claims_eq : after.books.claims = db.books.claims ++ rewardIds.map fun rewardId =>
    { requestId := q.id, eventId := q.eventId, userId := q.userId, rewardId, createdAt := s.stamp }
  nodup : rewardIds.Nodup
  linksLatest : db.books.LinksLatest q after.books.participations
  /-- One note tells of the request, in an entry of the journal if that accepts it. -/
  journal_eq : after.journal =
    if s.journalAccepts 0 then
      db.journal.record s.clock
        { logType := .rewardRequested, actor := q.userId, eventId := some q.eventId
          rewardId := rewardIds.head?, requestId := some q.id
          details := .obj [("userId", .str q.userId), ("rewardIds", q.rewardIds),
            ("status", .str "PENDING")] }
    else db.journal
  events_eq : after.books.events = db.books.events
  rewards_eq : after.books.rewards = db.books.rewards
  grants_eq : after.books.grants = db.books.grants

namespace Books

theorem participationsOf_eq_nil {books : Books} {eventId : Id} {userId : String}
    (h : books.latestParticipation? eventId userId = none) :
    books.participationsOf eventId userId = [] := by
  refine List.eq_nil_iff_forall_not_mem.mpr fun p hp => ?_
  have hlisted : p ∈ latestFirst (fun p => some p.participatedAt)
      (books.participationsOf eventId userId) := mem_latestFirst.mpr hp
  rw [List.head?_eq_none_iff.mp h] at hlisted
  cases hlisted

theorem linksLatest_linkParticipation {books added : Books} {q : RewardRequest}
    (hadded : added.participations = books.participations) :
    books.LinksLatest q (added.linkParticipation q q.requestedAt).participations := by
  unfold linkParticipation
  rw [latestParticipation?_congr hadded]
  cases hfound : books.latestParticipation? q.eventId q.userId with
  | none => exact Or.inl ⟨participationsOf_eq_nil hfound, hadded⟩
  | some latest =>
    obtain ⟨hmem, hlast⟩ := of_latestParticipation? hfound
    exact Or.inr ⟨latest, hmem, hlast, by rw [hadded]⟩

theorem Filing.receives {s : Session} {db : Database} {after : Books} {event : Event}
    {rewards : List Id} {userId : String} {verificationData : Json} {now : Instant}
    {request : RewardRequest} {notes : List Note}
    (h : Filing s db.books event rewards userId verificationData now request after notes)
    (hbooks : db.books.Numbered) (hnodup : rewards.Nodup) :
    db.Receives s request rewards
      (db.commit s { answer := request, books := after, notes }) := by
  obtain ⟨participations, -, heq⟩ := h.exists_eq
  have hrequest := h.request_eq
  refine
    { requests_eq := h.requests_eq
      fresh := fun other hother => h.id_eq ▸ hbooks.requests.id_ne_nextId hother
      claims_eq := ?_
      nodup := hnodup
      linksLatest := ?_
      journal_eq := ?_
      events_eq := h.events_eq
      rewards_eq := h.stock_eq.1
      grants_eq := h.stock_eq.2 }
  · dsimp only [Database.commit]
    rw [heq, hrequest]
    rfl
  · have hnow : now = request.requestedAt := by rw [hrequest]; rfl
    dsimp only [Database.commit]
    rw [h.after_eq, hnow]
    exact linksLatest_linkParticipation rfl
  · dsimp only [Database.commit]
    rw [h.notes_eq, hrequest]
    rfl

end Books

open Books

theorem Books.createRequest_eq_error {books : Books} {eventId : Id} {spellings : List IdSpelling}
    {userId : String} {verificationData : Json} {now : Instant} {failure : Failure}
    (h : books.admitRequest eventId spellings userId verificationData now = .error failure)
    (s : Session) (rival : Option Claim) :
    books.createRequest s eventId spellings userId verificationData now rival = .error failure := by
  unfold createRequest
  rw [h]

/-- **A request that is not admitted** writes nothing. -/
theorem InPlace.createRequest_eq_error (s : Session) (wreck : Wreck) {sheet : Sheet} {eventId : Id}
    {spellings : List IdSpelling} {userId : String} {verificationData : Json} {now : Instant}
    {failure : Failure}
    (h : sheet.books.admitRequest eventId spellings userId verificationData now = .error failure)
    (rival : Option Claim) :
    createRequest s wreck eventId spellings userId verificationData now rival sheet =
      (.error failure, sheet) := by
  simp [createRequest, h]

/-- **What becomes of a request for rewards.** In every database that can be reached without rival
claims, a request for rewards, which may be named in any order and more than once, is refused for
the first reason that applies: the event is not found, no reward is named, one is named that the
event does not offer, the event is not active, its condition is not met, or a live request of the
user for the event lists one of the rewards. A refusal leaves everything as it is, also in the store
itself. If there is no such reason, the request is made. Unless its event approves it at once, it is
received with its rewards, each at its first place, and nothing else changes. A refusal tells by its
kind what is the matter: something is not found, the request is bad, or it is in conflict with
another one. -/
theorem request_outcome {db : Database} (h : db.Reachable Action.IsUnrivalled) (s : Session)
    (eventId : Id) {spellings : List IdSpelling} {ids : List Id}
    (hids : spellings.map IdSpelling.resolve = ids.map .ok) (hspelled : ∀ id ∈ ids, id.IsSpelled)
    (userId : String) (verificationData : Json) (now : Option Instant) :
    let action := Action.createRequest eventId spellings userId verificationData now none
    let time := now.getD s.clock
    let objection? := db.books.objection? eventId ids userId verificationData time
    (∀ refusal, objection? = some refusal →
      action.perform s db = .error (.refused refusal) ∧
      (⟨s, .call action⟩ : Moment).after db = db ∧
      ∀ (wreck : Wreck) (sheet : Sheet), sheet.books = db.books →
        InPlace.createRequest s wreck eventId spellings userId verificationData time none sheet =
          (.error (.refused refusal), sheet)) ∧
    (objection? = none → ∃ event reply after, db.books.events.find? eventId = some event ∧
      action.perform s db = .ok (reply, after) ∧
      (event.autoReward = false →
        let request : RewardRequest :=
          { id := db.books.requests.nextId
            userId, eventId
            rewardIds := .arr (ids.eraseDups.map fun id => .str id.text)
            status := .pending
            verificationData := verificationData.orEmpty
            requestedAt := time
            approvedAt := none, issuedAt := none, rejectedReason := none, processedBy := none
            updatedAt := some s.stamp }
        reply = .request request ∧ db.Receives s request ids.eraseDups after)) ∧
    [Refusal.eventNotFound eventId, .noRewardIds, .rewardsNotOfEvent, .eventNotActive,
      .conditionsNotMet, .alreadyRequested].map Refusal.kind =
        [.notFound, .badRequest, .notFound, .badRequest, .badRequest, .conflict] ∧
    Refusal.eventNotActive.message = "Event is not active" ∧
    Refusal.conditionsNotMet.message = "Event conditions not met" := by
  intro action time objection?
  have hchecked := h.mirrored.admitRequest_eq eventId userId hids verificationData time
  refine ⟨fun refusal hrefusal => ?_, fun hnone => ?_, rfl, rfl, rfl⟩
  · rw [show db.books.objection? eventId ids userId verificationData time = some refusal
      from hrefusal] at hchecked
    have hperform : action.perform s db = .error (.refused refusal) :=
      congrArg (Action.settle s db .request) (createRequest_eq_error hchecked s none)
    refine ⟨hperform, Moment.after_call_eq_self hperform, fun wreck sheet hsheet => ?_⟩
    exact InPlace.createRequest_eq_error s wreck (hsheet ▸ hchecked) none
  · rw [show db.books.objection? eventId ids userId verificationData time = none
      from hnone] at hchecked
    obtain ⟨event, hadmitted⟩ := hchecked
    obtain ⟨request, filed, notes, hfiling⟩ := hadmitted.filing s
    have hraced : Raced db.books none db.books := rfl
    have hmakes := hfiling.createRequest_eq hraced hadmitted
    have hsettle {o : Outcome RewardRequest}
        (hmade : db.books.createRequest s eventId spellings userId verificationData time none =
          .ok o) : action.perform s db = .ok (.request o.answer, db.commit s o) :=
      congrArg (Action.settle s db .request) hmade
    refine ⟨event, ?_⟩
    by_cases hauto : event.autoReward = true
    · obtain ⟨o, happroved⟩ := hfiling.exists_approveAtOnce_eq_ok h fun id hid =>
        hspelled id (List.mem_eraseDups.mp hid)
      rw [if_pos hauto, happroved] at hmakes
      refine ⟨_, _, hadmitted.event_found, hsettle hmakes, fun hmanual => ?_⟩
      rw [hmanual] at hauto
      cases hauto
    · rw [if_neg hauto] at hmakes
      refine ⟨_, _, hadmitted.event_found, hsettle hmakes, fun _ => ?_⟩
      have hrequest := hfiling.request_eq
      rw [show event.id = eventId from Table.id_of_find?_eq_some hadmitted.event_found] at hrequest
      have hreceives :=
        hfiling.receives h.numbered (Id.nodup_of_orderedUnique hadmitted.resolved)
      rw [hrequest] at hreceives ⊢
      exact ⟨rfl, hreceives⟩

/-- After `offeringOne`, a user asks for its reward twice, in two spellings. -/
def askingTwice (userId : String) : Action :=
  let rewardId := ({} : Table Reward).nextId
  .createRequest ({} : Table Event).nextId [.known rewardId, .written (.str rewardId.text)] userId
    .empty none none

/-- A reward that is named twice is requested once, unless the user has requested it before. -/
theorem request_outcome_offeringOne :
    let db := Database.empty.after offeringOne
    let db' := Database.empty.after (offeringOne ++ [rivalAsking])
    let s : Session := { clock := ⟨4000000⟩ }
    (∃ request after, (askingTwice "bob").perform s db = .ok (.request request, after) ∧
      request.rewardIds = .arr [.str ({} : Table Reward).nextId.text] ∧
      after.books.requests.rows = [request] ∧ after.books.claims.length = 1) ∧
    (askingTwice "bob").perform s db' = .error (.refused .alreadyRequested) := by
  intro db db' s
  have hbefore : ∀ m ∈ offeringOne, m.CallsOnly Action.IsUnrivalled := by
    simp [offeringOne, pendingRun, Action.IsUnrivalled]
  have hrival : rivalAsking.CallsOnly Action.IsUnrivalled := by
    simp [rivalAsking, Action.IsUnrivalled]
  have hdb : db.Reachable Action.IsUnrivalled := ⟨offeringOne, hbefore, rfl⟩
  have hdb' : db'.Reachable Action.IsUnrivalled :=
    ⟨offeringOne ++ [rivalAsking], by simpa [or_imp, forall_and] using ⟨hbefore, hrival⟩, rfl⟩
  let eventId := ({} : Table Event).nextId
  let rewardId := ({} : Table Reward).nextId
  have hspelled : ∀ id ∈ [rewardId, rewardId], id.IsSpelled := by
    simp only [Id.isSpelled_iff]
    decide +kernel
  have hids : [IdSpelling.known rewardId, .written (.str rewardId.text)].map IdSpelling.resolve =
      [rewardId, rewardId].map .ok := by
    have hread := Id.parse_text (Id.isSpelled_iff.mp (hspelled rewardId List.mem_cons_self))
    simp [IdSpelling.resolve, Id.ofJson, hread]
  have hfree : db.books.objection? eventId [rewardId, rewardId] "bob" .empty s.clock = none := by
    decide +kernel
  have htaken : db'.books.objection? eventId [rewardId, rewardId] "bob" .empty s.clock =
      some .alreadyRequested := by decide +kernel
  obtain ⟨-, hmade, -⟩ := request_outcome hdb s eventId hids hspelled "bob" .empty none
  obtain ⟨hrefused, -⟩ := request_outcome hdb' s eventId hids hspelled "bob" .empty none
  obtain ⟨event, reply, after, hevent, hperform, hreceived⟩ := hmade hfree
  have hmanual : db.books.events.rows.all (fun e => e.autoReward = false) = true := by
    decide +kernel
  obtain ⟨rfl, hreceives⟩ := hreceived
    (of_decide_eq_true (List.all_eq_true.mp hmanual event (Table.mem_of_find?_eq_some hevent)))
  refine ⟨⟨_, after, hperform, rfl, ?_, ?_⟩, (hrefused _ htaken).1⟩
  · rw [hreceives.requests_eq]
    rfl
  · rw [hreceives.claims_eq]
    rfl

end Promotions
