import Promotions.Proofs.Separation

/-!
# The links of participations

A participation is free until a request is made for its user and event; from then on it carries the
latest such request, also when that request is rejected or cancelled. `Books.Tied` says what the
link is worth: the request is there, belongs to the same user and event and was made at the time
that the participation says, and no other participation carries it. The time of the reward may be
that of an earlier request than the one that is carried now, but it is always the time at which some
request of the user was approved. A request that was granted stays granted, and keeps the time of
its approval (`RewardRequest.Upholds`); so no later change takes away what a participation says.
-/

namespace Promotions

open Table (Evolves)

/-! ### Rows from the latest to the earliest -/

theorem notAfter_trans {a b c : Option Instant} (hab : notAfter a b = true)
    (hbc : notAfter b c = true) : notAfter a c = true := by
  cases a with
  | none => rfl
  | some a =>
    cases b with
    | none => cases hab
    | some b =>
      cases c with
      | none => cases hbc
      | some c =>
        simp only [notAfter, decide_eq_true_eq] at hab hbc ⊢
        exact Instant.le_trans hab hbc

theorem notAfter_total (a b : Option Instant) : (notAfter a b || notAfter b a) = true := by
  cases a with
  | none => rfl
  | some a =>
    cases b with
    | none => rfl
    | some b =>
      simp only [notAfter, Bool.or_eq_true, decide_eq_true_eq]
      exact Int.le_total a.micros b.micros

/-- **Rows that are sorted alike keep their order** when rows are sorted. -/
theorem filter_mergeSort {ρ : Type} {le : ρ → ρ → Bool}
    (htrans : ∀ a b c, le a b = true → le b c = true → le a c = true)
    (htotal : ∀ a b, (le a b || le b a) = true) {p : ρ → Bool}
    (halike : ∀ a b, p a = true → p b = true → le a b = true) (rows : List ρ) :
    (rows.mergeSort le).filter p = rows.filter p := by
  have hsame : (rows.filter p).Pairwise fun a b => le a b = true :=
    List.pairwise_of_forall_mem_list fun a ha b hb =>
      halike a b (List.mem_filter.mp ha).2 (List.mem_filter.mp hb).2
  -- they are sorted as they stand, so that they are found in the sorted list in this order
  have hsub := (List.sublist_mergeSort htrans htotal hsame List.filter_sublist).filter p
  rw [List.filter_filter] at hsub
  simp only [Bool.and_self] at hsub
  refine (hsub.eq_of_length ?_).symm
  exact (((List.mergeSort_perm rows _).filter _).length_eq).symm

theorem notAfter_refl (t : Option Instant) : notAfter t t = true := by
  simpa using notAfter_total t t

section LatestFirst
variable {ρ : Type} {time : ρ → Option Instant} {rows : List ρ} {row first : ρ}

theorem mem_latestFirst : row ∈ latestFirst time rows ↔ row ∈ rows := List.mem_mergeSort

variable (time rows) in
theorem pairwise_latestFirst :
    (latestFirst time rows).Pairwise fun a b => notAfter (time b) (time a) = true := by
  unfold latestFirst
  refine List.pairwise_mergeSort (fun a b c hab hbc => ?_) (fun a b => ?_) rows
  · exact notAfter_trans hbc hab
  · exact notAfter_total (time b) (time a)

theorem filter_latestFirst (time : ρ → Option Instant) (rows : List ρ) (t : Option Instant) :
    (latestFirst time rows).filter (fun row => time row = t) =
      rows.filter fun row => time row = t := by
  refine filter_mergeSort (fun a b c hab hbc => ?_) (fun a b => ?_) (fun a b ha hb => ?_) rows
  · exact notAfter_trans hbc hab
  · exact notAfter_total (time b) (time a)
  · rw [of_decide_eq_true ha, of_decide_eq_true hb]
    exact notAfter_refl t

theorem notAfter_of_head?_latestFirst (hfirst : (latestFirst time rows).head? = some first)
    (hrow : row ∈ rows) : notAfter (time row) (time first) = true := by
  have hsorted := pairwise_latestFirst time rows
  have hmem : row ∈ latestFirst time rows := mem_latestFirst.mpr hrow
  obtain ⟨rest, hrest⟩ := List.head?_eq_some_iff.mp hfirst
  rw [hrest] at hsorted hmem
  rcases List.mem_cons.mp hmem with rfl | hmem
  · exact notAfter_refl (time row)
  · exact List.rel_of_pairwise_cons hsorted hmem

end LatestFirst

namespace Books

variable {books : Books} {eventId : Id} {userId : String} {p : Participation}

theorem mem_participationsOf :
    p ∈ books.participationsOf eventId userId ↔ p ∈ books.participations.rows ∧
      p.eventId = eventId ∧ p.userId = userId ∧ p.status = .participated := by
  simp [participationsOf, Table.filter, and_assoc]

theorem of_latestParticipation? (h : books.latestParticipation? eventId userId = some p) :
    p ∈ books.participationsOf eventId userId ∧
      ∀ other ∈ books.participationsOf eventId userId, other.participatedAt ≤ p.participatedAt := by
  refine ⟨mem_latestFirst.mp (List.mem_of_head? h), fun other hother => ?_⟩
  simpa [notAfter] using notAfter_of_head?_latestFirst h hother

end Books

/-! ### What a participation and a request say of each other -/

theorem RequestStatus.isGranted_iff {status : RequestStatus} :
    status.isGranted = true ↔ status = .approved ∨ status = .issued := by
  cases status <;> simp [isGranted]

/-- Nothing was requested for the participation, and nothing given. -/
structure Participation.IsFree (p : Participation) : Prop where
  isRewardRequested_eq : p.isRewardRequested = false
  rewardRequestedAt_eq : p.rewardRequestedAt = none
  rewardRequestId_eq : p.rewardRequestId = none
  rewardedAt_eq : p.rewardedAt = none

/-- The participation carries the request, one of its user for its event. -/
structure Participation.Carries (p : Participation) (q : RewardRequest) : Prop where
  isRewardRequested_eq : p.isRewardRequested = true
  rewardRequestedAt_eq : p.rewardRequestedAt = some q.requestedAt
  rewardRequestId_eq : p.rewardRequestId = some q.id
  userId_eq : q.userId = p.userId
  eventId_eq : q.eventId = p.eventId

/-- The request was granted to the user of the participation at some time. -/
structure RewardRequest.Rewards (q : RewardRequest) (p : Participation) (time : Instant) : Prop where
  isGranted : q.status.isGranted = true
  approvedAt_eq : q.approvedAt = some time
  userId_eq : q.userId = p.userId
  eventId_eq : q.eventId = p.eventId

/-- A later version of a request, in which nothing that was granted is taken back. -/
def RewardRequest.Upholds (q q' : RewardRequest) : Prop :=
  q.Continues q' ∧
    (q.status.isGranted = true → q'.status.isGranted = true ∧ q'.approvedAt = q.approvedAt)

namespace RewardRequest

theorem Upholds.refl (q : RewardRequest) : q.Upholds q := ⟨.refl q, fun h => ⟨h, rfl⟩⟩

theorem upholds_moved {q : RewardRequest} {target : RequestStatus}
    (hmay : q.status.mayBecome target = true) (operator reason : Option String)
    (now stamp : Instant) : q.Upholds (q.moved target operator reason now stamp) := by
  refine ⟨q.continues_moved target operator reason now stamp, fun hgranted => ?_⟩
  -- only an approved request is granted and may still move: it may be delivered
  cases hstatus : q.status with
  | approved =>
    cases target with
    | issued => exact ⟨rfl, rfl⟩
    | pending | approved | rejected | cancelled | unlisted =>
      simp [hstatus, RequestStatus.mayBecome] at hmay
  | issued => simp [hstatus, RequestStatus.mayBecome] at hmay
  | pending | rejected | cancelled | unlisted =>
    rw [hstatus] at hgranted
    cases hgranted

theorem Upholds.carries {q q' : RewardRequest} {p : Participation} (h : q.Upholds q')
    (hp : p.Carries q) : p.Carries q' := by
  obtain ⟨⟨_, _, _, _, _, _, rfl⟩, -⟩ := h
  exact { hp with }

theorem Upholds.rewards {q q' : RewardRequest} {p : Participation} {time : Instant}
    (h : q.Upholds q') (hq : q.Rewards p time) : q'.Rewards p time := by
  obtain ⟨hcontinues, hkept⟩ := h
  obtain ⟨hgranted, happroved⟩ := hkept hq.isGranted
  obtain ⟨_, _, _, _, _, _, rfl⟩ := hcontinues
  exact ⟨hgranted, happroved.trans hq.approvedAt_eq, hq.userId_eq, hq.eventId_eq⟩

end RewardRequest

namespace Books

/-- The participation is free, or it carries a request that is there, and the time of its reward is
that of an approval. -/
def Ties (books : Books) (p : Participation) : Prop :=
  p.IsFree ∨ (∃ q ∈ books.requests.rows, p.Carries q) ∧
    ∀ time, p.rewardedAt = some time → ∃ q ∈ books.requests.rows, q.Rewards p time

/-- **Participations are tied to requests**, and no two of them to the same one. -/
structure Tied (books : Books) : Prop where
  numbered : books.Numbered
  ties : ∀ p ∈ books.participations.rows, books.Ties p
  once : ∀ p ∈ books.participations.rows, ∀ p' ∈ books.participations.rows, ∀ id,
    p.rewardRequestId = some id → p'.rewardRequestId = some id → p = p'

theorem tied_empty : ({} : Books).Tied where
  numbered := numbered_empty
  ties := by simp
  once := by simp

section Ties
variable {books after : Books} {p : Participation}

theorem Ties.mono (h : books.Ties p)
    (hrequests : Evolves RewardRequest.Upholds books.requests after.requests) : after.Ties p := by
  rcases h with hfree | ⟨⟨q, hq, hcarries⟩, hrewarded⟩
  · exact Or.inl hfree
  · refine Or.inr ⟨?_, fun time htime => ?_⟩
    · obtain ⟨q', hq', hupholds⟩ := hrequests.exists_mem hq
      exact ⟨q', hq', hupholds.carries hcarries⟩
    · obtain ⟨rewarding, hrewarding, hrewards⟩ := hrewarded time htime
      obtain ⟨q', hq', hupholds⟩ := hrequests.exists_mem hrewarding
      exact ⟨q', hq', hupholds.rewards hrewards⟩

theorem Ties.exists_carries (h : books.Ties p) {id : Id} (hid : p.rewardRequestId = some id) :
    ∃ q ∈ books.requests.rows, q.id = id ∧ p.Carries q := by
  rcases h with hfree | ⟨⟨q, hq, hcarries⟩, -⟩
  · have hnone := hfree.rewardRequestId_eq
    rw [hid] at hnone
    cases hnone
  · have hsome := hcarries.rewardRequestId_eq
    rw [hid] at hsome
    exact ⟨q, hq, (Option.some.inj hsome).symm, hcarries⟩

end Ties

/-! ### What keeps participations tied -/

section Tied
variable {s : Session} {books after : Books} {request : RewardRequest} {now : Instant}
  {notes : List Note}

theorem Tied.of_eq (h : books.Tied) (hafter : after.Numbered)
    (hparticipations : after.participations = books.participations)
    (hrequests : Evolves RewardRequest.Upholds books.requests after.requests) : after.Tied where
  numbered := hafter
  ties := by
    rw [hparticipations]
    exact fun p hp => (h.ties p hp).mono hrequests
  once := by
    rw [hparticipations]
    exact h.once

theorem Tied.push (h : books.Tied) (hafter : after.Numbered) {new : Participation}
    (hparticipations : after.participations = books.participations.push new)
    (hrequests : after.requests = books.requests) (hnew : new.IsFree) : after.Tied := by
  have hmem : ∀ p ∈ after.participations.rows, p ∈ books.participations.rows ∨ p = new := by
    intro p hp
    rw [hparticipations] at hp
    simpa using hp
  have hevolves : Evolves RewardRequest.Upholds books.requests after.requests := by
    rw [hrequests]
    exact .refl RewardRequest.Upholds.refl _
  refine ⟨hafter, fun p hp => ?_, fun p hp p' hp' id hid hid' => ?_⟩
  · rcases hmem p hp with hold | rfl
    · exact (h.ties p hold).mono hevolves
    · exact Or.inl hnew
  · have hnone := hnew.rewardRequestId_eq
    rcases hmem p hp with hold | rfl
    · rcases hmem p' hp' with hold' | rfl
      · exact h.once p hold p' hold' id hid hid'
      · rw [hid'] at hnone
        cases hnone
    · rw [hid] at hnone
      cases hnone

/-- One participation may change, if it is tied afterwards and carries what no other one does. -/
theorem Tied.modify (h : books.Tied) {latest : Participation}
    (hlatest : latest ∈ books.participations.rows) {f : Participation → Participation}
    (hid : ∀ p, (f p).id = p.id) (hties : books.Ties (f latest))
    (hown : ∀ id, (f latest).rewardRequestId = some id →
      ∀ p ∈ books.participations.rows, p.rewardRequestId = some id → p = latest) :
    ({ books with participations := books.participations.modify latest.id f } : Books).Tied := by
  have hmem : ∀ p ∈ (books.participations.modify latest.id f).rows,
      p = f latest ∨ p ∈ books.participations.rows ∧ p.id ≠ latest.id := by
    intro p hp
    obtain ⟨old, hold, rfl⟩ := List.mem_map.mp hp
    split_ifs with hsame
    · rw [h.numbered.participations.eq_of_id_eq hold hlatest hsame]
      exact Or.inl rfl
    · exact Or.inr ⟨hold, hsame⟩
  refine ⟨?_, fun p hp => ?_, fun p hp p' hp' id hpid hpid' => ?_⟩
  · exact { h.numbered with
      participations := h.numbered.participations.modify fun p hsame => (hid p).trans hsame }
  · rcases hmem p hp with rfl | ⟨hold, -⟩
    · exact hties
    · exact h.ties p hold
  · rcases hmem p hp with rfl | ⟨hold, hne⟩ <;> rcases hmem p' hp' with rfl | ⟨hold', hne'⟩
    · rfl
    · exact absurd (congrArg Participation.id (hown id hpid p' hold' hpid')) hne'
    · exact absurd (congrArg Participation.id (hown id hpid' p hold hpid)) hne
    · exact h.once p hold p' hold' id hpid hpid'

/-- **The latest participation takes up a request** that no participation carries yet. -/
theorem Tied.linkParticipation (h : books.Tied) (hrequest : request ∈ books.requests.rows)
    (hnow : request.requestedAt = now)
    (hnew : ∀ p ∈ books.participations.rows, p.rewardRequestId ≠ some request.id) :
    (books.linkParticipation request now).Tied := by
  unfold Books.linkParticipation
  split
  · exact h
  · next latest hlatest =>
    obtain ⟨hmem, -⟩ := of_latestParticipation? hlatest
    obtain ⟨hmem, hevent, huser, -⟩ := mem_participationsOf.mp hmem
    refine h.modify hmem (fun _ => rfl) (Or.inr ⟨⟨request, hrequest, ?_⟩, ?_⟩) ?_
    · exact ⟨rfl, congrArg some hnow.symm, rfl, huser.symm, hevent.symm⟩
    · -- the time of an earlier reward stays, and so does the approval that explains it
      intro time htime
      rcases h.ties latest hmem with hfree | ⟨-, hrewarded⟩
      · have hnone := hfree.rewardedAt_eq
        rw [show latest.rewardedAt = some time from htime] at hnone
        cases hnone
      · obtain ⟨q, hq, hrewards⟩ := hrewarded time htime
        exact ⟨q, hq, { hrewards with }⟩
    · intro id hid p hp hpid
      have hsame : request.id = id := Option.some.inj hid
      rw [← hsame] at hpid
      exact absurd hpid (hnew p hp)

/-- **The latest participation is rewarded** when the request that it carries is approved. -/
theorem Tied.markRewarded (h : books.Tied) {approved : RewardRequest}
    (hcontinues : request.Continues approved) (happroved : approved ∈ books.requests.rows)
    (hgranted : approved.status.isGranted = true) (hnow : approved.approvedAt = some now) :
    (books.markRewarded request now).Tied := by
  unfold Books.markRewarded
  split
  · exact h
  · next latest hlatest =>
    obtain ⟨hmem, -⟩ := of_latestParticipation? hlatest
    obtain ⟨hmem, hevent, huser, -⟩ := mem_participationsOf.mp hmem
    split
    · next hcarried =>
      obtain ⟨q, hq, -, hcarries⟩ := (h.ties latest hmem).exists_carries hcarried
      refine h.modify hmem (fun _ => rfl) (Or.inr ⟨⟨q, hq, { hcarries with }⟩, ?_⟩) ?_
      · intro time htime
        have htime : now = time := Option.some.inj htime
        rw [htime] at hnow
        obtain ⟨_, _, _, _, _, _, rfl⟩ := hcontinues
        exact ⟨_, happroved, hgranted, hnow, huser.symm, hevent.symm⟩
      · exact fun id hid p hp hpid => h.once p hp latest hmem id hpid hid
    · exact h

theorem Filing.tied {event : Event} {rewards : List Id} {userId : String} {verificationData : Json}
    (h : Filing s books event rewards userId verificationData now request after notes)
    (hbooks : books.Tied) : after.Tied := by
  rw [h.after_eq]
  refine Tied.linkParticipation ?_ (List.mem_append_right _ List.mem_cons_self) ?_ fun p hp hlink => ?_
  · exact hbooks.of_eq { hbooks.numbered with requests := hbooks.numbered.requests.push h.id_eq } rfl
      (.push RewardRequest.Upholds.refl _ _)
  · rw [h.request_eq]
    rfl
  · -- whatever a participation carries is an old request
    obtain ⟨q, hq, hid, -⟩ := (hbooks.ties p hp).exists_carries hlink
    exact hbooks.numbered.requests.id_ne_nextId hq (hid.trans h.id_eq)

theorem Moving.tied {operator reason : Option String} {target : RequestStatus}
    (h : Moving s books request operator reason now target after notes) (hbooks : books.Tied)
    (hrequest : request ∈ books.requests.rows) (hmay : request.status.mayBecome target = true) :
    after.Tied := by
  have hupholds := RewardRequest.upholds_moved hmay operator reason now s.stamp
  have hafter := h.numbered hbooks.numbered
  have hput := Evolves.put RewardRequest.Upholds.refl hbooks.numbered.requests hrequest
    (request.id_moved target operator reason now s.stamp) hupholds
  cases h with
  | approved hwanted hids hgranting hgrants hnote =>
    have hissued := hgranting.numbered hbooks.numbered
    obtain ⟨rewards, table, rfl⟩ := hgranting.exists_eq
    refine Tied.markRewarded ?_ hupholds.1 ?_ rfl rfl
    · exact hbooks.of_eq { hissued with requests := hissued.requests.put _ } rfl hput
    · exact List.mem_map.mpr ⟨request, hrequest, if_pos rfl⟩
  | rejected hnote => exact hbooks.of_eq hafter rfl hput
  | cancelled hnote => exact hbooks.of_eq hafter rfl hput
  | delivered hnote => exact hbooks.of_eq hafter rfl hput

end Tied

end Books

open Books

/-- **Every change keeps participations tied.** -/
theorem Change.tied {s : Session} {books after : Books} {action : Action} {notes : List Note}
    (h : Change s books action after notes) (hbooks : books.Tied) : after.Tied := by
  have hafter := h.numbered hbooks.numbered
  have hsame : Evolves RewardRequest.Upholds books.requests books.requests :=
    .refl RewardRequest.Upholds.refl _
  have hrace {rival : Option Claim} {raced : Books} (hraced : Raced books rival raced) :
      raced.Tied := by
    have hnumbered := hraced.numbered hbooks.numbered
    obtain ⟨claims, rfl⟩ := hraced.exists_eq
    exact hbooks.of_eq hnumbered rfl hsame
  cases h with
  | nothing | noted => exact hbooks
  | eventMade | eventEdited | rewardMade | rewardEdited | used | expired =>
    exact hbooks.of_eq hafter rfl hsame
  | tookPart _ _ _ _ _ _ hparticipation =>
    refine hbooks.push hafter rfl rfl ?_
    rw [hparticipation]
    exact ⟨rfl, rfl, rfl, rfl⟩
  | filed _ hraced hfiling => exact hfiling.tied (hrace hraced)
  | filedAndApproved _ hraced hfiling _ hfound hmay hmoving =>
    have hfiled := hfiling.tied (hrace hraced)
    exact hmoving.tied hfiled (Table.mem_of_find?_eq_some hfound) hmay
  | moved hfound hmay hmoving | cancelled hfound _ hmay hmoving =>
    exact hmoving.tied hbooks (Table.mem_of_find?_eq_some hfound) hmay
  | issued _ _ _ hgranting =>
    obtain ⟨rewards, table, rfl⟩ := hgranting.exists_eq
    exact hbooks.of_eq hafter rfl hsame

theorem Database.Reachable.tied {P : Action → Prop} {db : Database} (h : db.Reachable P) :
    db.books.Tied :=
  (h.mono (Q := fun _ => True) fun _ _ => trivial).keeps (fun _ _ => trivial) tied_empty
    fun _ hbooks hchange => hchange.tied hbooks

/-- **The links of participations are well founded.** In every database that can be reached,
whatever is called, a participation says that a request was made for it, names the request and names
the time, or it says nothing of the kind. The request that it names is there, is one of its user for
its event, and was made at that time; no other participation names it. If the participation says
that it was rewarded then it names a request, and it was rewarded when some request of its user for
its event was approved, which has been approved or delivered ever since. -/
theorem participation_links {P : Action → Prop} {db : Database} (h : db.Reachable P) :
    (∀ p ∈ db.books.participations.rows,
      (p.isRewardRequested = true ↔ p.rewardRequestId.isSome = true) ∧
      (p.rewardRequestedAt.isSome = true ↔ p.rewardRequestId.isSome = true) ∧
      (∀ id, p.rewardRequestId = some id → ∃ q, db.books.requests.find? id = some q ∧
        q.userId = p.userId ∧ q.eventId = p.eventId ∧ p.rewardRequestedAt = some q.requestedAt) ∧
      ∀ time, p.rewardedAt = some time → p.rewardRequestId.isSome = true ∧
        ∃ q ∈ db.books.requests.rows, (q.status = .approved ∨ q.status = .issued) ∧
          q.userId = p.userId ∧ q.eventId = p.eventId ∧ q.approvedAt = some time) ∧
    ∀ p ∈ db.books.participations.rows, ∀ p' ∈ db.books.participations.rows, ∀ id,
      p.rewardRequestId = some id → p'.rewardRequestId = some id → p = p' := by
  have htied := h.tied
  refine ⟨fun p hp => ?_, htied.once⟩
  have hties := htied.ties p hp
  refine ⟨?_, ?_, fun id hid => ?_, fun time htime => ?_⟩
  · rcases hties with hfree | ⟨⟨q, -, hcarries⟩, -⟩
    · simp [hfree.isRewardRequested_eq, hfree.rewardRequestId_eq]
    · simp [hcarries.isRewardRequested_eq, hcarries.rewardRequestId_eq]
  · rcases hties with hfree | ⟨⟨q, -, hcarries⟩, -⟩
    · simp [hfree.rewardRequestedAt_eq, hfree.rewardRequestId_eq]
    · simp [hcarries.rewardRequestedAt_eq, hcarries.rewardRequestId_eq]
  · obtain ⟨q, hq, hqid, hcarries⟩ := hties.exists_carries hid
    exact ⟨q, htied.numbered.requests.find?_eq_some_iff.mpr ⟨hq, hqid⟩, hcarries.userId_eq,
      hcarries.eventId_eq, hcarries.rewardRequestedAt_eq⟩
  · rcases hties with hfree | ⟨⟨carried, -, hcarries⟩, hrewarded⟩
    · have hnone := hfree.rewardedAt_eq
      rw [htime] at hnone
      cases hnone
    · obtain ⟨q, hq, hrewards⟩ := hrewarded time htime
      refine ⟨by simp [hcarries.rewardRequestId_eq], q, hq, ?_, hrewards.userId_eq,
        hrewards.eventId_eq, hrewards.approvedAt_eq⟩
      exact RequestStatus.isGranted_iff.mp hrewards.isGranted

/-- A user takes part in an event, asks for a reward of it and is given it, and asks for another
one, which is rejected. -/
def rewardingRun : List Moment :=
  let event : EventDraft :=
    { title := "Spring", description := "", startDate := ⟨⟨0⟩, none⟩, endDate := ⟨⟨9000000⟩, none⟩
      status := .active, conditionType := .attendance, conditionValue := .empty
      autoReward := false, allowMultiple := false, maxParticipants := none }
  let eventId := ({} : Table Event).nextId
  let badge : RewardDraft :=
    { eventId, name := "Badge", description := none, type := .badge, value := "gold"
      metadata := none, totalQuantity := 1, expiryDate := none }
  let asking (id : Id) : Step := .call (.createRequest eventId [.known id] "ann" .empty none none)
  let moving (id : Id) (target : RequestStatus) : Step :=
    .call (.transition id target (some "admin") none none)
  let first := ({} : Table Reward).nextId
  let request := ({} : Table RewardRequest).nextId
  [⟨{ clock := ⟨1000000⟩ }, .call (.createEvent event "admin")⟩,
    ⟨{ clock := ⟨2000000⟩ }, .call (.createReward badge "admin")⟩,
    ⟨{ clock := ⟨3000000⟩ }, .call (.createReward badge "admin")⟩,
    ⟨{ clock := ⟨4000000⟩ }, .call (.participate eventId "ann" .null .null none)⟩,
    ⟨{ clock := ⟨5000000⟩ }, asking first⟩,
    ⟨{ clock := ⟨6000000⟩ }, moving request .approved⟩,
    ⟨{ clock := ⟨7000000⟩ }, asking ⟨first.val + 1⟩⟩,
    ⟨{ clock := ⟨8000000⟩ }, moving ⟨request.val + 1⟩ .rejected⟩]

/-- The participation of `rewardingRun` carries the second request, although that was rejected, and
was rewarded for the first. -/
theorem participation_links_rewardingRun :
    let books := (Database.empty.after rewardingRun).books
    books.participations.rows.map (fun p => (p.rewardRequestedAt, p.rewardedAt)) =
      [(some ⟨7000000⟩, some ⟨6000000⟩)] ∧
    ∀ p ∈ books.participations.rows, ∀ time, p.rewardedAt = some time →
      p.rewardRequestId.isSome = true ∧ ∃ q ∈ books.requests.rows,
        (q.status = .approved ∨ q.status = .issued) ∧ q.userId = p.userId ∧
          q.eventId = p.eventId ∧ q.approvedAt = some time := by
  have hreachable : (Database.empty.after rewardingRun).Reachable fun _ => True :=
    ⟨rewardingRun, fun _ _ _ _ => trivial, rfl⟩
  refine ⟨by decide +kernel, fun p hp => ?_⟩
  exact ((participation_links hreachable).1 p hp).2.2.2

end Promotions
