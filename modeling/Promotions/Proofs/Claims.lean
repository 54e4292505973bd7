import Mathlib.Data.List.Pairwise
import Promotions.Proofs.Wanted

/-!
# Claims mirror live requests

A request holds claims from when it is filed until it is rejected or cancelled. Claims are added by
one operation and released by two others, while approval and delivery leave them alone.
`Books.Mirrored` says that they match the live requests nevertheless: every claim is backed by a
live request that lists its reward, every live request holds a claim on each of its rewards, and no
two claims are rivals.

From this `claims_mirror_requests` follows for every database that can be reached without rival
claims from outside. In particular a user has at most one live request for a reward of an event.
-/

namespace Promotions

namespace RequestStatus

/-- A request of this status holds claims on its rewards. -/
def isLive : RequestStatus → Bool
  | pending | approved | issued => true
  | rejected | cancelled | unlisted _ => false

theorem isLive_of_mayBecome {old new : RequestStatus} (h : old.mayBecome new = true) :
    old.isLive = true := by
  cases old with
  | pending | approved | issued => rfl
  | rejected | cancelled | unlisted => simp [mayBecome] at h

end RequestStatus

/-- No rival claim appears while a request is made. -/
def Action.IsUnrivalled : Action → Prop
  | .createRequest _ _ _ _ _ rival => rival = none
  | _ => True

theorem Action.IsPublic.isUnrivalled (action : Action) (h : action.IsPublic) :
    action.IsUnrivalled := by
  cases action with
  | createRequest => exact h.2.2
  | _ => trivial

/-- The claim is one of a request. -/
structure Claim.IsOf (c : Claim) (q : RewardRequest) : Prop where
  requestId_eq : c.requestId = q.id
  eventId_eq : c.eventId = q.eventId
  userId_eq : c.userId = q.userId

theorem Claim.rivals_iff {a b : Claim} :
    a.rivals b = true ↔ a.eventId = b.eventId ∧ a.userId = b.userId ∧ a.rewardId = b.rewardId := by
  simp [rivals, and_assoc]

theorem Claim.rivals_symm {a b : Claim} (h : a.rivals b = true) : b.rivals a = true := by
  obtain ⟨hevent, huser, hreward⟩ := rivals_iff.mp h
  exact rivals_iff.mpr ⟨hevent.symm, huser.symm, hreward.symm⟩

theorem Claim.IsOf.continues {c : Claim} {q q' : RewardRequest} (h : c.IsOf q)
    (hq : q.Continues q') : c.IsOf q' := by
  obtain ⟨_, _, _, _, _, _, rfl⟩ := hq
  exact ⟨h.requestId_eq, h.eventId_eq, h.userId_eq⟩

namespace Books

/-- **The claims match the live requests**, one claim for each reward that such a request lists. -/
structure Mirrored (books : Books) : Prop where
  numbered : books.Numbered
  backed : ∀ c ∈ books.claims, ∃ q ∈ books.requests.rows,
    q.status.isLive = true ∧ q.Lists c.rewardId ∧ c.IsOf q
  held : ∀ q ∈ books.requests.rows, q.status.isLive = true → ∀ rewardId, q.Lists rewardId →
    ∃ c ∈ books.claims, c.requestId = q.id ∧ c.rewardId = rewardId
  unrivalled : books.claims.Pairwise fun a b => b.rivals a = false

section Mirrored
variable {s : Session} {books after : Books}

theorem mirrored_empty : ({} : Books).Mirrored where
  numbered := numbered_empty
  backed := by simp
  held := by simp
  unrivalled := .nil

theorem Mirrored.of_eq (h : books.Mirrored) (hafter : after.Numbered)
    (hrequests : after.requests = books.requests) (hclaims : after.claims = books.claims) :
    after.Mirrored where
  numbered := hafter
  backed := by rw [hrequests, hclaims]; exact h.backed
  held := by rw [hrequests, hclaims]; exact h.held
  unrivalled := by rw [hclaims]; exact h.unrivalled

theorem Filing.mirrored {event : Event} {rewards : List Id} {userId : String}
    {verificationData : Json} {now : Instant} {request : RewardRequest} {notes : List Note}
    (h : Filing s books event rewards userId verificationData now request after notes)
    (hbooks : books.Mirrored) : after.Mirrored := by
  have hafter := h.numbered hbooks.numbered
  have hlists : ∀ {rewardId}, request.Lists rewardId ↔ rewardId ∈ rewards :=
    RewardRequest.lists_iff (by rw [h.request_eq]; rfl)
  have hlive : request.status.isLive = true := by rw [h.request_eq]; rfl
  obtain ⟨participations, -, rfl⟩ := h.exists_eq
  refine ⟨hafter, fun c hc => ?_, fun q hq hqlive rewardId hrewardId => ?_, ?_⟩
  · rcases List.mem_append.mp hc with hc | hc
    · obtain ⟨q, hq, hbacked⟩ := hbooks.backed c hc
      exact ⟨q, List.mem_append_left _ hq, hbacked⟩
    · obtain ⟨rewardId, hrewardId, rfl⟩ := List.mem_map.mp hc
      refine ⟨request, by simp, hlive, hlists.mpr hrewardId, ?_⟩
      exact ⟨rfl, by rw [h.request_eq]; rfl, by rw [h.request_eq]; rfl⟩
  · rcases List.mem_append.mp hq with hq | hq
    · obtain ⟨c, hc, hof⟩ := hbooks.held q hq hqlive rewardId hrewardId
      exact ⟨c, List.mem_append_left _ hc, hof⟩
    · cases List.mem_singleton.mp hq
      exact ⟨_, List.mem_append_right _ (List.mem_map_of_mem (hlists.mp hrewardId)), rfl, rfl⟩
  · refine List.pairwise_append.mpr ⟨hbooks.unrivalled, h.unrivalled.listed, fun a ha b hb => ?_⟩
    exact h.unrivalled.held b hb a ha

section Put
variable {old new : RewardRequest}

theorem Mirrored.put (h : books.Mirrored) (hafter : after.Numbered)
    (hold : old ∈ books.requests.rows) (hcontinues : old.Continues new)
    (hrequests : after.requests = books.requests.put new) (hclaims : after.claims = books.claims)
    (holdlive : old.status.isLive = true) (hnewlive : new.status.isLive = true) :
    after.Mirrored := by
  have hid : new.id = old.id := hcontinues.id_eq
  have hmem {q : RewardRequest} := mem_requests_put (q := q) hrequests hold hid
  refine ⟨hafter, fun c hc => ?_, fun q hq hlive rewardId hrewardId => ?_, ?_⟩
  · rw [hclaims] at hc
    obtain ⟨q, hq, hlive, hlists, hof⟩ := h.backed c hc
    by_cases hqid : q.id = old.id
    · cases h.numbered.requests.eq_of_id_eq hq hold hqid
      exact ⟨new, hmem.mpr (Or.inl rfl), hnewlive, hcontinues.lists_iff.mpr hlists,
        hof.continues hcontinues⟩
    · exact ⟨q, hmem.mpr (Or.inr ⟨hq, hqid⟩), hlive, hlists, hof⟩
  · rw [hclaims]
    rcases hmem.mp hq with rfl | ⟨hq, -⟩
    · rw [hid]
      exact h.held old hold holdlive rewardId (hcontinues.lists_iff.mp hrewardId)
    · exact h.held q hq hlive rewardId hrewardId
  · rw [hclaims]
    exact h.unrivalled

theorem Mirrored.release (h : books.Mirrored) (hafter : after.Numbered)
    (hold : old ∈ books.requests.rows) (hid : new.id = old.id)
    (hrequests : after.requests = books.requests.put new)
    (hclaims : after.claims = books.claims.filter fun c => c.requestId ≠ old.id)
    (hnewlive : ¬new.status.isLive = true) : after.Mirrored := by
  have hmem {q : RewardRequest} := mem_requests_put (q := q) hrequests hold hid
  refine ⟨hafter, fun c hc => ?_, fun q hq hlive rewardId hrewardId => ?_, ?_⟩
  · rw [hclaims] at hc
    obtain ⟨hc, hne⟩ := List.mem_filter.mp hc
    obtain ⟨q, hq, hlive, hlists, hof⟩ := h.backed c hc
    refine ⟨q, hmem.mpr (Or.inr ⟨hq, ?_⟩), hlive, hlists, hof⟩
    rw [← hof.requestId_eq]
    simpa using hne
  · rcases hmem.mp hq with rfl | ⟨hq, hne⟩
    · exact absurd hlive hnewlive
    · obtain ⟨c, hc, hcid, hcreward⟩ := h.held q hq hlive rewardId hrewardId
      refine ⟨c, ?_, hcid, hcreward⟩
      rw [hclaims]
      exact List.mem_filter.mpr ⟨hc, by simpa [hcid] using hne⟩
  · rw [hclaims]
    exact h.unrivalled.filter _

end Put

section Moving
variable {request : RewardRequest} {operator reason : Option String} {now : Instant}
  {target : RequestStatus} {notes : List Note}

theorem Moving.claims_eq (h : Moving s books request operator reason now target after notes) :
    after.claims =
      if target.isLive then books.claims
      else books.claims.filter fun c => c.requestId ≠ request.id := by
  cases h with
  | approved hwanted hids hgranting hgrants hnote =>
    obtain ⟨rewards, table, rfl⟩ := hgranting.exists_eq
    obtain ⟨participations, -, heq⟩ := exists_markRewarded_eq
      (putRequest { books with rewards, grants := table } s (request.approved operator now))
      request now
    rw [heq]
    rfl
  | rejected hnote => rfl
  | cancelled hnote => rfl
  | delivered hnote => rfl

/-- **Moving a request** keeps its claims or releases them, as its new status demands. -/
theorem Moving.mirrored (h : Moving s books request operator reason now target after notes)
    (hbooks : books.Mirrored) (hrequest : request ∈ books.requests.rows)
    (hmay : request.status.mayBecome target = true) : after.Mirrored := by
  have hafter := h.numbered hbooks.numbered
  have hstatus := RewardRequest.status_moved hmay operator reason now s.stamp
  have hclaims := h.claims_eq
  by_cases hlive : target.isLive = true
  · rw [if_pos hlive] at hclaims
    exact hbooks.put hafter hrequest (request.continues_moved target operator reason now s.stamp)
      h.requests_eq hclaims (RequestStatus.isLive_of_mayBecome hmay) (by rwa [hstatus])
  · rw [if_neg hlive] at hclaims
    exact hbooks.release hafter hrequest (request.id_moved target operator reason now s.stamp)
      h.requests_eq hclaims (by rwa [hstatus])

end Moving

end Mirrored

end Books

open Books

/-- **Every change keeps claims and live requests matched**, if no rival claim appears. -/
theorem Change.mirrored {s : Session} {books after : Books} {action : Action} {notes : List Note}
    (h : Change s books action after notes) (hunrivalled : action.IsUnrivalled)
    (hbooks : books.Mirrored) : after.Mirrored := by
  have hafter := h.numbered hbooks.numbered
  cases h with
  | nothing | noted => exact hbooks
  | eventMade | eventEdited | rewardMade | rewardEdited | tookPart | used | expired =>
    exact hbooks.of_eq hafter rfl rfl
  | filed _ hraced hfiling =>
    cases hunrivalled
    cases hraced
    exact hfiling.mirrored hbooks
  | filedAndApproved _ hraced hfiling _ hfound hmay hmoving =>
    cases hunrivalled
    cases hraced
    exact hmoving.mirrored (hfiling.mirrored hbooks) (Table.mem_of_find?_eq_some hfound) hmay
  | moved hfound hmay hmoving =>
    exact hmoving.mirrored hbooks (Table.mem_of_find?_eq_some hfound) hmay
  | cancelled hfound _ hmay hmoving =>
    exact hmoving.mirrored hbooks (Table.mem_of_find?_eq_some hfound) hmay
  | issued _ _ _ hgranting =>
    obtain ⟨rewards, table, rfl⟩ := hgranting.exists_eq
    exact hbooks.of_eq hafter rfl rfl

section Exactly
variable {books : Books} (h : books.Mirrored)
include h

theorem Books.Mirrored.exists_claim {q : RewardRequest} (hq : q ∈ books.requests.rows)
    (hlive : q.status.isLive = true) {rewardId : Id} (hlists : q.Lists rewardId) :
    ∃ c ∈ books.claims, c.IsOf q ∧ c.rewardId = rewardId := by
  obtain ⟨c, hc, hid, hreward⟩ := h.held q hq hlive rewardId hlists
  obtain ⟨backer, hbacker, -, -, hof⟩ := h.backed c hc
  have hsame : backer.id = q.id := hof.requestId_eq.symm.trans hid
  cases h.numbered.requests.eq_of_id_eq hbacker hq hsame
  exact ⟨c, hc, hof, hreward⟩

theorem Books.Mirrored.eq_of_rivals {a b : Claim} (ha : a ∈ books.claims) (hb : b ∈ books.claims)
    (hrivals : a.rivals b = true) : a = b := by
  by_contra hne
  have hsymm : Std.Symm fun a b : Claim => ¬a.rivals b = true :=
    ⟨fun _ _ hab hba => hab (Claim.rivals_symm hba)⟩
  have hpairwise : books.claims.Pairwise fun a b => ¬a.rivals b = true := by
    refine h.unrivalled.imp fun hba hab => ?_
    rw [Claim.rivals_symm hab] at hba
    cases hba
  exact hpairwise.forall ha hb hne hrivals

theorem Books.Mirrored.countP_eq_one {q : RewardRequest} (hq : q ∈ books.requests.rows)
    (hlive : q.status.isLive = true) {rewardId : Id} (hlists : q.Lists rewardId) :
    (books.claims.countP fun c => c.requestId = q.id ∧ c.eventId = q.eventId ∧
      c.userId = q.userId ∧ c.rewardId = rewardId) = 1 := by
  obtain ⟨c, hc, hof, hreward⟩ := h.exists_claim hq hlive hlists
  have hpairwise : books.claims.Pairwise fun a b => ¬b.rivals a = true :=
    h.unrivalled.imp fun hrivals => by simp [hrivals]
  refine countP_eq_one_of_pairwise hpairwise (fun a b ha hb => ?_) hc ?_
  · simp only [decide_eq_true_eq] at ha hb
    obtain ⟨-, haevent, hauser, hareward⟩ := ha
    obtain ⟨-, hbevent, hbuser, hbreward⟩ := hb
    exact Claim.rivals_iff.mpr
      ⟨hbevent.trans haevent.symm, hbuser.trans hauser.symm, hbreward.trans hareward.symm⟩
  · simp [hof.requestId_eq, hof.eventId_eq, hof.userId_eq, hreward]

theorem Books.Mirrored.eq_of_lists {q q' : RewardRequest} (hq : q ∈ books.requests.rows)
    (hq' : q' ∈ books.requests.rows) (hlive : q.status.isLive = true)
    (hlive' : q'.status.isLive = true) (hevent : q.eventId = q'.eventId)
    (huser : q.userId = q'.userId) {rewardId : Id} (hlists : q.Lists rewardId)
    (hlists' : q'.Lists rewardId) : q = q' := by
  obtain ⟨c, hc, hof, hreward⟩ := h.exists_claim hq hlive hlists
  obtain ⟨c', hc', hof', hreward'⟩ := h.exists_claim hq' hlive' hlists'
  have hsame : c = c' := by
    refine h.eq_of_rivals hc hc' (Claim.rivals_iff.mpr ⟨?_, ?_, hreward.trans hreward'.symm⟩)
    · rw [hof.eventId_eq, hof'.eventId_eq, hevent]
    · rw [hof.userId_eq, hof'.userId_eq, huser]
  have hid : q.id = q'.id := by rw [← hof.requestId_eq, hsame, hof'.requestId_eq]
  exact h.numbered.requests.eq_of_id_eq hq hq' hid

end Exactly

theorem Database.Reachable.mirrored {db : Database} (h : db.Reachable Action.IsUnrivalled) :
    db.books.Mirrored :=
  h.keeps Action.IsPublic.isUnrivalled mirrored_empty fun hunrivalled hbooks hchange =>
    hchange.mirrored hunrivalled hbooks

/-- **Claims mirror live requests.** In every database that can be reached without rival claims, a
request lists identifiers of rewards, each of them once. A live request has exactly one claim on
each reward that it lists, in its event and for its user, and there are no other claims. So no two
live requests of a user list the same reward of an event. -/
theorem claims_mirror_requests {db : Database} (h : db.Reachable Action.IsUnrivalled) :
    (∀ q ∈ db.books.requests.rows, ∃ ids : List Id,
      q.rewardIds = .arr (ids.map fun id => .str id.text) ∧ ids.Nodup) ∧
    (∀ q ∈ db.books.requests.rows, q.status.isLive = true → ∀ rewardId, q.Lists rewardId →
      (db.books.claims.countP fun c => c.requestId = q.id ∧ c.eventId = q.eventId ∧
        c.userId = q.userId ∧ c.rewardId = rewardId) = 1) ∧
    (∀ c ∈ db.books.claims, ∃ q ∈ db.books.requests.rows, q.status.isLive = true ∧
      q.Lists c.rewardId ∧ c.requestId = q.id ∧ c.eventId = q.eventId ∧ c.userId = q.userId) ∧
    ∀ q ∈ db.books.requests.rows, ∀ q' ∈ db.books.requests.rows, q.status.isLive = true →
      q'.status.isLive = true → q.eventId = q'.eventId → q.userId = q'.userId →
        ∀ rewardId, q.Lists rewardId → q'.Lists rewardId → q = q' := by
  have hdb := h.mirrored
  refine ⟨fun q hq => ?_, fun q hq hlive rewardId hlists => hdb.countP_eq_one hq hlive hlists,
    fun c hc => ?_, fun q hq q' hq' hlive hlive' hevent huser rewardId hlists hlists' =>
      hdb.eq_of_lists hq hq' hlive hlive' hevent huser hlists hlists'⟩
  · obtain ⟨ids, hids, -⟩ := h.spelled q hq
    exact ⟨ids, hids.rewardIds_eq, hids.nodup⟩
  · obtain ⟨q, hq, hlive, hlists, hof⟩ := hdb.backed c hc
    exact ⟨q, hq, hlive, hlists, hof.requestId_eq, hof.eventId_eq, hof.userId_eq⟩

/-- The claim that `pendingRun` leads to is the only one of its request. -/
theorem claims_mirror_requests_pendingRun :
    ∃ c, (Database.empty.after pendingRun).books.claims = [c] ∧
      ∃ q ∈ (Database.empty.after pendingRun).books.requests.rows, q.Lists c.rewardId ∧
        ((Database.empty.after pendingRun).books.claims.countP fun c' => c'.requestId = q.id ∧
          c'.eventId = q.eventId ∧ c'.userId = q.userId ∧ c'.rewardId = c.rewardId) = 1 := by
  have hreachable : (Database.empty.after pendingRun).Reachable Action.IsUnrivalled :=
    ⟨pendingRun, by simp [pendingRun, Action.IsUnrivalled], rfl⟩
  obtain ⟨-, hcount, hbacked, -⟩ := claims_mirror_requests hreachable
  obtain ⟨c, hc⟩ := List.length_eq_one_iff.mp
    (by decide +kernel : (Database.empty.after pendingRun).books.claims.length = 1)
  obtain ⟨q, hq, hlive, hlists, -⟩ := hbacked c (by simp [hc])
  exact ⟨c, hc, q, hq, hlists, hcount q hq hlive c.rewardId hlists⟩

end Promotions
