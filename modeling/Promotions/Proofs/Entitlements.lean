import Promotions.Proofs.Claims

/-!
# Grants are the approved entitlements

Where rewards are issued by approval only, the grants are exactly what the approved requests are
entitled to. `Books.Entitled` says so: every grant is earned by an approved or delivered request
that lists its reward, every such request is given a grant of each reward that it lists, and no
grant is there twice. Rewards never go away, so an approval passes none over
(`Granting.rewardIds_eq`), and an approval that fails leaves no grant behind.

That no user gets a reward of an event twice takes the claims as well: two approved requests for it
would be rivals (`grants_are_entitlements`).
-/

namespace Promotions

open Table (Evolves)

namespace RequestStatus

/-- A request of this status was granted its rewards. -/
def isGranted : RequestStatus → Bool
  | approved | issued => true
  | pending | rejected | cancelled | unlisted _ => false

theorem isLive_of_isGranted {status : RequestStatus} (h : status.isGranted = true) :
    status.isLive = true := by
  cases status with
  | approved | issued => rfl
  | pending | rejected | cancelled | unlisted => cases h

theorem isGranted_eq_of_mayBecome {old new : RequestStatus} (h : old.mayBecome new = true)
    (hnew : new ≠ .approved) : new.isGranted = old.isGranted := by
  cases old with
  | rejected | cancelled | issued | unlisted => simp [mayBecome] at h
  | pending =>
    cases new with
    | approved => exact absurd rfl hnew
    | pending | rejected | cancelled | issued | unlisted => first | rfl | simp [mayBecome] at h
  | approved =>
    cases new with
    | issued => rfl
    | pending | approved | rejected | cancelled | unlisted => simp [mayBecome] at h

end RequestStatus

/-- Rewards are issued by approval only, and no rival claim appears while a request is made. -/
def Action.IssuesByApproval : Action → Prop
  | .createRequest _ _ _ _ _ rival => rival = none
  | .issue _ _ _ => False
  | _ => True

theorem Action.IsPublic.issuesByApproval (action : Action) (h : action.IsPublic) :
    action.IssuesByApproval := by
  cases action with
  | createRequest => exact h.2.2
  | issue => exact h
  | _ => trivial

theorem Action.IssuesByApproval.isUnrivalled (action : Action) (h : action.IssuesByApproval) :
    action.IsUnrivalled := by
  cases action with
  | createRequest => exact h
  | _ => trivial

/-- The grant was given for a request. -/
structure Grant.IsOf (g : Grant) (q : RewardRequest) : Prop where
  requestId_eq : g.requestId = q.id
  eventId_eq : g.eventId = q.eventId
  userId_eq : g.userId = q.userId

theorem Grant.IsOf.continues {g : Grant} {q q' : RewardRequest} (h : g.IsOf q)
    (hq : q.Continues q') : g.IsOf q' := by
  obtain ⟨_, _, _, _, _, _, rfl⟩ := hq
  exact ⟨h.requestId_eq, h.eventId_eq, h.userId_eq⟩

/-- Two grants give the same reward for the same request. -/
def Grant.Repeats (a b : Grant) : Prop := a.requestId = b.requestId ∧ a.rewardId = b.rewardId

namespace Books

/-- **The grants are those of the approved requests**, each of them once. -/
structure Entitled (books : Books) : Prop where
  numbered : books.Numbered
  earned : ∀ g ∈ books.grants.rows, ∃ q ∈ books.requests.rows,
    q.status.isGranted = true ∧ q.Lists g.rewardId ∧ g.IsOf q
  given : ∀ q ∈ books.requests.rows, q.status.isGranted = true → ∀ rewardId, q.Lists rewardId →
    ∃ g ∈ books.grants.rows, g.requestId = q.id ∧ g.rewardId = rewardId
  once : books.grants.rows.Pairwise fun a b => ¬a.Repeats b

/-! ### What is granted -/

section Granting
variable {s : Session} {request : RewardRequest} {operator : Option String} {now : Instant}
  {books after : Books} {ids : List Id} {grants : List Grant} {notes : List Note}

theorem Granting.rewardIds_eq (h : Granting s request operator now books ids after grants notes)
    (hfound : ∀ id ∈ ids, (books.rewards.find? id).isSome = true) :
    grants.map Grant.rewardId = ids := by
  induction h with
  | done books => rfl
  | skipped hnone hrest ih =>
    have := hfound _ List.mem_cons_self
    rw [hnone] at this
    cases this
  | @granted books after id rest grants notes reward copied grant view hreward hstock hcopied hgrant
      hnew hview hrest ih =>
    have hid : grant.rewardId = id := by
      rw [hgrant]
      exact Table.id_of_find?_eq_some hreward
    rw [List.map_cons, hid, ih fun other hother => ?_]
    have hkept := hfound other (List.mem_cons_of_mem _ hother)
    rw [Table.isSome_find?_iff] at hkept ⊢
    simp only [withGrant, takeOne]
    rw [Table.ids_modify]
    · exact hkept
    · exact fun _ hid => hid

theorem Granting.once (h : Granting s request operator now books ids after grants notes)
    (hbooks : books.grants.rows.Pairwise fun a b => ¬a.Repeats b) :
    after.grants.rows.Pairwise fun a b => ¬a.Repeats b := by
  induction h with
  | done books => exact hbooks
  | skipped hnone hrest ih => exact ih hbooks
  | granted hreward hstock hcopied hgrant hnew hview hrest ih =>
    refine ih (List.pairwise_append.mpr ⟨hbooks, List.pairwise_singleton _ _, ?_⟩)
    intro a ha b hb
    rw [List.mem_singleton.mp hb, hgrant]
    exact hnew a ha

end Granting

/-! ### What keeps the entitlements -/

section Entitled
variable {s : Session} {books after : Books}

theorem entitled_empty : ({} : Books).Entitled where
  numbered := numbered_empty
  earned := by simp
  given := by simp
  once := .nil

theorem Entitled.of_eq (h : books.Entitled) (hafter : after.Numbered)
    (hrequests : after.requests = books.requests) (hgrants : after.grants = books.grants) :
    after.Entitled where
  numbered := hafter
  earned := by rw [hrequests, hgrants]; exact h.earned
  given := by rw [hrequests, hgrants]; exact h.given
  once := by rw [hgrants]; exact h.once

theorem Entitled.map_grants (h : books.Entitled) {f : Grant → Grant}
    (hf : ∀ g ∈ books.grants.rows, g.Continues (f g))
    (hafter : ({ books with
      grants := { books.grants with rows := books.grants.rows.map f } } : Books).Numbered) :
    ({ books with
      grants := { books.grants with rows := books.grants.rows.map f } } : Books).Entitled where
  numbered := hafter
  earned := by
    intro g hg
    obtain ⟨old, hold, rfl⟩ := List.mem_map.mp hg
    obtain ⟨q, hq, hgranted, hlists, hof⟩ := h.earned old hold
    obtain ⟨status, usedAt, heq⟩ := hf old hold
    rw [heq]
    exact ⟨q, hq, hgranted, hlists, hof.requestId_eq, hof.eventId_eq, hof.userId_eq⟩
  given := by
    intro q hq hgranted rewardId hlists
    obtain ⟨g, hg, hid, hreward⟩ := h.given q hq hgranted rewardId hlists
    refine ⟨f g, List.mem_map_of_mem hg, ?_⟩
    obtain ⟨status, usedAt, heq⟩ := hf g hg
    rw [heq]
    exact ⟨hid, hreward⟩
  once := by
    refine List.pairwise_map.mpr (h.once.imp_of_mem fun {a b} ha hb hne => ?_)
    obtain ⟨_, _, heqa⟩ := hf a ha
    obtain ⟨_, _, heqb⟩ := hf b hb
    rw [heqa, heqb]
    exact hne

theorem Entitled.push (h : books.Entitled) (hafter : after.Numbered) {new : RewardRequest}
    (hrequests : after.requests = books.requests.push new) (hgrants : after.grants = books.grants)
    (hnew : new.status.isGranted = false) : after.Entitled where
  numbered := hafter
  earned := by
    intro g hg
    rw [hgrants] at hg
    obtain ⟨q, hq, hearned⟩ := h.earned g hg
    rw [hrequests]
    exact ⟨q, List.mem_append_left _ hq, hearned⟩
  given := by
    intro q hq hgranted
    rw [hrequests] at hq
    rw [hgrants]
    rcases List.mem_append.mp hq with hq | hq
    · exact h.given q hq hgranted
    · rw [List.mem_singleton.mp hq, hnew] at hgranted
      cases hgranted
  once := by rw [hgrants]; exact h.once

section Put
variable {old new : RewardRequest} (hold : old ∈ books.requests.rows)
  (hcontinues : old.Continues new) (hrequests : after.requests = books.requests.put new)
include hold hcontinues hrequests

theorem Entitled.put (h : books.Entitled) (hafter : after.Numbered)
    (hgrants : after.grants = books.grants)
    (hgranted : new.status.isGranted = old.status.isGranted) : after.Entitled := by
  have hid : new.id = old.id := hcontinues.id_eq
  have hmem {q : RewardRequest} := mem_requests_put (q := q) hrequests hold hid
  refine ⟨hafter, fun g hg => ?_, fun q hq hqgranted rewardId hrewardId => ?_, ?_⟩
  · rw [hgrants] at hg
    obtain ⟨q, hq, hqgranted, hlists, hof⟩ := h.earned g hg
    by_cases hqid : q.id = old.id
    · cases h.numbered.requests.eq_of_id_eq hq hold hqid
      exact ⟨new, hmem.mpr (Or.inl rfl), hgranted.trans hqgranted, hcontinues.lists_iff.mpr hlists,
        hof.continues hcontinues⟩
    · exact ⟨q, hmem.mpr (Or.inr ⟨hq, hqid⟩), hqgranted, hlists, hof⟩
  · rw [hgrants]
    rcases hmem.mp hq with rfl | ⟨hq, -⟩
    · rw [hid]
      exact h.given old hold (hgranted.symm.trans hqgranted) rewardId
        (hcontinues.lists_iff.mp hrewardId)
    · exact h.given q hq hqgranted rewardId hrewardId
  · rw [hgrants]
    exact h.once

/-- **A request is granted** by adding a grant of each reward that it lists. -/
theorem Entitled.grant (h : books.Entitled) (hafter : after.Numbered) (grants : List Grant)
    (hgrants : after.grants.rows = books.grants.rows ++ grants)
    (hnotyet : old.status.isGranted = false) (hgranted : new.status.isGranted = true)
    (hof : ∀ g ∈ grants, g.IsOf old)
    (hlisted : ∀ rewardId, old.Lists rewardId ↔ rewardId ∈ grants.map Grant.rewardId)
    (honce : after.grants.rows.Pairwise fun a b => ¬a.Repeats b) : after.Entitled := by
  have hid : new.id = old.id := hcontinues.id_eq
  have hmem {q : RewardRequest} := mem_requests_put (q := q) hrequests hold hid
  refine ⟨hafter, fun g hg => ?_, fun q hq hqgranted rewardId hrewardId => ?_, honce⟩
  · rw [hgrants] at hg
    rcases List.mem_append.mp hg with hg | hg
    · obtain ⟨q, hq, hqgranted, hlists, hqof⟩ := h.earned g hg
      refine ⟨q, hmem.mpr (Or.inr ⟨hq, fun hqid => ?_⟩), hqgranted, hlists, hqof⟩
      rw [h.numbered.requests.eq_of_id_eq hq hold hqid, hnotyet] at hqgranted
      cases hqgranted
    · have hlists : old.Lists g.rewardId := (hlisted _).mpr (List.mem_map_of_mem hg)
      exact ⟨new, hmem.mpr (Or.inl rfl), hgranted, hcontinues.lists_iff.mpr hlists,
        (hof g hg).continues hcontinues⟩
  · rw [hgrants]
    rcases hmem.mp hq with rfl | ⟨hq, -⟩
    · obtain ⟨g, hg, hreward⟩ :=
        List.mem_map.mp ((hlisted rewardId).mp (hcontinues.lists_iff.mp hrewardId))
      exact ⟨g, List.mem_append_right _ hg, (hof g hg).requestId_eq.trans hid.symm, hreward⟩
    · obtain ⟨g, hg, hgiven⟩ := h.given q hq hqgranted rewardId hrewardId
      exact ⟨g, List.mem_append_left _ hg, hgiven⟩

end Put

section Moving
variable {request : RewardRequest} {operator reason : Option String} {now : Instant}
  {target : RequestStatus} {notes : List Note}

/-- **Approving a request** gives its grants, all of them. -/
theorem Moving.entitled_approved
    (h : Moving s books request operator reason now .approved after notes)
    (hbooks : books.Entitled) (hspelled : books.Spelled) (hrequest : request ∈ books.requests.rows)
    (hmay : request.status.mayBecome .approved = true) : after.Entitled := by
  have hafter := h.numbered hbooks.numbered
  obtain ⟨ids, issued, grants, granted, hwanted, hgranting, -, hgrants, -⟩ := h.exists_granting
  obtain ⟨spelled, hspells, hrewards⟩ := hspelled request hrequest
  -- what is granted is what the request spells, since no reward of it can be missing
  have hread : ids = spelled := hspells.wanted_eq hwanted
  subst hread
  have hall : grants.map Grant.rewardId = ids := by
    refine hgranting.rewardIds_eq fun id hid => ?_
    obtain ⟨reward, hreward, -⟩ := hrewards id hid
    rw [hreward]
    rfl
  have hpending : request.status.isGranted = false := by
    cases hs : request.status with
    | pending => rfl
    | approved | rejected | issued | cancelled | unlisted =>
      simp [hs, RequestStatus.mayBecome] at hmay
  refine hbooks.grant hrequest (request.continues_moved .approved operator reason now s.stamp)
    h.requests_eq hafter grants ?_ hpending rfl (fun g hg => ?_) (fun rewardId => ?_) ?_
  · rw [hgrants]
    exact hgranting.rows_grants
  · obtain ⟨huser, hevent, hid⟩ := hgranting.eq_ofReward g hg
    exact ⟨hid, hevent, huser⟩
  · rw [hall]
    exact RewardRequest.lists_iff hspells.rewardIds_eq
  · rw [hgrants]
    exact hgranting.once hbooks.once

theorem Moving.entitled (h : Moving s books request operator reason now target after notes)
    (hbooks : books.Entitled) (hspelled : books.Spelled) (hrequest : request ∈ books.requests.rows)
    (hmay : request.status.mayBecome target = true) : after.Entitled := by
  by_cases htarget : target = .approved
  · subst htarget
    exact h.entitled_approved hbooks hspelled hrequest hmay
  · have hgranted := RequestStatus.isGranted_eq_of_mayBecome hmay htarget
    rw [← RewardRequest.status_moved hmay operator reason now s.stamp] at hgranted
    exact hbooks.put hrequest (request.continues_moved target operator reason now s.stamp)
      h.requests_eq (h.numbered hbooks.numbered) (h.stock_eq htarget).2 hgranted

theorem Filing.entitled {event : Event} {rewards : List Id} {userId : String}
    {verificationData : Json} {notes : List Note}
    (h : Filing s books event rewards userId verificationData now request after notes)
    (hbooks : books.Entitled) : after.Entitled := by
  have hafter := h.numbered hbooks.numbered
  have hnew : request.status.isGranted = false := by rw [h.request_eq]; rfl
  obtain ⟨participations, -, rfl⟩ := h.exists_eq
  exact hbooks.push hafter rfl rfl hnew

end Moving

end Entitled

end Books

open Books

/-- **Every change keeps the entitlements**, if rewards are issued by approval only. -/
theorem Change.entitled {s : Session} {books after : Books} {action : Action} {notes : List Note}
    (h : Change s books action after notes) (hissues : action.IssuesByApproval)
    (hbooks : books.Entitled) (hspelled : books.Spelled) : after.Entitled := by
  have hafter := h.numbered hbooks.numbered
  cases h with
  | nothing | noted => exact hbooks
  | eventMade | eventEdited | rewardMade | rewardEdited | tookPart =>
    exact hbooks.of_eq hafter rfl rfl
  | filed _ hraced hfiling =>
    cases hissues
    cases hraced
    exact hfiling.entitled hbooks
  | filedAndApproved hadmitted hraced hfiling _ hfound hmay hmoving =>
    have hfiled := (Change.filed hadmitted hraced hfiling).spelled hbooks.numbered hspelled
    cases hissues
    cases hraced
    exact hmoving.entitled (hfiling.entitled hbooks) hfiled (Table.mem_of_find?_eq_some hfound) hmay
  | moved hfound hmay hmoving =>
    exact hmoving.entitled hbooks hspelled (Table.mem_of_find?_eq_some hfound) hmay
  | cancelled hfound _ hmay hmoving =>
    exact hmoving.entitled hbooks hspelled (Table.mem_of_find?_eq_some hfound) hmay
  | issued => exact absurd hissues id
  | used hfound =>
    refine hbooks.map_grants (fun g hg => ?_) hafter
    split_ifs with hid
    · rw [hbooks.numbered.grants.eq_of_id_eq hg (Table.mem_of_find?_eq_some hfound) hid]
      exact ⟨_, _, rfl⟩
    · exact .refl g
  | expired now => exact hbooks.map_grants (fun g _ => g.continues_expire _) hafter

theorem Database.Reachable.entitled {db : Database} (h : db.Reachable Action.IssuesByApproval) :
    db.books.Entitled := by
  refine And.left (b := db.books.Spelled) ?_
  refine h.keeps Action.IsPublic.issuesByApproval
    (I := fun books => books.Entitled ∧ books.Spelled) ⟨entitled_empty, by simp [Spelled]⟩ ?_
  rintro s books action after notes hissues ⟨hentitled, hspelled⟩ hchange
  exact ⟨hchange.entitled hissues hentitled hspelled,
    hchange.spelled hentitled.numbered hspelled⟩

section Exactly
variable {books : Books} (h : books.Entitled)
include h

theorem Books.Entitled.countP_eq_one {q : RewardRequest} (hq : q ∈ books.requests.rows)
    (hgranted : q.status.isGranted = true) {rewardId : Id} (hlists : q.Lists rewardId) :
    (books.grants.rows.countP fun g => g.requestId = q.id ∧ g.rewardId = rewardId) = 1 := by
  obtain ⟨g, hg, hid, hreward⟩ := h.given q hq hgranted rewardId hlists
  refine countP_eq_one_of_pairwise h.once (fun a b ha hb => ?_) hg ?_
  · simp only [decide_eq_true_eq] at ha hb
    exact ⟨ha.1.trans hb.1.symm, ha.2.trans hb.2.symm⟩
  · simp [hid, hreward]

theorem Books.Entitled.eq_of_repeats {a b : Grant} (ha : a ∈ books.grants.rows)
    (hb : b ∈ books.grants.rows) (hrepeats : a.Repeats b) : a = b := by
  by_contra hne
  have hsymm : Std.Symm fun a b : Grant => ¬a.Repeats b :=
    ⟨fun _ _ hab hba => hab ⟨hba.1.symm, hba.2.symm⟩⟩
  exact h.once.forall ha hb hne hrepeats

theorem Books.Entitled.eq_of_same (hmirrored : books.Mirrored) {a b : Grant}
    (ha : a ∈ books.grants.rows) (hb : b ∈ books.grants.rows) (huser : a.userId = b.userId)
    (hevent : a.eventId = b.eventId) (hreward : a.rewardId = b.rewardId) : a = b := by
  obtain ⟨q, hq, hgranted, hlists, hof⟩ := h.earned a ha
  obtain ⟨q', hq', hgranted', hlists', hof'⟩ := h.earned b hb
  rw [← hreward] at hlists'
  have hqevent : q.eventId = q'.eventId := by rw [← hof.eventId_eq, hevent, hof'.eventId_eq]
  have hquser : q.userId = q'.userId := by rw [← hof.userId_eq, huser, hof'.userId_eq]
  have hsame : q = q' := hmirrored.eq_of_lists hq hq' (RequestStatus.isLive_of_isGranted hgranted)
    (RequestStatus.isLive_of_isGranted hgranted') hqevent hquser hlists hlists'
  refine h.eq_of_repeats ha hb ⟨?_, hreward⟩
  rw [hof.requestId_eq, hsame, hof'.requestId_eq]

end Exactly

/-- **Grants are the approved entitlements.** In every database that can be reached by issuing
through approval only, the grants are given for approved and delivered requests, for their users and
events; each such request has exactly one grant of each reward that it lists, and any other request
has none. A user has at most one grant of a reward of an event. Grants stay, so this holds over a
whole run. -/
theorem grants_are_entitlements {db : Database} (h : db.Reachable Action.IssuesByApproval) :
    (∀ g ∈ db.books.grants.rows, ∃ q ∈ db.books.requests.rows, q.status.isGranted = true ∧
      q.Lists g.rewardId ∧ g.requestId = q.id ∧ g.userId = q.userId ∧ g.eventId = q.eventId) ∧
    (∀ q ∈ db.books.requests.rows, q.status.isGranted = true → ∀ rewardId, q.Lists rewardId →
      (db.books.grants.rows.countP fun g => g.requestId = q.id ∧ g.rewardId = rewardId) = 1) ∧
    (∀ q ∈ db.books.requests.rows, q.status.isGranted = false →
      ∀ g ∈ db.books.grants.rows, g.requestId ≠ q.id) ∧
    (∀ g ∈ db.books.grants.rows, ∀ g' ∈ db.books.grants.rows, g.userId = g'.userId →
      g.eventId = g'.eventId → g.rewardId = g'.rewardId → g = g') ∧
    ∀ ms : List Moment,
      Evolves Grant.Continues db.books.grants (db.after ms).books.grants := by
  have hdb := h.entitled
  have hmirrored := (h.mono Action.IssuesByApproval.isUnrivalled).mirrored
  refine ⟨fun g hg => ?_, fun q hq hgranted rewardId hlists => hdb.countP_eq_one hq hgranted hlists,
    fun q hq hgranted g hg hid => ?_, fun g hg g' hg' huser hevent hreward =>
      hdb.eq_of_same hmirrored hg hg' huser hevent hreward,
    fun ms => Database.grants_evolve hdb.numbered ms⟩
  · obtain ⟨q, hq, hgranted, hlists, hof⟩ := hdb.earned g hg
    exact ⟨q, hq, hgranted, hlists, hof.requestId_eq, hof.userId_eq, hof.eventId_eq⟩
  · obtain ⟨earner, hearner, hearned, -, hof⟩ := hdb.earned g hg
    have hsame : earner.id = q.id := hof.requestId_eq.symm.trans hid
    rw [hdb.numbered.requests.eq_of_id_eq hearner hq hsame, hgranted] at hearned
    cases hearned

/-- The grant that an approval gives is the only one of its request. -/
theorem grants_are_entitlements_approval :
    ∃ g, (Database.empty.after (pendingRun ++ [approval])).books.grants.rows = [g] ∧
      ∃ q ∈ (Database.empty.after (pendingRun ++ [approval])).books.requests.rows,
        q.Lists g.rewardId ∧ g.userId = q.userId ∧
          ((Database.empty.after (pendingRun ++ [approval])).books.grants.rows.countP fun g' =>
            g'.requestId = q.id ∧ g'.rewardId = g.rewardId) = 1 := by
  have hreachable :
      (Database.empty.after (pendingRun ++ [approval])).Reachable Action.IssuesByApproval :=
    ⟨pendingRun ++ [approval], by simp [pendingRun, approval, Action.IssuesByApproval], rfl⟩
  obtain ⟨hearned, hcount, -⟩ := grants_are_entitlements hreachable
  obtain ⟨g, hg⟩ := List.length_eq_one_iff.mp (by decide +kernel :
    (Database.empty.after (pendingRun ++ [approval])).books.grants.rows.length = 1)
  obtain ⟨q, hq, hgranted, hlists, -, huser, -⟩ :=
    hearned g (by rw [hg]; exact List.mem_singleton_self g)
  exact ⟨g, hg, q, hq, hlists, huser, hcount q hq hgranted g.rewardId hlists⟩

end Promotions
