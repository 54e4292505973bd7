import Promotions.Proofs.Numbering
import Promotions.Proofs.Runs

/-!
# What becomes of a row

No row is ever deleted, and every table keeps its numbering (`Database.numbered_after`). Of a row
only some columns change. A grant stays what it was but for its use and its expiry
(`Change.grants_evolve`), a reward keeps its event and never takes back what it issued
(`Change.rewards_evolve`), and of a request only the decision on it changes, by one of the allowed
steps (`Change.requests_evolve`).
-/

namespace Promotions

open Table (Evolves)

/-! ### What filing and moving leave alone -/

namespace Books

/-- The numbering of all tables of the books. -/
structure Numbered (books : Books) : Prop where
  events : books.events.Numbered
  rewards : books.rewards.Numbered
  participations : books.participations.Numbered
  requests : books.requests.Numbered
  grants : books.grants.Numbered

theorem exists_linkParticipation_eq (books : Books) (request : RewardRequest) (now : Instant) :
    ∃ participations : Table Participation,
      (books.participations.Numbered → participations.Numbered) ∧
        books.linkParticipation request now = { books with participations } := by
  unfold linkParticipation
  split
  · exact ⟨books.participations, id, rfl⟩
  · refine ⟨_, ?_, rfl⟩
    exact fun h => h.modify fun _ hid => hid

theorem exists_markRewarded_eq (books : Books) (request : RewardRequest) (now : Instant) :
    ∃ participations : Table Participation,
      (books.participations.Numbered → participations.Numbered) ∧
        books.markRewarded request now = { books with participations } := by
  unfold markRewarded
  split
  · exact ⟨books.participations, id, rfl⟩
  · split
    · refine ⟨_, ?_, rfl⟩
      exact fun h => h.modify fun _ hid => hid
    · exact ⟨books.participations, id, rfl⟩

section Filing
variable {s : Session} {books after : Books} {event : Event} {rewards : List Id} {userId : String}
  {verificationData : Json} {now : Instant} {request : RewardRequest} {notes : List Note}

theorem Filing.exists_eq
    (h : Filing s books event rewards userId verificationData now request after notes) :
    ∃ participations : Table Participation,
      (books.participations.Numbered → participations.Numbered) ∧
        after =
          { books with
            requests := books.requests.push request
            claims := books.claims ++ claimsFor request.id event.id userId s.stamp rewards
            participations } := by
  obtain ⟨participations, hnumbered, heq⟩ := exists_linkParticipation_eq
    { books with
      requests := books.requests.push request
      claims := books.claims ++ claimsFor request.id event.id userId s.stamp rewards } request now
  exact ⟨participations, hnumbered, h.after_eq.trans heq⟩

theorem Filing.events_eq
    (h : Filing s books event rewards userId verificationData now request after notes) :
    after.events = books.events := by
  obtain ⟨participations, -, heq⟩ := h.exists_eq
  rw [heq]

theorem Filing.id_eq
    (h : Filing s books event rewards userId verificationData now request after notes) :
    request.id = books.requests.nextId := by
  rw [h.request_eq]; rfl

theorem Filing.status_eq
    (h : Filing s books event rewards userId verificationData now request after notes) :
    request.status = .pending := by
  rw [h.request_eq]; rfl

theorem Filing.requests_eq
    (h : Filing s books event rewards userId verificationData now request after notes) :
    after.requests = books.requests.push request := by
  obtain ⟨participations, -, rfl⟩ := h.exists_eq
  rfl

theorem Filing.find?_eq
    (h : Filing s books event rewards userId verificationData now request after notes)
    (hbooks : books.Numbered) : after.requests.find? request.id = some request := by
  rw [h.requests_eq]
  exact hbooks.requests.find?_push h.id_eq

theorem Filing.stock_eq
    (h : Filing s books event rewards userId verificationData now request after notes) :
    after.rewards = books.rewards ∧ after.grants = books.grants := by
  obtain ⟨participations, -, rfl⟩ := h.exists_eq
  exact ⟨rfl, rfl⟩

end Filing

section Granting
variable {s : Session} {request : RewardRequest} {operator : Option String} {now : Instant}
  {books after : Books} {ids : List Id} {grants : List Grant} {notes : List Note}

theorem Granting.exists_eq (h : Granting s request operator now books ids after grants notes) :
    ∃ (rewards : Table Reward) (table : Table Grant),
      after = { books with rewards, grants := table } := by
  induction h with
  | done books => exact ⟨books.rewards, books.grants, rfl⟩
  | skipped hnone hrest ih => exact ih
  | granted hreward hstock hcopied hgrant hnew hview hrest ih =>
    obtain ⟨rewards, table, rfl⟩ := ih
    exact ⟨rewards, table, rfl⟩

theorem Granting.rows_grants (h : Granting s request operator now books ids after grants notes) :
    after.grants.rows = books.grants.rows ++ grants := by
  induction h with
  | done books => simp
  | skipped hnone hrest ih => exact ih
  | granted hreward hstock hcopied hgrant hnew hview hrest ih => simp [ih, withGrant]

theorem find?_withGrant (books : Books) (stamp : Instant) (grant : Grant) (id : Id) :
    (books.withGrant stamp grant).rewards.find? id =
      (books.rewards.find? id).map fun r =>
        if Row.id r = grant.rewardId then
          { r with issuedQuantity := r.issuedQuantity + 1, updatedAt := some stamp }
        else r :=
  Table.find?_modify fun _ hid => hid

theorem find?_withGrant_of_ne (books : Books) (stamp : Instant) {grant : Grant} {id : Id}
    (hne : id ≠ grant.rewardId) :
    (books.withGrant stamp grant).rewards.find? id = books.rewards.find? id :=
  Table.find?_modify_of_ne (fun _ hid => hid) hne

theorem numbered_withGrant {grant : Grant} (hbooks : books.Numbered)
    (hid : grant.id = books.grants.nextId) (stamp : Instant) :
    (books.withGrant stamp grant).Numbered :=
  { hbooks with
    rewards := hbooks.rewards.modify fun _ hid => hid
    grants := hbooks.grants.push hid }

theorem Granting.numbered (h : Granting s request operator now books ids after grants notes)
    (hbooks : books.Numbered) : after.Numbered := by
  induction h with
  | done books => exact hbooks
  | skipped hnone hrest ih => exact ih hbooks
  | granted hreward hstock hcopied hgrant hnew hview hrest ih =>
    exact ih (numbered_withGrant hbooks (by rw [hgrant]; rfl) s.stamp)

theorem Granting.eq_ofReward (h : Granting s request operator now books ids after grants notes) :
    ∀ g ∈ grants, g.userId = request.userId ∧ g.eventId = request.eventId ∧
      g.requestId = request.id := by
  induction h with
  | done books => simp
  | skipped hnone hrest ih => exact ih
  | granted hreward hstock hcopied hgrant hnew hview hrest ih =>
    intro g hg
    rcases List.mem_cons.mp hg with rfl | hg
    · rw [hgrant]; exact ⟨rfl, rfl, rfl⟩
    · exact ih g hg

end Granting

end Books

open Books

namespace RewardRequest

/-- The request once it has got another status. -/
def moved (request : RewardRequest) (target : RequestStatus) (operator reason : Option String)
    (now stamp : Instant) : RewardRequest :=
  match target with
  | .approved => { request.approved operator now with updatedAt := some stamp }
  | .rejected => { request.rejected operator reason with updatedAt := some stamp }
  | .cancelled => { request.cancelled operator with updatedAt := some stamp }
  | .issued => { request.delivered operator now with updatedAt := some stamp }
  | .pending | .unlisted _ => request

@[simp]
theorem id_moved (request : RewardRequest) (target : RequestStatus)
    (operator reason : Option String) (now stamp : Instant) :
    (request.moved target operator reason now stamp).id = request.id := by
  unfold moved
  split <;> rfl

end RewardRequest

section Moving
variable {s : Session} {books after : Books} {request : RewardRequest}
  {operator reason : Option String} {now : Instant} {target : RequestStatus} {notes : List Note}

theorem Books.Moving.requests_eq
    (h : Moving s books request operator reason now target after notes) :
    after.requests = books.requests.put (request.moved target operator reason now s.stamp) := by
  cases h with
  | approved hwanted hids hgranting hgrants hnote =>
    obtain ⟨rewards, table, rfl⟩ := hgranting.exists_eq
    obtain ⟨participations, -, heq⟩ := exists_markRewarded_eq
      (putRequest { books with rewards, grants := table } s (request.approved operator now))
      request now
    rw [heq]
    rfl
  | rejected hnote => rfl
  | cancelled hnote => rfl
  | delivered hnote => rfl

theorem Books.Moving.numbered
    (h : Moving s books request operator reason now target after notes)
    (hbooks : books.Numbered) : after.Numbered := by
  cases h with
  | approved hwanted hids hgranting hgrants hnote =>
    have hissued := hgranting.numbered hbooks
    obtain ⟨participations, hp, heq⟩ := exists_markRewarded_eq
      (putRequest _ s (request.approved operator now)) request now
    rw [heq]
    exact { hissued with
      participations := hp hissued.participations, requests := hissued.requests.put _ }
  | rejected hnote => exact { hbooks with requests := hbooks.requests.put _ }
  | cancelled hnote => exact { hbooks with requests := hbooks.requests.put _ }
  | delivered hnote => exact { hbooks with requests := hbooks.requests.put _ }

theorem Books.Moving.events_eq
    (h : Moving s books request operator reason now target after notes) :
    after.events = books.events := by
  cases h with
  | approved hwanted hids hgranting hgrants hnote =>
    obtain ⟨rewards, table, rfl⟩ := hgranting.exists_eq
    obtain ⟨participations, -, heq⟩ := exists_markRewarded_eq
      (putRequest { books with rewards, grants := table } s (request.approved operator now))
      request now
    rw [heq]
    rfl
  | rejected hnote => rfl
  | cancelled hnote => rfl
  | delivered hnote => rfl

theorem Books.Moving.stock_eq
    (h : Moving s books request operator reason now target after notes)
    (htarget : target ≠ .approved) :
    after.rewards = books.rewards ∧ after.grants = books.grants := by
  cases h with
  | approved => exact absurd rfl htarget
  | rejected hnote => exact ⟨rfl, rfl⟩
  | cancelled hnote => exact ⟨rfl, rfl⟩
  | delivered hnote => exact ⟨rfl, rfl⟩

theorem Books.Moving.exists_granting
    (h : Moving s books request operator reason now .approved after notes) :
    ∃ ids issued grants granted, request.wanted = .ok ids ∧
      Granting s request operator now books ids issued grants granted ∧
        after.rewards = issued.rewards ∧ after.grants = issued.grants ∧
          after.claims = books.claims := by
  cases h with
  | @approved ids issued grants granted note hwanted hids hgranting hgrants hnote =>
    refine ⟨ids, issued, grants, granted, hwanted, hgranting, ?_⟩
    obtain ⟨participations, -, heq⟩ := exists_markRewarded_eq
      (putRequest issued s (request.approved operator now)) request now
    rw [heq]
    obtain ⟨rewards, table, rfl⟩ := hgranting.exists_eq
    exact ⟨rfl, rfl, rfl⟩

end Moving

theorem Raced.exists_eq {books raced : Books} {rival : Option Claim}
    (h : Raced books rival raced) : ∃ claims, raced = { books with claims } := by
  cases rival with
  | none => exact ⟨books.claims, h⟩
  | some claim => exact ⟨_, (addClaim?_eq_some h).1⟩

section Raced
variable {books raced : Books} {rival : Option Claim} (h : Raced books rival raced)
include h

theorem Raced.events_eq : raced.events = books.events := by
  obtain ⟨claims, rfl⟩ := h.exists_eq
  rfl

theorem Raced.rewards_eq : raced.rewards = books.rewards := by
  obtain ⟨claims, rfl⟩ := h.exists_eq
  rfl

theorem Raced.requests_eq : raced.requests = books.requests := by
  obtain ⟨claims, rfl⟩ := h.exists_eq
  rfl

theorem Raced.grants_eq : raced.grants = books.grants := by
  obtain ⟨claims, rfl⟩ := h.exists_eq
  rfl

end Raced

theorem Raced.numbered {books raced : Books} {rival : Option Claim}
    (h : Raced books rival raced) (hbooks : books.Numbered) : raced.Numbered := by
  obtain ⟨claims, rfl⟩ := h.exists_eq
  exact { hbooks with }

theorem Books.Filing.numbered {s : Session} {books after : Books} {event : Event}
    {rewards : List Id} {userId : String} {verificationData : Json} {now : Instant}
    {request : RewardRequest} {notes : List Note}
    (h : Filing s books event rewards userId verificationData now request after notes)
    (hbooks : books.Numbered) : after.Numbered := by
  obtain ⟨participations, hp, rfl⟩ := h.exists_eq
  exact { hbooks with
    participations := hp hbooks.participations, requests := hbooks.requests.push h.id_eq }

/-! ### Numbering -/

theorem Grant.id_expire (g : Grant) (now : Instant) : (g.expire now).id = g.id := by
  unfold expire
  split <;> rfl

/-- **Every change keeps the numbering** of the tables. -/
theorem Change.numbered {s : Session} {books after : Books} {action : Action} {notes : List Note}
    (h : Change s books action after notes) (hbooks : books.Numbered) : after.Numbered := by
  cases h with
  | nothing => exact hbooks
  | noted => exact hbooks
  | eventMade _ _ _ hevent =>
    exact { hbooks with events := hbooks.events.push (by rw [hevent]; rfl) }
  | eventEdited => exact { hbooks with events := hbooks.events.put _ }
  | rewardMade _ _ hreward =>
    exact { hbooks with rewards := hbooks.rewards.push (by rw [hreward]; rfl) }
  | rewardEdited => exact { hbooks with rewards := hbooks.rewards.put _ }
  | tookPart _ _ _ _ _ _ hparticipation =>
    exact { hbooks with
      events := hbooks.events.modify fun _ hid => hid
      participations := hbooks.participations.push (by rw [hparticipation]; rfl) }
  | filed _ hraced hfiling => exact hfiling.numbered (hraced.numbered hbooks)
  | filedAndApproved _ hraced hfiling _ _ _ hmoving =>
    exact hmoving.numbered (hfiling.numbered (hraced.numbered hbooks))
  | moved _ _ hmoving => exact hmoving.numbered hbooks
  | cancelled _ _ _ hmoving => exact hmoving.numbered hbooks
  | issued _ _ _ hgranting => exact hgranting.numbered hbooks
  | used => exact { hbooks with grants := hbooks.grants.put _ }
  | expired now => exact { hbooks with grants := hbooks.grants.map (Grant.id_expire · _) }

theorem Books.numbered_empty : ({} : Books).Numbered where
  events := Table.numbered_empty
  rewards := Table.numbered_empty
  participations := Table.numbered_empty
  requests := Table.numbered_empty
  grants := Table.numbered_empty

/-- **All tables are numbered after every run**, whatever is called in it. -/
theorem Database.numbered_after {db : Database} (hdb : db.books.Numbered) (ms : List Moment) :
    (db.after ms).books.Numbered :=
  keeps_after (fun _ _ => trivial) (fun _ hbooks h => Change.numbered h hbooks) hdb
    fun _ _ _ _ => trivial

theorem Database.Reachable.numbered {P : Action → Prop} {db : Database} (h : db.Reachable P) :
    db.books.Numbered := by
  obtain ⟨ms, -, rfl⟩ := h
  exact numbered_after Books.numbered_empty ms

/-! ### Events -/

/-- **Where an event comes from**: it was there before, an action made it or edited it, or one more
participant of it was counted. -/
theorem Change.mem_events {s : Session} {books after : Books} {action : Action} {notes : List Note}
    (h : Change s books action after notes) {e : Event} (he : e ∈ after.events.rows) :
    e ∈ books.events.rows ∨
      (∃ draft startDate endDate actor view, action = .createEvent draft actor ∧
        startDate < endDate ∧
          e = .ofDraft books.events.nextId draft startDate endDate actor s.stamp ∧
            e.shown = .ok view) ∨
      (∃ old ∈ books.events.rows, ∃ id patch startDate endDate actor new view,
        action = .updateEvent id patch actor ∧ startDate < endDate ∧
          new = old.restamped (old.patched patch startDate endDate actor) s.stamp ∧
            new.shown = .ok view ∧ e = old.stored new) ∨
      ∃ old ∈ books.events.rows,
        e = { old with participantCount := old.participantCount + 1, updatedAt := some s.stamp } := by
  cases h with
  | nothing | noted | rewardMade | rewardEdited | used | expired => exact Or.inl he
  | eventMade _ _ hwindow hevent hview =>
    rcases List.mem_append.mp he with he | he
    · exact Or.inl he
    · rw [List.mem_singleton.mp he]
      exact Or.inr (Or.inl ⟨_, _, _, _, _, rfl, hwindow, hevent, hview⟩)
  | @eventEdited id patch actor old new startDate endDate view hold _ _ hwindow _ hnew hview =>
    have hmem := Table.mem_of_find?_eq_some hold
    have hid : Row.id (old.stored new) = Row.id old := by rw [hnew]; rfl
    rcases (Table.mem_put_iff hmem hid).mp he with rfl | ⟨he, -⟩
    · exact Or.inr (Or.inr (Or.inl ⟨old, hmem, id, patch, startDate, endDate, actor, new, view, rfl,
        hwindow, hnew, hview, rfl⟩))
    · exact Or.inl he
  | tookPart =>
    obtain ⟨old, hold, rfl⟩ := List.mem_map.mp he
    split
    · exact Or.inr (Or.inr (Or.inr ⟨old, hold, rfl⟩))
    · exact Or.inl hold
  | filed _ hraced hfiling =>
    rw [hfiling.events_eq, hraced.events_eq] at he
    exact Or.inl he
  | filedAndApproved _ hraced hfiling _ _ _ hmoving =>
    rw [hmoving.events_eq, hfiling.events_eq, hraced.events_eq] at he
    exact Or.inl he
  | moved _ _ hmoving =>
    rw [hmoving.events_eq] at he
    exact Or.inl he
  | cancelled _ _ _ hmoving =>
    rw [hmoving.events_eq] at he
    exact Or.inl he
  | issued _ _ _ hgranting =>
    obtain ⟨rewards, table, rfl⟩ := hgranting.exists_eq
    exact Or.inl he

/-! ### Grants -/

/-- A later version of a grant: its use or its expiry may show. -/
def Grant.Continues (g g' : Grant) : Prop := ∃ status usedAt, g' = { g with status, usedAt }

/-- **What an action does to a grant that is there**: nothing, or it uses the grant, or it lets the
grant expire. -/
inductive Grant.StepsBy (s : Session) (action : Action) (g : Grant) : Grant → Prop
  /-- Nothing of it changes. -/
  | kept : StepsBy s action g g
  /-- Its user uses it while its expiry date has not passed. -/
  | used {now : Option Instant} (haction : action = .useGrant g.id g.userId now)
      (hactive : g.status = .active) (hpast : g.isPast (now.getD s.clock) = false) :
      StepsBy s action g (g.used (now.getD s.clock))
  /-- Its expiry date has passed. -/
  | expired {now : Option Instant} (haction : action = .expireGrants now)
      (hdue : g.isDue (now.getD s.clock) = true) :
      StepsBy s action g { g with status := .expired }

namespace Grant

theorem Continues.refl (g : Grant) : g.Continues g := ⟨g.status, g.usedAt, rfl⟩

theorem Continues.trans (a b c : Grant) : a.Continues b → b.Continues c → a.Continues c := by
  rintro ⟨_, _, rfl⟩ ⟨status, usedAt, rfl⟩
  exact ⟨status, usedAt, rfl⟩

theorem Continues.id_eq {g g' : Grant} (h : g.Continues g') : g'.id = g.id := by
  obtain ⟨_, _, rfl⟩ := h
  rfl

theorem stepsBy_expire (s : Session) (now : Option Instant) (g : Grant) :
    g.StepsBy s (.expireGrants now) (g.expire (now.getD s.clock)) := by
  unfold expire
  split
  · next hdue => exact .expired rfl hdue
  · exact .kept

theorem StepsBy.continues {s : Session} {action : Action} {g g' : Grant}
    (h : g.StepsBy s action g') : g.Continues g' := by
  cases h with
  | kept => exact .refl g
  | used => exact ⟨_, _, rfl⟩
  | expired => exact ⟨_, _, rfl⟩

theorem continues_expire (g : Grant) (now : Instant) : g.Continues (g.expire now) :=
  (g.stepsBy_expire { clock := now } none).continues

end Grant

section
variable {R : Grant → Grant → Prop} (hR : ∀ g, R g g)
include hR

theorem Books.Granting.grants_evolve {s : Session} {request : RewardRequest}
    {operator : Option String} {now : Instant} {books after : Books} {ids : List Id}
    {grants : List Grant} {notes : List Note}
    (h : Granting s request operator now books ids after grants notes) :
    Evolves R books.grants after.grants := by
  intro i g hg
  refine ⟨g, ?_, hR g⟩
  rw [h.rows_grants, List.getElem?_append_left (List.getElem?_eq_some_iff.mp hg).1, hg]

theorem Books.Moving.grants_evolve {s : Session} {books after : Books} {request : RewardRequest}
    {operator reason : Option String} {now : Instant} {target : RequestStatus} {notes : List Note}
    (h : Moving s books request operator reason now target after notes) :
    Evolves R books.grants after.grants := by
  by_cases htarget : target = .approved
  · subst htarget
    obtain ⟨ids, issued, grants, granted, -, hgranting, -, heq, -⟩ := h.exists_granting
    rw [heq]
    exact hgranting.grants_evolve hR
  · rw [(h.stock_eq htarget).2]
    exact .refl hR _

end

/-- **Every grant that is there** takes a step of its life by the action, or none. -/
theorem Change.grants_step {s : Session} {books after : Books} {action : Action}
    {notes : List Note} (h : Change s books action after notes) (hbooks : books.Numbered) :
    Evolves (Grant.StepsBy s action) books.grants after.grants := by
  have hrefl : ∀ g, Grant.StepsBy s action g g := fun _ => .kept
  cases h with
  | nothing | noted | eventMade | eventEdited | rewardMade | rewardEdited | tookPart =>
    exact .refl hrefl _
  | filed _ hraced hfiling =>
    rw [hfiling.stock_eq.2, hraced.grants_eq]
    exact .refl hrefl _
  | filedAndApproved _ hraced hfiling _ _ _ hmoving =>
    have hevolves := hmoving.grants_evolve hrefl
    rwa [hfiling.stock_eq.2, hraced.grants_eq] at hevolves
  | moved _ _ hmoving => exact hmoving.grants_evolve hrefl
  | cancelled _ _ _ hmoving => exact hmoving.grants_evolve hrefl
  | issued _ _ _ hgranting => exact hgranting.grants_evolve hrefl
  | used hfound huser hactive hpast =>
    have hid := Table.id_of_find?_eq_some hfound
    refine .put hrefl hbooks.grants (Table.mem_of_find?_eq_some hfound) rfl (.used ?_ hactive hpast)
    rw [← hid, huser]
    rfl
  | expired now => exact .map (fun g _ => g.stepsBy_expire s now) _

theorem Change.grants_evolve {s : Session} {books after : Books} {action : Action}
    {notes : List Note} (h : Change s books action after notes) (hbooks : books.Numbered) :
    Evolves Grant.Continues books.grants after.grants :=
  (h.grants_step hbooks).mono fun _ _ hstep => hstep.continues

/-! ### Rewards -/

/-- A later version of a reward: it belongs to the same event, and has issued at least as much. -/
structure Reward.Continues (r r' : Reward) : Prop where
  id_eq : r'.id = r.id
  eventId_eq : r'.eventId = r.eventId
  issued_le : r.issuedQuantity ≤ r'.issuedQuantity

namespace Reward

theorem Continues.refl (r : Reward) : r.Continues r := ⟨rfl, rfl, le_refl _⟩

theorem Continues.trans (a b c : Reward) (h : a.Continues b) (h' : b.Continues c) :
    a.Continues c where
  id_eq := h'.id_eq.trans h.id_eq
  eventId_eq := h'.eventId_eq.trans h.eventId_eq
  issued_le := h.issued_le.trans h'.issued_le

end Reward

theorem Books.Granting.rewards_evolve {s : Session} {request : RewardRequest}
    {operator : Option String} {now : Instant} {books after : Books} {ids : List Id}
    {grants : List Grant} {notes : List Note}
    (h : Granting s request operator now books ids after grants notes) :
    Evolves Reward.Continues books.rewards after.rewards := by
  induction h with
  | done books => exact .refl Reward.Continues.refl _
  | skipped hnone hrest ih => exact ih
  | granted hreward hstock hcopied hgrant hnew hview hrest ih =>
    refine .trans Reward.Continues.trans ?_ ih
    refine .modify Reward.Continues.refl fun r hr _ => ⟨rfl, rfl, ?_⟩
    simp

theorem Books.Moving.rewards_evolve {s : Session} {books after : Books} {request : RewardRequest}
    {operator reason : Option String} {now : Instant} {target : RequestStatus} {notes : List Note}
    (h : Moving s books request operator reason now target after notes) :
    Evolves Reward.Continues books.rewards after.rewards := by
  by_cases htarget : target = .approved
  · subst htarget
    obtain ⟨ids, issued, grants, granted, -, hgranting, heq, -, -⟩ := h.exists_granting
    rw [heq]
    exact hgranting.rewards_evolve
  · rw [(h.stock_eq htarget).1]
    exact .refl Reward.Continues.refl _

theorem Change.rewards_evolve {s : Session} {books after : Books} {action : Action}
    {notes : List Note} (h : Change s books action after notes) (hbooks : books.Numbered) :
    Evolves Reward.Continues books.rewards after.rewards := by
  cases h with
  | nothing | noted | eventMade | eventEdited | tookPart | used | expired =>
    exact .refl Reward.Continues.refl _
  | rewardMade => exact .push Reward.Continues.refl _ _
  | rewardEdited hold _ _ _ hnew =>
    refine .put Reward.Continues.refl hbooks.rewards (Table.mem_of_find?_eq_some hold) ?_ ?_
    · rw [hnew]; rfl
    · rw [hnew]; exact ⟨rfl, rfl, le_refl _⟩
  | filed _ hraced hfiling =>
    obtain ⟨claims, rfl⟩ := hraced.exists_eq
    obtain ⟨participations, -, rfl⟩ := hfiling.exists_eq
    exact .refl Reward.Continues.refl _
  | filedAndApproved _ hraced hfiling _ _ _ hmoving =>
    obtain ⟨claims, rfl⟩ := hraced.exists_eq
    obtain ⟨participations, -, rfl⟩ := hfiling.exists_eq
    exact hmoving.rewards_evolve
  | moved _ _ hmoving => exact hmoving.rewards_evolve
  | cancelled _ _ _ hmoving => exact hmoving.rewards_evolve
  | issued _ _ _ hgranting => exact hgranting.rewards_evolve

theorem Books.Granting.mem_rewards {s : Session} {request : RewardRequest}
    {operator : Option String} {now : Instant} {books after : Books} {ids : List Id}
    {grants : List Grant} {notes : List Note}
    (h : Granting s request operator now books ids after grants notes) {r : Reward}
    (hr : r ∈ after.rewards.rows) :
    ∃ old ∈ books.rewards.rows, ∃ issuedQuantity updatedAt,
      r = { old with issuedQuantity, updatedAt } := by
  induction h with
  | done books => exact ⟨r, hr, r.issuedQuantity, r.updatedAt, rfl⟩
  | skipped hnone hrest ih => exact ih hr
  | granted hreward hstock hcopied hgrant hnew hview hrest ih =>
    obtain ⟨taken, htaken, issued, stamp, rfl⟩ := ih hr
    obtain ⟨old, hold, rfl⟩ := List.mem_map.mp htaken
    refine ⟨old, hold, issued, stamp, ?_⟩
    split <;> rfl

theorem Books.Moving.mem_rewards {s : Session} {books after : Books} {request : RewardRequest}
    {operator reason : Option String} {now : Instant} {target : RequestStatus} {notes : List Note}
    (h : Moving s books request operator reason now target after notes) {r : Reward}
    (hr : r ∈ after.rewards.rows) :
    ∃ old ∈ books.rewards.rows, ∃ issuedQuantity updatedAt,
      r = { old with issuedQuantity, updatedAt } := by
  by_cases htarget : target = .approved
  · subst htarget
    obtain ⟨ids, issued, grants, granted, -, hgranting, heq, -, -⟩ := h.exists_granting
    rw [heq] at hr
    exact hgranting.mem_rewards hr
  · rw [(h.stock_eq htarget).1] at hr
    exact ⟨r, hr, r.issuedQuantity, r.updatedAt, rfl⟩

/-- **Where a reward comes from**: it was there before, but for how many were issued of it, or an
action made it or edited it. -/
theorem Change.mem_rewards {s : Session} {books after : Books} {action : Action} {notes : List Note}
    (h : Change s books action after notes) {r : Reward} (hr : r ∈ after.rewards.rows) :
    (∃ old ∈ books.rewards.rows, ∃ issuedQuantity updatedAt,
      r = { old with issuedQuantity, updatedAt }) ∨
      (∃ draft actor event expiryDate view, action = .createReward draft actor ∧
        books.events.find? draft.eventId = some event ∧
          r = .ofDraft books.rewards.nextId event.id draft expiryDate actor s.stamp ∧
            r.shown = .ok view) ∨
      ∃ old ∈ books.rewards.rows, ∃ id patch expiryDate actor new view,
        action = .updateReward id patch actor ∧
          new = old.restamped (old.patched patch expiryDate actor) s.stamp ∧
            new.shown = .ok view ∧ r = old.stored new := by
  have hkept (hr : r ∈ books.rewards.rows) : ∃ old ∈ books.rewards.rows,
      ∃ issuedQuantity updatedAt, r = { old with issuedQuantity, updatedAt } :=
    ⟨r, hr, r.issuedQuantity, r.updatedAt, rfl⟩
  cases h with
  | nothing | noted | eventMade | eventEdited | tookPart | used | expired => exact Or.inl (hkept hr)
  | rewardMade hevent _ hreward _ hview =>
    rcases List.mem_append.mp hr with hr | hr
    · exact Or.inl (hkept hr)
    · rw [List.mem_singleton.mp hr]
      exact Or.inr (Or.inl ⟨_, _, _, _, _, rfl, hevent, hreward, hview⟩)
  | @rewardEdited id patch actor old new expiryDate view hold _ _ _ hnew hview =>
    have hmem := Table.mem_of_find?_eq_some hold
    have hid : Row.id (old.stored new) = Row.id old := by rw [hnew]; rfl
    rcases (Table.mem_put_iff hmem hid).mp hr with rfl | ⟨hr, -⟩
    · exact Or.inr (Or.inr ⟨old, hmem, id, patch, expiryDate, actor, new, view, rfl, hnew, hview, rfl⟩)
    · exact Or.inl (hkept hr)
  | filed _ hraced hfiling =>
    rw [hfiling.stock_eq.1, hraced.rewards_eq] at hr
    exact Or.inl (hkept hr)
  | filedAndApproved _ hraced hfiling _ _ _ hmoving =>
    have hmem := hmoving.mem_rewards hr
    rw [hfiling.stock_eq.1, hraced.rewards_eq] at hmem
    exact Or.inl hmem
  | moved _ _ hmoving | cancelled _ _ _ hmoving => exact Or.inl (hmoving.mem_rewards hr)
  | issued _ _ _ hgranting => exact Or.inl (hgranting.mem_rewards hr)

/-! ### Requests -/

/-- A later version of a request: only the decision on it may show. -/
def RewardRequest.Continues (q q' : RewardRequest) : Prop :=
  ∃ status approvedAt issuedAt rejectedReason processedBy updatedAt,
    q' = { q with status, approvedAt, issuedAt, rejectedReason, processedBy, updatedAt }

/-- The version of a request after one change: its status is the same or the next one. -/
def RewardRequest.StepsTo (q q' : RewardRequest) : Prop :=
  q.Continues q' ∧ (q'.status = q.status ∨ q.status.mayBecome q'.status = true)

namespace RewardRequest

theorem Continues.refl (q : RewardRequest) : q.Continues q :=
  ⟨q.status, q.approvedAt, q.issuedAt, q.rejectedReason, q.processedBy, q.updatedAt, rfl⟩

theorem Continues.trans (a b c : RewardRequest) :
    a.Continues b → b.Continues c → a.Continues c := by
  rintro ⟨_, _, _, _, _, _, rfl⟩ ⟨status, approvedAt, issuedAt, reason, operator, stamp, rfl⟩
  exact ⟨status, approvedAt, issuedAt, reason, operator, stamp, rfl⟩

theorem Continues.symm {q q' : RewardRequest} (h : q.Continues q') : q'.Continues q := by
  obtain ⟨_, _, _, _, _, _, rfl⟩ := h
  exact ⟨q.status, q.approvedAt, q.issuedAt, q.rejectedReason, q.processedBy, q.updatedAt, rfl⟩

theorem Continues.id_eq {q q' : RewardRequest} (h : q.Continues q') : q'.id = q.id := by
  obtain ⟨_, _, _, _, _, _, rfl⟩ := h
  rfl

theorem Continues.verificationData_eq {q q' : RewardRequest} (h : q.Continues q') :
    q'.verificationData = q.verificationData := by
  obtain ⟨_, _, _, _, _, _, rfl⟩ := h
  rfl

theorem StepsTo.refl (q : RewardRequest) : q.StepsTo q := ⟨.refl q, Or.inl rfl⟩

theorem status_moved {q : RewardRequest} {target : RequestStatus}
    (hmay : q.status.mayBecome target = true) (operator reason : Option String)
    (now stamp : Instant) : (q.moved target operator reason now stamp).status = target := by
  cases target with
  | pending | unlisted => cases hs : q.status <;> simp [hs, RequestStatus.mayBecome] at hmay
  | approved | rejected | cancelled | issued => rfl

theorem continues_moved (q : RewardRequest) (target : RequestStatus)
    (operator reason : Option String) (now stamp : Instant) :
    q.Continues (q.moved target operator reason now stamp) := by
  cases target with
  | pending | unlisted => exact .refl q
  | approved | rejected | cancelled | issued => exact ⟨_, _, _, _, _, _, rfl⟩

theorem stepsTo_moved {q : RewardRequest} {target : RequestStatus}
    (hmay : q.status.mayBecome target = true) (operator reason : Option String)
    (now stamp : Instant) : q.StepsTo (q.moved target operator reason now stamp) := by
  refine ⟨q.continues_moved target operator reason now stamp, Or.inr ?_⟩
  rwa [status_moved hmay]

end RewardRequest

theorem Books.Moving.requests_evolve {s : Session} {books after : Books} {request : RewardRequest}
    {operator reason : Option String} {now : Instant} {target : RequestStatus} {notes : List Note}
    (h : Moving s books request operator reason now target after notes) (hbooks : books.Numbered)
    (hrequest : request ∈ books.requests.rows) (hmay : request.status.mayBecome target = true) :
    Evolves RewardRequest.StepsTo books.requests after.requests := by
  rw [h.requests_eq]
  exact .put RewardRequest.StepsTo.refl hbooks.requests hrequest (by simp [Row.id])
    (RewardRequest.stepsTo_moved hmay operator reason now s.stamp)

theorem Books.Filing.requests_of_moving {s : Session} {books filed after : Books} {event : Event}
    {rewards : List Id} {userId : String} {verificationData : Json} {now later : Instant}
    {request found : RewardRequest} {notes more : List Note} {operator reason : Option String}
    {target : RequestStatus}
    (h : Filing s books event rewards userId verificationData now request filed notes)
    (hbooks : books.Numbered) (hfound : filed.requests.find? request.id = some found)
    (hmoving : Moving s filed found operator reason later target after more) :
    found = request ∧
      after.requests = books.requests.push (request.moved target operator reason later s.stamp) := by
  have hpushed : filed.requests = books.requests.push request := by
    obtain ⟨participations, -, heq⟩ := h.exists_eq
    rw [heq]
  have hsame : found = request := by
    rw [hpushed] at hfound
    exact (Option.some.inj ((hbooks.requests.find?_push h.id_eq).symm.trans hfound)).symm
  refine ⟨hsame, ?_⟩
  rw [hmoving.requests_eq, hsame, hpushed]
  exact hbooks.requests.put_push h.id_eq (by simp [Row.id])

theorem Change.requests_evolve {s : Session} {books after : Books} {action : Action}
    {notes : List Note} (h : Change s books action after notes) (hbooks : books.Numbered) :
    Evolves RewardRequest.StepsTo books.requests after.requests := by
  cases h with
  | nothing | noted | eventMade | eventEdited | rewardMade | rewardEdited | tookPart | used
  | expired => exact .refl RewardRequest.StepsTo.refl _
  | filed _ hraced hfiling =>
    obtain ⟨claims, rfl⟩ := hraced.exists_eq
    obtain ⟨participations, -, rfl⟩ := hfiling.exists_eq
    exact .push RewardRequest.StepsTo.refl _ _
  | filedAndApproved _ hraced hfiling _ hfound _ hmoving =>
    rw [(hfiling.requests_of_moving (hraced.numbered hbooks) hfound hmoving).2]
    obtain ⟨claims, rfl⟩ := hraced.exists_eq
    exact .push RewardRequest.StepsTo.refl _ _
  | moved hfound hmay hmoving =>
    exact hmoving.requests_evolve hbooks (Table.mem_of_find?_eq_some hfound) hmay
  | cancelled hfound _ hmay hmoving =>
    exact hmoving.requests_evolve hbooks (Table.mem_of_find?_eq_some hfound) hmay
  | issued _ _ _ hgranting =>
    obtain ⟨rewards, table, rfl⟩ := hgranting.exists_eq
    exact .refl RewardRequest.StepsTo.refl _

/-- What an action asks a request to become. -/
structure Move where
  id : Id
  target : RequestStatus
  operator : Option String
  reason : Option String
  now : Instant

/-- The change of a request's status that an action asks for. -/
def Action.move? (s : Session) : Action → Option Move
  | .transition id target operator reason now =>
    some { id, target, operator, reason, now := now.getD s.clock }
  | .cancelRequest id userId =>
    some { id, target := .cancelled, operator := some userId, reason := none, now := s.clock }
  | _ => none

/-- The request once it is moved as an action asks. -/
def RewardRequest.movedBy (request : RewardRequest) (move : Move) (stamp : Instant) :
    RewardRequest :=
  request.moved move.target move.operator move.reason move.now stamp

/-- **A request that an action makes**, and that an event may approve at once. -/
def Action.Makes (s : Session) (books : Books) (action : Action) (new : RewardRequest) : Prop :=
  ∃ eventId spellings userId verificationData now rival event rewards,
    action = .createRequest eventId spellings userId verificationData now rival ∧
      Admitted books eventId spellings userId verificationData (now.getD s.clock) event rewards ∧
        let filed := RewardRequest.filed books.requests.nextId event.id
          (rewards.map fun id => .str id.text) userId verificationData (now.getD s.clock) s.stamp
        new = filed ∨ event.autoReward = true ∧
          new = filed.moved .approved (some s.systemOperator) none s.clock s.stamp

theorem Books.mem_requests_put {books after : Books} {old new q : RewardRequest}
    (hafter : after.requests = books.requests.put new) (hold : old ∈ books.requests.rows)
    (hid : new.id = old.id) :
    q ∈ after.requests.rows ↔ q = new ∨ q ∈ books.requests.rows ∧ q.id ≠ old.id := by
  rw [hafter]
  exact Table.mem_put_iff hold hid

theorem Books.Moving.mem_requests {s : Session} {books after : Books} {request q : RewardRequest}
    {operator reason : Option String} {now : Instant} {target : RequestStatus} {notes : List Note}
    (h : Moving s books request operator reason now target after notes)
    (hrequest : request ∈ books.requests.rows) (hq : q ∈ after.requests.rows) :
    q = request.moved target operator reason now s.stamp ∨ q ∈ books.requests.rows := by
  have hid := request.id_moved target operator reason now s.stamp
  rcases (mem_requests_put h.requests_eq hrequest hid).mp hq with heq | ⟨hq, -⟩
  · exact Or.inl heq
  · exact Or.inr hq

/-- **Where a request comes from**: it was there before, an action moved it, or one made it. -/
theorem Change.mem_requests {s : Session} {books after : Books} {action : Action}
    {notes : List Note} (h : Change s books action after notes) (hbooks : books.Numbered)
    {q : RewardRequest} (hq : q ∈ after.requests.rows) :
    q ∈ books.requests.rows ∨
      (∃ old ∈ books.requests.rows, ∃ move, action.move? s = some move ∧ move.id = old.id ∧
        old.status.mayBecome move.target = true ∧ q = old.movedBy move s.stamp) ∨
      action.Makes s books q := by
  cases h with
  | nothing | noted | eventMade | eventEdited | rewardMade | rewardEdited | tookPart | used
  | expired => exact Or.inl hq
  | filed hadmitted hraced hfiling =>
    obtain ⟨claims, rfl⟩ := hraced.exists_eq
    obtain ⟨participations, -, rfl⟩ := hfiling.exists_eq
    rcases List.mem_append.mp hq with hq | hq
    · exact Or.inl hq
    · refine Or.inr (Or.inr ⟨_, _, _, _, _, _, _, _, rfl, hadmitted, Or.inl ?_⟩)
      rw [List.mem_singleton.mp hq, hfiling.request_eq]
  | filedAndApproved hadmitted hraced hfiling hauto hfound _ hmoving =>
    rw [(hfiling.requests_of_moving (hraced.numbered hbooks) hfound hmoving).2] at hq
    obtain ⟨claims, rfl⟩ := hraced.exists_eq
    rcases List.mem_append.mp hq with hq | hq
    · exact Or.inl hq
    · refine Or.inr (Or.inr ⟨_, _, _, _, _, _, _, _, rfl, hadmitted, Or.inr ⟨hauto, ?_⟩⟩)
      rw [List.mem_singleton.mp hq, hfiling.request_eq]
  | moved hfound hmay hmoving =>
    have hold := Table.mem_of_find?_eq_some hfound
    rcases hmoving.mem_requests hold hq with heq | hq
    · have hid := Table.id_of_find?_eq_some hfound
      exact Or.inr (Or.inl ⟨_, hold, _, rfl, hid.symm, hmay, heq⟩)
    · exact Or.inl hq
  | cancelled hfound _ hmay hmoving =>
    have hold := Table.mem_of_find?_eq_some hfound
    rcases hmoving.mem_requests hold hq with heq | hq
    · have hid := Table.id_of_find?_eq_some hfound
      exact Or.inr (Or.inl ⟨_, hold, _, rfl, hid.symm, hmay, heq⟩)
    · exact Or.inl hq
  | issued _ _ _ hgranting =>
    obtain ⟨rewards, table, rfl⟩ := hgranting.exists_eq
    exact Or.inl hq

/-! ### Along a run -/

namespace Database

/-- **What the rows of a table keep** in every change, they keep in every run. -/
theorem evolves_after {ρ : Type} {R : ρ → ρ → Prop} (table : Books → Table ρ)
    (hrefl : ∀ row, R row row) (htrans : ∀ a b c, R a b → R b c → R a c)
    (hstep : ∀ {s books action after notes}, books.Numbered → Change s books action after notes →
      Evolves R (table books) (table after))
    {db : Database} (hdb : db.books.Numbered) (ms : List Moment) :
    Evolves R (table db.books) (table (db.after ms).books) := by
  refine And.right (a := (db.after ms).books.Numbered) ?_
  refine keeps_after (P := fun _ => True) (fun _ _ => trivial)
    (I := fun books => books.Numbered ∧ Evolves R (table db.books) (table books)) ?_
    ⟨hdb, .refl hrefl _⟩ fun _ _ _ _ => trivial
  rintro s books action after notes - ⟨hnumbered, hevolves⟩ hchange
  exact ⟨hchange.numbered hnumbered, hevolves.trans htrans (hstep hnumbered hchange)⟩

theorem rewards_evolve {db : Database} (hdb : db.books.Numbered) (ms : List Moment) :
    Evolves Reward.Continues db.books.rewards (db.after ms).books.rewards :=
  evolves_after Books.rewards Reward.Continues.refl Reward.Continues.trans
    (fun hnumbered hchange => hchange.rewards_evolve hnumbered) hdb ms

theorem grants_evolve {db : Database} (hdb : db.books.Numbered) (ms : List Moment) :
    Evolves Grant.Continues db.books.grants (db.after ms).books.grants :=
  evolves_after Books.grants Grant.Continues.refl Grant.Continues.trans
    (fun hnumbered hchange => hchange.grants_evolve hnumbered) hdb ms

end Database

end Promotions
