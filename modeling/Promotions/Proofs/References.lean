import Promotions.Proofs.Attendance
import Promotions.Proofs.Entitlements

/-!
# What a row names exists

Rows name rows of other tables by their identifiers, and the tables do not check that these exist.
They do nevertheless: nothing that can be named goes away (`Change.persist`), and a request is
checked as a whole before it is written. So every grant was given for a request that lists its
reward (`Books.Referred`), and rewards, participations and requests name what is there
(`Books.Anchored`). What a change grants is all that some request wants (`Change.grantedBy`):
nothing is passed over when the rewards of a request are issued.
-/

namespace Promotions

open Table (Evolves newRows)

/-! ### Naming rows -/

namespace Table

variable {ρ : Type} [Row ρ] {t u : Table ρ} {id : Id}

/-- A row of the table has the identifier. -/
def Has (t : Table ρ) (id : Id) : Prop := ∃ row ∈ t.rows, Row.id row = id

theorem has_of_find? {row : ρ} (h : t.find? id = some row) : t.Has id :=
  ⟨row, mem_of_find?_eq_some h, id_of_find?_eq_some h⟩

theorem Has.evolves {R : ρ → ρ → Prop} (h : t.Has id) (htu : Evolves R t u)
    (hid : ∀ a b, R a b → Row.id b = Row.id a) : u.Has id := by
  obtain ⟨row, hrow, rfl⟩ := h
  obtain ⟨row', hrow', hR⟩ := htu.exists_mem hrow
  exact ⟨row', hrow', hid _ _ hR⟩

end Table

namespace Books

/-- The identifier is that of a reward of the event. -/
def Offers (books : Books) (eventId rewardId : Id) : Prop :=
  ∃ r ∈ books.rewards.rows, r.id = rewardId ∧ r.eventId = eventId

theorem Offers.has {books : Books} {eventId rewardId : Id} (h : books.Offers eventId rewardId) :
    books.rewards.Has rewardId := by
  obtain ⟨r, hr, hid, -⟩ := h
  exact ⟨r, hr, hid⟩

/-- The rows that a note or an entry of the journal names are there. -/
structure Knows (books : Books) (eventId rewardId requestId : Option Id) : Prop where
  event : ∀ id, eventId = some id → books.events.Has id
  reward : ∀ id, rewardId = some id → books.rewards.Has id
  request : ∀ id, requestId = some id → books.requests.Has id

/-- What can be named in some books can be named in later ones. -/
structure Persist (books after : Books) : Prop where
  event : ∀ {id}, books.events.Has id → after.events.Has id
  reward : ∀ {id}, books.rewards.Has id → after.rewards.Has id
  offers : ∀ {eventId rewardId}, books.Offers eventId rewardId → after.Offers eventId rewardId
  request : ∀ q ∈ books.requests.rows, ∃ q' ∈ after.requests.rows, q.Continues q'

theorem Persist.knows {books after : Books} (h : books.Persist after)
    {eventId rewardId requestId : Option Id} (hknows : books.Knows eventId rewardId requestId) :
    after.Knows eventId rewardId requestId where
  event := fun id hid => h.event (hknows.event id hid)
  reward := fun id hid => h.reward (hknows.reward id hid)
  request := by
    intro id hid
    obtain ⟨q, hq, hqid⟩ := hknows.request id hid
    obtain ⟨q', hq', hcontinues⟩ := h.request q hq
    exact ⟨q', hq', hcontinues.id_eq.trans hqid⟩

end Books

open Books

/-- **Nothing that can be named goes away.** -/
theorem Change.persist {s : Session} {books after : Books} {action : Action} {notes : List Note}
    (h : Change s books action after notes) (hbooks : books.Numbered) : books.Persist after where
  event := fun hhas => hhas.evolves (h.arrivals hbooks).counts fun _ _ hcounts => hcounts.1
  reward := fun hhas => hhas.evolves (h.rewards_evolve hbooks) fun _ _ hcontinues => hcontinues.id_eq
  offers := by
    rintro eventId rewardId ⟨r, hr, hid, hevent⟩
    obtain ⟨r', hr', hcontinues⟩ := (h.rewards_evolve hbooks).exists_mem hr
    exact ⟨r', hr', hcontinues.id_eq.trans hid, hcontinues.eventId_eq.trans hevent⟩
  request := by
    intro q hq
    obtain ⟨q', hq', hsteps⟩ := (h.requests_evolve hbooks).exists_mem hq
    exact ⟨q', hq', hsteps.1⟩

/-! ### What a change grants -/

/-- **The grants are what a request wants**, all of it and in its order. -/
structure RewardRequest.GrantedBy (q : RewardRequest) (grants : List Grant) : Prop where
  spells : q.Spells (grants.map Grant.rewardId)
  isOf : ∀ g ∈ grants, g.IsOf q

theorem RewardRequest.GrantedBy.continues {q q' : RewardRequest} {grants : List Grant}
    (h : q.GrantedBy grants) (hq : q.Continues q') : q'.GrantedBy grants where
  spells := h.spells.continues hq
  isOf := fun g hg => (h.isOf g hg).continues hq

namespace Books

theorem Spelled.exists_spells {books : Books} (h : books.Spelled) {request : RewardRequest}
    (hrequest : request ∈ books.requests.rows) :
    ∃ ids, request.Spells ids ∧ ∀ id ∈ ids, (books.rewards.find? id).isSome = true := by
  obtain ⟨ids, hspells, hfound⟩ := h request hrequest
  refine ⟨ids, hspells, fun id hid => ?_⟩
  obtain ⟨reward, hreward, -⟩ := hfound id hid
  rw [hreward]
  rfl

section
variable {s : Session} {request : RewardRequest} {operator : Option String} {now : Instant}
  {books after : Books} {ids : List Id} {notes : List Note}

theorem Admitted.isSome_find? {eventId : Id} {spellings : List IdSpelling} {userId : String}
    {verificationData : Json} {event : Event}
    (h : Admitted books eventId spellings userId verificationData now event ids) :
    ∀ id ∈ ids, (books.rewards.find? id).isSome = true := by
  intro id hid
  obtain ⟨reward, hreward, -⟩ := h.rewards_found id hid
  rw [hreward]
  rfl

theorem Filing.spells {event : Event} {userId : String} {verificationData : Json}
    (h : Filing s books event ids userId verificationData now request after notes)
    (hnodup : ids.Nodup) (hnonempty : ids ≠ []) : request.Spells ids :=
  ⟨by rw [h.request_eq]; rfl, hnodup, hnonempty⟩

variable (hbooks : books.Numbered) (hspells : request.Spells ids)
  (hfound : ∀ id ∈ ids, (books.rewards.find? id).isSome = true)
include hbooks hspells hfound

theorem Granting.grantedBy {grants : List Grant}
    (h : Granting s request operator now books ids after grants notes) :
    request.GrantedBy (newRows books.grants after.grants) := by
  have hnew := (h.numbered hbooks).grants.newRows_append h.rows_grants
  refine ⟨?_, fun g hg => ?_⟩
  · rwa [hnew, h.rewardIds_eq hfound]
  · rw [hnew] at hg
    obtain ⟨huser, hevent, hid⟩ := h.eq_ofReward g hg
    exact ⟨hid, hevent, huser⟩

theorem Moving.grantedBy {reason : Option String} {target : RequestStatus}
    (h : Moving s books request operator reason now target after notes) :
    newRows books.grants after.grants = [] ∨
      request.GrantedBy (newRows books.grants after.grants) := by
  by_cases htarget : target = .approved
  · right
    subst htarget
    obtain ⟨wanted, issued, grants, granted, hwanted, hgranting, -, hgrants, -⟩ := h.exists_granting
    have hread : wanted = ids := hspells.wanted_eq hwanted
    rw [hread] at hgranting
    rw [hgrants]
    exact hgranting.grantedBy hbooks hspells hfound
  · left
    rw [(h.stock_eq htarget).2, Table.newRows_self]

end

end Books

/-- **A change grants all rewards of one request, or none**: nothing that a request wants is passed
over. -/
theorem Change.grantedBy {s : Session} {books after : Books} {action : Action} {notes : List Note}
    (h : Change s books action after notes) (hbooks : books.Numbered) (hspelled : books.Spelled) :
    newRows books.grants after.grants = [] ∨
      ∃ q ∈ after.requests.rows, q.GrantedBy (newRows books.grants after.grants) := by
  -- a request that was there before is followed to its version after the change
  have hfollow {request : RewardRequest} (hrequest : request ∈ books.requests.rows)
      (hgranted : request.GrantedBy (newRows books.grants after.grants)) :
      ∃ q ∈ after.requests.rows, q.GrantedBy (newRows books.grants after.grants) := by
    obtain ⟨q, hq, hcontinues⟩ := (h.persist hbooks).request request hrequest
    exact ⟨q, hq, hgranted.continues hcontinues⟩
  have hsame (hgrants : after.grants = books.grants) : newRows books.grants after.grants = [] := by
    rw [hgrants, Table.newRows_self]
  cases h with
  | nothing | noted | eventMade | eventEdited | rewardMade | rewardEdited | tookPart =>
    exact Or.inl (hsame rfl)
  | filed _ hraced hfiling => exact Or.inl (hsame (hfiling.stock_eq.2.trans hraced.grants_eq))
  | @filedAndApproved _ _ _ _ _ _ raced filed _ event rewards request found _ _ hadmitted hraced
      hfiling _ hfound _ hmoving =>
    have hnumbered := hraced.numbered hbooks
    obtain ⟨rfl, hrequests⟩ := hfiling.requests_of_moving hnumbered hfound hmoving
    have hspells : found.Spells rewards :=
      hfiling.spells (Id.nodup_of_orderedUnique hadmitted.resolved) hadmitted.nonempty
    have hrewards := hadmitted.isSome_find?
    rw [← hraced.rewards_eq, ← hfiling.stock_eq.1] at hrewards
    have hgranted := hmoving.grantedBy (hfiling.numbered hnumbered) hspells hrewards
    rw [hfiling.stock_eq.2, hraced.grants_eq] at hgranted
    refine hgranted.imp_right fun hgranted => ⟨_, ?_, hgranted.continues
      (found.continues_moved .approved (some s.systemOperator) none s.clock s.stamp)⟩
    rw [hrequests]
    exact List.mem_append_right _ List.mem_cons_self
  | moved hfound _ hmoving | cancelled hfound _ _ hmoving =>
    have hrequest := Table.mem_of_find?_eq_some hfound
    obtain ⟨ids, hspells, hrewards⟩ := hspelled.exists_spells hrequest
    exact (hmoving.grantedBy hbooks hspells hrewards).imp_right (hfollow hrequest)
  | issued hfound _ hwanted hgranting =>
    have hrequest := Table.mem_of_find?_eq_some hfound
    obtain ⟨ids, hspells, hrewards⟩ := hspelled.exists_spells hrequest
    obtain rfl := hspells.wanted_eq hwanted
    exact Or.inr (hfollow hrequest (hgranting.grantedBy hbooks hspells hrewards))
  | used => exact Or.inl (Table.newRows_modify fun _ _ => rfl)
  | expired now =>
    refine Or.inl (Table.newRows_eq_nil fun g hg => ?_)
    obtain ⟨old, hold, rfl⟩ := List.mem_map.mp hg
    exact ⟨old, hold, (old.continues_expire _).id_eq.symm⟩

/-- **Every grant was given for a request** that lists its reward. -/
def Books.Referred (books : Books) : Prop :=
  ∀ g ∈ books.grants.rows, ∃ q ∈ books.requests.rows, g.IsOf q ∧ q.Lists g.rewardId

theorem Change.referred {s : Session} {books after : Books} {action : Action} {notes : List Note}
    (h : Change s books action after notes) (hbooks : books.Numbered) (hspelled : books.Spelled)
    (hreferred : books.Referred) : after.Referred := by
  intro g hg
  have hevolves := h.grants_evolve hbooks
  rcases hevolves.mem (h.numbered hbooks).grants (fun _ _ hcontinues => hcontinues.id_eq) hg with
    ⟨old, hold, _, _, rfl⟩ | hnew
  · obtain ⟨q, hq, hof, hlists⟩ := hreferred old hold
    obtain ⟨q', hq', hcontinues⟩ := (h.persist hbooks).request q hq
    have hof' := hof.continues hcontinues
    exact ⟨q', hq', ⟨hof'.requestId_eq, hof'.eventId_eq, hof'.userId_eq⟩,
      hcontinues.lists_iff.mpr hlists⟩
  · rcases h.grantedBy hbooks hspelled with hnone | ⟨q, hq, hgranted⟩
    · rw [hnone] at hnew
      cases hnew
    · refine ⟨q, hq, hgranted.isOf g hnew, ?_⟩
      exact (RewardRequest.lists_iff hgranted.spells.rewardIds_eq).mpr (List.mem_map_of_mem hnew)

theorem Database.Reachable.referred {P : Action → Prop} {db : Database} (h : db.Reachable P) :
    db.books.Referred := by
  suffices db.books.Numbered ∧ db.books.Spelled ∧ db.books.Referred from this.2.2
  refine (h.mono (Q := fun _ => True) fun _ _ => trivial).keeps (fun _ _ => trivial)
    (I := fun books => books.Numbered ∧ books.Spelled ∧ books.Referred)
    ⟨numbered_empty, by simp [Spelled], by simp [Referred]⟩ ?_
  rintro s books action after notes - ⟨hnumbered, hspelled, hreferred⟩ hchange
  exact ⟨hchange.numbered hnumbered, hchange.spelled hnumbered hspelled,
    hchange.referred hnumbered hspelled hreferred⟩

/-! ### What rewards, participations and requests name -/

/-- **The request wants these rewards**: their texts can be read back, and they are rewards of its
event. -/
structure RewardRequest.Wants (q : RewardRequest) (books : Books) (ids : List Id) : Prop where
  spells : q.Spells ids
  spelled : ∀ id ∈ ids, id.IsSpelled
  offered : ∀ id ∈ ids, books.Offers q.eventId id

theorem RewardRequest.Wants.continues {q q' : RewardRequest} {books after : Books} {ids : List Id}
    (h : q.Wants books ids) (hq : q.Continues q') (hpersist : books.Persist after) :
    q'.Wants after ids := by
  have hspells := h.spells.continues hq
  obtain ⟨_, _, _, _, _, _, rfl⟩ := hq
  exact ⟨hspells, h.spelled, fun id hid => hpersist.offers (h.offered id hid)⟩

namespace Books

/-- Participations name events and requests that are there. -/
def Linked (books : Books) : Prop :=
  ∀ p ∈ books.participations.rows, books.events.Has p.eventId ∧
    ∀ id, p.rewardRequestId = some id → books.requests.Has id

/-- **Rewards, participations and requests name what is there.** -/
structure Anchored (books : Books) : Prop where
  rewards : ∀ r ∈ books.rewards.rows, books.events.Has r.eventId
  participations : ∀ p ∈ books.participations.rows, books.events.Has p.eventId ∧
    ∀ id, p.rewardRequestId = some id → books.requests.Has id
  requests : ∀ q ∈ books.requests.rows, books.events.Has q.eventId ∧ ∃ ids, q.Wants books ids

theorem anchored_empty : ({} : Books).Anchored where
  rewards := by simp
  participations := by simp
  requests := by simp

section
variable {s : Session} {books after : Books} {request : RewardRequest} {now : Instant}
  {notes : List Note}

theorem Filing.mem_participations {event : Event} {rewards : List Id} {userId : String}
    {verificationData : Json}
    (h : Filing s books event rewards userId verificationData now request after notes)
    {p : Participation} (hp : p ∈ after.participations.rows) :
    ∃ old ∈ books.participations.rows, old.eventId = p.eventId ∧
      (p.rewardRequestId = old.rewardRequestId ∨ p.rewardRequestId = some request.id) := by
  rw [h.after_eq] at hp
  unfold linkParticipation at hp
  split at hp
  · exact ⟨p, hp, rfl, Or.inl rfl⟩
  · obtain ⟨old, hold, rfl⟩ := List.mem_map.mp hp
    refine ⟨old, hold, ?_⟩
    split
    · exact ⟨rfl, Or.inr rfl⟩
    · exact ⟨rfl, Or.inl rfl⟩

theorem mem_participations_of_markRewarded {p : Participation}
    (hp : p ∈ (books.markRewarded request now).participations.rows) :
    ∃ old ∈ books.participations.rows, old.eventId = p.eventId ∧
      p.rewardRequestId = old.rewardRequestId := by
  unfold markRewarded at hp
  split at hp
  · exact ⟨p, hp, rfl, rfl⟩
  · split at hp
    · obtain ⟨old, hold, rfl⟩ := List.mem_map.mp hp
      refine ⟨old, hold, ?_⟩
      split <;> exact ⟨rfl, rfl⟩
    · exact ⟨p, hp, rfl, rfl⟩

theorem Moving.mem_participations {operator reason : Option String} {target : RequestStatus}
    (h : Moving s books request operator reason now target after notes) {p : Participation}
    (hp : p ∈ after.participations.rows) :
    ∃ old ∈ books.participations.rows, old.eventId = p.eventId ∧
      p.rewardRequestId = old.rewardRequestId := by
  cases h with
  | approved hwanted hids hgranting hgrants hnote =>
    obtain ⟨old, hold, hsame⟩ := mem_participations_of_markRewarded hp
    obtain ⟨rewards, table, rfl⟩ := hgranting.exists_eq
    exact ⟨old, hold, hsame⟩
  | rejected hnote => exact ⟨p, hp, rfl, rfl⟩
  | cancelled hnote => exact ⟨p, hp, rfl, rfl⟩
  | delivered hnote => exact ⟨p, hp, rfl, rfl⟩

end

end Books

section
variable {s : Session} {books after : Books} {action : Action} {notes : List Note}
  (h : Change s books action after notes)
include h

/-- **What a participation names**: what it named before, or a request that was made, or an event
that is there. -/
theorem Change.mem_participations (hbooks : books.Numbered) {p : Participation}
    (hp : p ∈ after.participations.rows) :
    (∃ old ∈ books.participations.rows, old.eventId = p.eventId ∧
      (p.rewardRequestId = old.rewardRequestId ∨
        ∃ q ∈ after.requests.rows, p.rewardRequestId = some q.id)) ∨
      books.events.Has p.eventId ∧ p.rewardRequestId = none := by
  cases h with
  | nothing | noted | eventMade | eventEdited | rewardMade | rewardEdited | used | expired =>
    exact Or.inl ⟨p, hp, rfl, Or.inl rfl⟩
  | tookPart hevent _ _ _ _ _ hparticipation =>
    rcases List.mem_append.mp hp with hp | hp
    · exact Or.inl ⟨p, hp, rfl, Or.inl rfl⟩
    · rw [List.mem_singleton.mp hp, hparticipation]
      exact Or.inr ⟨⟨_, Table.mem_of_find?_eq_some hevent, rfl⟩, rfl⟩
  | filed _ hraced hfiling =>
    have hrequest := hfiling.requests_eq
    obtain ⟨claims, rfl⟩ := hraced.exists_eq
    obtain ⟨old, hold, hevent, hlink⟩ := hfiling.mem_participations hp
    refine Or.inl ⟨old, hold, hevent, hlink.imp_right fun heq => ⟨_, ?_, heq⟩⟩
    rw [hrequest]
    exact List.mem_append_right _ List.mem_cons_self
  | @filedAndApproved _ _ _ _ _ _ _ _ _ _ _ _ found _ _ _ hraced hfiling _ hfound _ hmoving =>
    obtain ⟨rfl, hrequests⟩ := hfiling.requests_of_moving (hraced.numbered hbooks) hfound hmoving
    have hmem : found.moved .approved (some s.systemOperator) none s.clock s.stamp ∈
        after.requests.rows := by
      rw [hrequests]
      exact List.mem_append_right _ List.mem_cons_self
    obtain ⟨claims, rfl⟩ := hraced.exists_eq
    obtain ⟨linked, hlinked, hevent, hsame⟩ := hmoving.mem_participations hp
    obtain ⟨old, hold, hevent', hlink⟩ := hfiling.mem_participations hlinked
    rw [← hsame] at hlink
    refine Or.inl ⟨old, hold, hevent'.trans hevent, hlink.imp_right fun heq => ⟨_, hmem, ?_⟩⟩
    rw [heq, RewardRequest.id_moved]
  | moved _ _ hmoving | cancelled _ _ _ hmoving =>
    obtain ⟨old, hold, hevent, hsame⟩ := hmoving.mem_participations hp
    exact Or.inl ⟨old, hold, hevent, Or.inl hsame⟩
  | issued _ _ _ hgranting =>
    obtain ⟨rewards, table, rfl⟩ := hgranting.exists_eq
    exact Or.inl ⟨p, hp, rfl, Or.inl rfl⟩

end

/-- **An operation is called in order**: no rival claim appears in it, and identifiers that are
given as such have 32 digits. -/
def Action.IsOrderly : Action → Prop
  | .createRequest _ spellings _ _ _ rival =>
    rival = none ∧ ∀ id, IdSpelling.known id ∈ spellings → id.IsSpelled
  | _ => True

theorem Action.IsOrderly.isUnrivalled (action : Action) (h : action.IsOrderly) :
    action.IsUnrivalled := by
  cases action with
  | createRequest => exact h.1
  | _ => trivial

theorem Action.IsAsked.isOrderly (action : Action) (h : action.IsAsked) : action.IsOrderly := by
  have hpublic := h.isPublic
  have hformed := h.isFormed
  cases action with
  | createRequest =>
    obtain ⟨-, -, ids, rfl, hspelled⟩ := hformed
    refine ⟨hpublic.2.2, fun id hid => ?_⟩
    obtain ⟨known, hknown, heq⟩ := List.mem_map.mp hid
    rw [← IdSpelling.known.inj heq]
    exact hspelled known hknown
  | _ => trivial

/-- **What participations name stays there**, and what they come to name is there. -/
theorem Change.linked {s : Session} {books after : Books} {action : Action} {notes : List Note}
    (h : Change s books action after notes) (hbooks : books.Numbered) (hlinked : books.Linked) :
    after.Linked := by
  have hpersist := h.persist hbooks
  intro p hp
  rcases h.mem_participations hbooks hp with ⟨old, hold, hevent, hlink⟩ | ⟨hhas, hnone⟩
  · obtain ⟨hhas, hrequest⟩ := hlinked old hold
    rw [← hevent]
    refine ⟨hpersist.event hhas, fun id hid => ?_⟩
    rcases hlink with hsame | ⟨q, hq, hlinked⟩
    · obtain ⟨q, hq, hqid⟩ := hrequest id (hsame.symm.trans hid)
      obtain ⟨q', hq', hcontinues⟩ := hpersist.request q hq
      exact ⟨q', hq', hcontinues.id_eq.trans hqid⟩
    · exact ⟨q, hq, Option.some.inj (hlinked.symm.trans hid)⟩
  · refine ⟨hpersist.event hhas, fun id hid => ?_⟩
    rw [hnone] at hid
    cases hid

theorem Database.Reachable.linked {P : Action → Prop} {db : Database} (h : db.Reachable P) :
    db.books.Linked := by
  suffices db.books.Numbered ∧ db.books.Linked from this.2
  refine (h.mono (Q := fun _ => True) fun _ _ => trivial).keeps (fun _ _ => trivial)
    (I := fun books => books.Numbered ∧ books.Linked) ⟨numbered_empty, by simp [Linked]⟩ ?_
  rintro s books action after notes - ⟨hnumbered, hlinked⟩ hchange
  exact ⟨hchange.numbered hnumbered, hchange.linked hnumbered hlinked⟩

theorem Change.anchored {s : Session} {books after : Books} {action : Action} {notes : List Note}
    (h : Change s books action after notes) (horderly : action.IsOrderly) (hbooks : books.Numbered)
    (hanchored : books.Anchored) : after.Anchored where
  rewards := by
    intro r hr
    refine (h.persist hbooks).event ?_
    rcases h.mem_rewards hr with ⟨old, hold, _, _, rfl⟩ | ⟨_, _, event, _, _, -, hevent, rfl, -⟩ |
      ⟨old, hold, _, _, _, _, new, _, -, rfl, -, rfl⟩
    · exact hanchored.rewards old hold
    · exact ⟨event, Table.mem_of_find?_eq_some hevent, rfl⟩
    · exact hanchored.rewards old hold
  participations := h.linked hbooks hanchored.participations
  requests := by
    intro q hq
    have hpersist := h.persist hbooks
    have hkept {old : RewardRequest} (hold : old ∈ books.requests.rows)
        (hcontinues : old.Continues q) : after.events.Has q.eventId ∧ ∃ ids, q.Wants after ids := by
      obtain ⟨hhas, ids, hwants⟩ := hanchored.requests old hold
      have hwants' := hwants.continues hcontinues hpersist
      obtain ⟨_, _, _, _, _, _, rfl⟩ := hcontinues
      exact ⟨hpersist.event hhas, ids, hwants'⟩
    rcases h.mem_requests hbooks hq with hq | ⟨old, hold, move, -, -, -, rfl⟩ | hmakes
    · exact hkept hq (.refl q)
    · exact hkept hold (old.continues_moved _ _ _ _ _)
    · obtain ⟨_, spellings, _, _, _, _, event, rewards, rfl, hadmitted, hfiled⟩ := hmakes
      have hhas : after.events.Has event.id :=
        hpersist.event ⟨event, Table.mem_of_find?_eq_some hadmitted.event_found, rfl⟩
      have hoffered : ∀ id ∈ rewards, after.Offers event.id id := by
        intro id hid
        obtain ⟨reward, hreward, hevent⟩ := hadmitted.rewards_found id hid
        exact hpersist.offers ⟨reward, Table.mem_of_find?_eq_some hreward,
          Table.id_of_find?_eq_some hreward, hevent⟩
      have hspelled : ∀ id ∈ rewards, id.IsSpelled := fun id hid =>
        Id.isSpelled_of_orderedUnique hadmitted.resolved horderly.2 hid
      have hnodup := Id.nodup_of_orderedUnique hadmitted.resolved
      rcases hfiled with rfl | ⟨-, rfl⟩
      · exact ⟨hhas, rewards, ⟨rfl, hnodup, hadmitted.nonempty⟩, hspelled, hoffered⟩
      · exact ⟨hhas, rewards, ⟨rfl, hnodup, hadmitted.nonempty⟩, hspelled, hoffered⟩

theorem Database.Reachable.anchored {db : Database} (h : db.Reachable Action.IsOrderly) :
    db.books.Anchored := by
  suffices db.books.Numbered ∧ db.books.Anchored from this.2
  obtain ⟨ms, hms, rfl⟩ := h
  refine keeps_writes (P := Action.IsOrderly) (Q := fun _ => True)
    (I := fun db => db.books.Numbered ∧ db.books.Anchored) Action.IsAsked.isOrderly ?_
    ⟨numbered_empty, anchored_empty⟩ fun m hm => ⟨hms m hm, trivial⟩
  rintro s db action after horderly - ⟨hnumbered, hanchored⟩ ⟨notes, hchange, -⟩
  exact ⟨hchange.numbered hnumbered, hchange.anchored horderly hnumbered hanchored⟩

end Promotions
