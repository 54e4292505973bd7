import Promotions.Proofs.References

/-!
# Approval at once

An event may approve its reward requests as soon as they are made. This is the same as making the
request and approving it by hand afterwards (`approval_at_once`), and if the approval is refused, it
is the same as making the request alone. An approval of a request that was just made is refused only
if some reward that it wants is out of stock: its rewards exist and are wanted once each, and
nothing was granted for it before.

The two runs that are compared differ in the flag of the event and in the places of their notes.
Both matter to no operation in between, which is said for the relations that list what the
operations write (`Books.Filing.withEvents`, `Books.Moving.withEvents`).
-/

namespace Promotions

namespace Books

/-- The books with another table of events. -/
def withEvents (books : Books) (events : Table Event) : Books := { books with events }

/-! ### Other events -/

section
variable (books : Books) (events : Table Event) (request : RewardRequest) (now : Instant)

theorem linkParticipation_withEvents :
    (books.withEvents events).linkParticipation request now =
      (books.linkParticipation request now).withEvents events := by
  unfold linkParticipation
  rw [show (books.withEvents events).latestParticipation? request.eventId request.userId =
    books.latestParticipation? request.eventId request.userId from rfl]
  split <;> rfl

theorem markRewarded_withEvents :
    (books.withEvents events).markRewarded request now =
      (books.markRewarded request now).withEvents events := by
  unfold markRewarded
  rw [show (books.withEvents events).latestParticipation? request.eventId request.userId =
    books.latestParticipation? request.eventId request.userId from rfl]
  split
  · rfl
  · split <;> rfl

end

section
variable {s s' : Session} {books after : Books} {request : RewardRequest}
  {operator reason : Option String} {now : Instant} {notes : List Note}

theorem Granting.withEvents {ids : List Id} {grants : List Grant}
    (h : Granting s request operator now books ids after grants notes)
    (hstamp : s'.stamp = s.stamp) (events : Table Event) :
    Granting s' request operator now (books.withEvents events) ids (after.withEvents events) grants
      notes := by
  induction h with
  | done books => exact .done _
  | skipped hnone hrest ih => exact .skipped hnone ih
  | granted hreward hstock hcopied hgrant hnew hview hrest ih =>
    refine .granted hreward hstock hcopied hgrant hnew hview ?_
    rw [hstamp]
    exact ih

theorem Moving.withEvents {target : RequestStatus}
    (h : Moving s books request operator reason now target after notes)
    (hstamp : s'.stamp = s.stamp) (events : Table Event) :
    Moving s' (books.withEvents events) request operator reason now target
      (after.withEvents events) notes := by
  cases h with
  | approved hwanted hids hgranting hgrants hnote =>
    rw [← markRewarded_withEvents]
    have hput : Moving s' (books.withEvents events) request operator reason now .approved _ _ :=
      .approved hwanted hids (hgranting.withEvents hstamp events) hgrants hnote
    simp only [putRequest, hstamp] at hput
    exact hput
  | rejected hnote =>
    have hput : Moving s' (books.withEvents events) request operator reason now .rejected _ _ :=
      .rejected hnote
    simp only [putRequest, hstamp] at hput
    exact hput
  | cancelled hnote =>
    have hput : Moving s' (books.withEvents events) request operator reason now .cancelled _ _ :=
      .cancelled hnote
    simp only [putRequest, hstamp] at hput
    exact hput
  | delivered hnote =>
    have hput : Moving s' (books.withEvents events) request operator reason now .issued _ _ :=
      .delivered hnote
    simp only [putRequest, hstamp] at hput
    exact hput

theorem Filing.withEvents {event event' : Event} {rewards : List Id} {userId : String}
    {verificationData : Json}
    (h : Filing s books event rewards userId verificationData now request after notes)
    (hid : event'.id = event.id) (events : Table Event) :
    Filing s (books.withEvents events) event' rewards userId verificationData now request
      (after.withEvents events) notes where
  request_eq := by rw [hid]; exact h.request_eq
  unrivalled := by rw [hid]; exact ⟨h.unrivalled.held, h.unrivalled.listed⟩
  after_eq := by
    rw [hid, h.after_eq, ← linkParticipation_withEvents]
    rfl
  notes_eq := h.notes_eq

end

/-! ### Stock -/

/-- **Every reward of a list is in stock**, where it exists. -/
def InStock (books : Books) (ids : List Id) : Prop :=
  ∀ id ∈ ids, ∀ reward, books.rewards.find? id = some reward →
    reward.issuedQuantity < reward.totalQuantity

section
variable {s : Session} {request : RewardRequest} {operator : Option String} {now : Instant}
  {books after : Books} {ids : List Id}

theorem Granting.inStock {grants : List Grant} {notes : List Note}
    (h : Granting s request operator now books ids after grants notes) : books.InStock ids := by
  induction h with
  | done books => simp [InStock]
  | @skipped books after id rest grants notes hnone hrest ih =>
    intro other hother reward hreward
    rcases List.mem_cons.mp hother with rfl | hother
    · rw [hnone] at hreward
      cases hreward
    · exact ih other hother reward hreward
  | @granted books after id rest grants notes reward copied grant view hreward hstock hcopied hgrant
      hnew hview hrest ih =>
    intro other hother found hfound
    by_cases hsame : other = id
    · rw [hsame, hreward] at hfound
      cases hfound
      exact hstock
    · have hid : grant.rewardId = id := by
        rw [hgrant]
        exact Table.id_of_find?_eq_some hreward
      refine ih other ((List.mem_cons.mp hother).resolve_left hsame) found ?_
      rw [find?_withGrant_of_ne _ _ (by rwa [hid]), hfound]

theorem issueOne_ne_refused {reward : Reward} (hstock : reward.issuedQuantity < reward.totalQuantity)
    (hnew : ∀ g ∈ books.grants.rows, ¬(g.requestId = request.id ∧ g.rewardId = reward.id))
    {refusal : Refusal} :
    books.issueOne s request operator now reward ≠ .error (.refused refusal) := by
  unfold issueOne
  rw [if_neg (Int.not_le.mpr hstock)]
  cases Metadata.copy reward.metadata with
  | error fault => simp [Failure.breakOff]
  | ok copied =>
    dsimp only
    rw [addGrant?_of_new hnew]
    dsimp only
    split
    · next failure hview =>
      intro h
      cases h
      exact orBreakOff_ne_refused hview
    · intro h
      cases h

/-- **Nothing of a list was granted** for a request. -/
def Ungranted (books : Books) (requestId : Id) (ids : List Id) : Prop :=
  ∀ g ∈ books.grants.rows, g.requestId = requestId → g.rewardId ∉ ids

theorem Ungranted.tail {requestId id : Id} (h : books.Ungranted requestId (id :: ids)) :
    books.Ungranted requestId ids :=
  fun g hg hrequest hmem => h g hg hrequest (List.mem_cons_of_mem _ hmem)

theorem Ungranted.new {reward : Reward} (h : books.Ungranted request.id (reward.id :: ids)) :
    ∀ g ∈ books.grants.rows, ¬(g.requestId = request.id ∧ g.rewardId = reward.id) := by
  rintro g hg ⟨hrequest, hreward⟩
  exact h g hg hrequest (by rw [hreward]; exact List.mem_cons_self)

theorem Ungranted.issueOne {reward : Reward} (h : books.Ungranted request.id (reward.id :: ids))
    (hid : reward.id ∉ ids) {first : Outcome Grant}
    (hone : books.issueOne s request operator now reward = .ok first) :
    first.books.Ungranted request.id ids := by
  obtain ⟨-, -, hbooks, copied, view, -, hgrant, -⟩ := issueOne_eq_ok hone
  intro g hg hrequest hmem
  rw [hbooks] at hg
  rcases List.mem_append.mp hg with hg | hg
  · exact h.tail g hg hrequest hmem
  · rw [List.mem_singleton.mp hg, hgrant] at hmem
    exact hid hmem

/-- **Issuing is not refused** if the rewards are in stock, are there once each, and were not
granted to the request before. -/
theorem issueEach_ne_refused (hnodup : ids.Nodup) (hstock : books.InStock ids)
    (hnew : books.Ungranted request.id ids) {refusal : Refusal} :
    issueEach s request operator now books ids ≠ .error (.refused refusal) := by
  induction ids generalizing books with
  | nil => simp [issueEach]
  | cons id rest ih =>
    obtain ⟨hid, hrest⟩ := List.nodup_cons.mp hnodup
    rw [issueEach]
    cases hreward : books.rewards.find? id with
    | none => exact ih hrest (fun other hother => hstock other (List.mem_cons_of_mem _ hother)) hnew.tail
    | some reward =>
      obtain rfl : reward.id = id := Table.id_of_find?_eq_some hreward
      dsimp only
      split
      · next failure hone =>
        intro h
        cases h
        exact issueOne_ne_refused (hstock _ List.mem_cons_self reward hreward) hnew.new hone
      · next first hone =>
        obtain ⟨-, -, hbooks, copied, view, -, hgrant, -⟩ := issueOne_eq_ok hone
        have hgranted : first.answer.rewardId = reward.id := by rw [hgrant]; rfl
        -- the grant leaves the other rewards in stock
        have hothers : first.books.InStock rest := by
          intro other hother found hfound
          have hne : other ≠ first.answer.rewardId := by
            rw [hgranted]
            exact fun heq => hid (heq ▸ hother)
          rw [hbooks, find?_withGrant_of_ne _ _ hne] at hfound
          exact hstock other (List.mem_cons_of_mem _ hother) found hfound
        split
        · next failure hrefused =>
          intro h
          cases h
          exact ih hrest hothers (hnew.issueOne hid hone) hrefused
        · intro h
          cases h

end

/-! ### The approval of a request that was just filed -/

theorem requestMoved_ne_refused {logType : LogType} {operator : Option String}
    {old new : RewardRequest} {more : List (String × Json)} {refusal : Refusal} :
    requestMoved logType operator old new more ≠ .error (.refused refusal) := by
  unfold requestMoved
  split
  · next failure hfirst =>
    intro h
    cases h
    exact orBreakOff_ne_refused hfirst
  · split
    · next failure hitems =>
      intro h
      cases h
      exact orBreakOff_ne_refused hitems
    · exact nofun

section
variable {s : Session} {books : Books} {request : RewardRequest} {rewards : List Id}
  {refusal : Refusal}
  (hspells : request.Spells rewards) (hstock : books.InStock rewards)
  (hfound : ∀ id ∈ rewards, (books.rewards.find? id).isSome = true)
  (hnew : books.Ungranted request.id rewards)
include hspells hstock hfound hnew

theorem issueRequest_ne_refused (operator : Option String) (now : Instant) :
    books.issueRequest s request operator now ≠ .error (.refused refusal) := by
  unfold issueRequest
  split
  · exact nofun
  · next ids hids =>
    obtain rfl := hspells.wanted_eq hids
    rw [if_neg (by simpa using hspells.nonempty)]
    split
    · next failure hrefused =>
      intro h
      cases h
      exact issueEach_ne_refused hspells.nodup hstock hnew hrefused
    · next issued hissued =>
      have hall := (issueEach_eq_ok hissued).rewardIds_eq hfound
      rw [if_neg]
      · exact nofun
      · intro hempty
        rw [List.isEmpty_iff.mp hempty] at hall
        exact hspells.nonempty hall.symm

theorem approveRequest_ne_refused (operator : Option String) (now : Instant) :
    books.approveRequest s request operator now ≠ .error (.refused refusal) := by
  unfold approveRequest
  split
  · next failure hrefused =>
    intro h
    cases h
    exact issueRequest_ne_refused hspells hstock hfound hnew operator now hrefused
  · dsimp only
    split
    · next failure hrefused =>
      intro h
      cases h
      exact requestMoved_ne_refused hrefused
    · exact nofun

end

section
variable {s : Session} {books filed : Books} {event : Event} {rewards : List Id} {userId : String}
  {verificationData : Json} {now : Instant} {request : RewardRequest} {notes : List Note}
  (h : Filing s books event rewards userId verificationData now request filed notes)
include h

theorem Filing.exists_claim {id : Id} (hid : id ∈ rewards) :
    ∃ c ∈ filed.claims, c.IsOf request ∧ c.rewardId = id := by
  have hrequest := h.request_eq
  obtain ⟨participations, -, rfl⟩ := h.exists_eq
  refine ⟨{ requestId := request.id, eventId := event.id, userId, rewardId := id
            createdAt := s.stamp }, ?_, ?_, rfl⟩
  · exact List.mem_append_right _ (List.mem_map_of_mem hid)
  · exact ⟨rfl, by rw [hrequest]; rfl, by rw [hrequest]; rfl⟩

theorem Filing.ungranted (hbooks : books.Numbered) (hreferred : books.Referred) (ids : List Id) :
    filed.Ungranted request.id ids := by
  intro g hg hrequest
  rw [h.stock_eq.2] at hg
  obtain ⟨q, hq, hof, -⟩ := hreferred g hg
  refine absurd ?_ (hbooks.requests.id_ne_nextId hq)
  rw [← h.id_eq, ← hrequest]
  exact hof.requestId_eq.symm

/-- **The approval of a request that was just filed** is refused only if a reward is out
of stock. -/
theorem Filing.inStock_of_refused (hbooks : books.Numbered) (hreferred : books.Referred)
    (hnodup : rewards.Nodup) (hnonempty : rewards ≠ [])
    (hfound : ∀ id ∈ rewards, (books.rewards.find? id).isSome = true)
    {operator : Option String} {later : Instant} {refusal : Refusal}
    (hrefused : filed.transition s request.id .approved operator none later =
      .error (.refused refusal)) : ¬books.InStock rewards := by
  intro hstock
  rw [transition_eq_approveRequest (h.find?_eq hbooks) h.status_eq] at hrefused
  have hrewards := h.stock_eq.1
  refine approveRequest_ne_refused (h.spells hnodup hnonempty) ?_ ?_
    (h.ungranted hbooks hreferred rewards) operator later hrefused
  · rw [InStock, hrewards]
    exact hstock
  · rw [hrewards]
    exact hfound

theorem Filing.inStock_of_moving (hnodup : rewards.Nodup) (hnonempty : rewards ≠ [])
    {after : Books} {operator : Option String} {later : Instant} {more : List Note}
    (hmoving : Moving s filed request operator none later .approved after more) :
    books.InStock rewards := by
  obtain ⟨ids, issued, grants, granted, hwanted, hgranting, -⟩ := hmoving.exists_granting
  have hread : ids = rewards := (h.spells hnodup hnonempty).wanted_eq hwanted
  have hstock := hgranting.inStock
  rw [InStock, h.stock_eq.1, hread] at hstock
  exact hstock

/-- **What approving at once comes to**: the approval, if the rewards are in stock, and otherwise
the request as it was filed. -/
theorem Filing.approveAtOnce_eq_ok (hbooks : books.Numbered) (hreferred : books.Referred)
    (hnodup : rewards.Nodup) (hnonempty : rewards ≠ [])
    (hfound : ∀ id ∈ rewards, (books.rewards.find? id).isSome = true) {o : Outcome RewardRequest}
    (hok : approveAtOnce s { answer := request, books := filed, notes } = .ok o) :
    (books.InStock rewards ∧ ∃ after more,
      Moving s filed request (some s.systemOperator) none s.clock .approved after more ∧
        o =
          { answer :=
              { request.approved (some s.systemOperator) s.clock with updatedAt := some s.stamp }
            books := after
            notes := notes ++ more }) ∨
      ¬books.InStock rewards ∧ o = { answer := request, books := filed, notes } := by
  have hpending := h.status_eq
  have hfiled := h.find?_eq hbooks
  unfold approveAtOnce at hok
  split at hok
  · next approved happroved =>
    obtain ⟨q, hq, hmoved⟩ := transition_eq_ok happroved
    cases Option.some.inj (hfiled.symm.trans hq)
    rcases hmoved with ⟨hstatus, -⟩ | ⟨-, hmoving⟩
    · rw [hpending] at hstatus
      cases hstatus
    · have hanswer := hmoving.transition_eq hfiled hpending
      rw [happroved] at hanswer
      refine Or.inl ⟨h.inStock_of_moving hnodup hnonempty hmoving, _, _, hmoving, ?_⟩
      rw [← Except.ok.inj hok, Except.ok.inj hanswer]
  · next refusal hrefused =>
    exact Or.inr ⟨h.inStock_of_refused hbooks hreferred hnodup hnonempty hfound hrefused,
      (Except.ok.inj hok).symm⟩
  · cases hok

end

end Books

open Books

/-! ### Two ways to the same tables -/

namespace Table

theorem recordFrom_add (clock : Instant) (accepts : Nat → Bool) (index k : Nat)
    (journal : Table LogEntry) (notes : List Note) :
    recordFrom clock accepts (index + k) journal notes =
      recordFrom clock (fun i => accepts (i + k)) index journal notes := by
  induction notes generalizing index journal with
  | nil => rfl
  | cons note rest ih =>
    rw [recordFrom, recordFrom, ← ih (index + 1), Nat.add_right_comm]

/-- Notes that come after others have later positions. -/
theorem recordFrom_append (clock : Instant) (accepts : Nat → Bool) (index : Nat)
    (journal : Table LogEntry) (notes more : List Note) :
    recordFrom clock accepts index journal (notes ++ more) =
      recordFrom clock accepts (index + notes.length)
        (recordFrom clock accepts index journal notes) more := by
  induction notes generalizing index journal with
  | nil => rfl
  | cons note rest ih =>
    rw [List.cons_append, recordFrom, recordFrom, ih, List.length_cons, Nat.add_right_comm,
      Nat.add_assoc]

end Table

theorem Raced.withEvents {books raced : Books} {rival : Option Claim} (h : Raced books rival raced)
    (events : Table Event) : Raced (books.withEvents events) rival (raced.withEvents events) := by
  cases rival with
  | none =>
    cases h
    rfl
  | some claim =>
    obtain ⟨rfl, hheld⟩ := addClaim?_eq_some h
    exact addClaim?_of_new hheld

theorem Raced.referred {books raced : Books} {rival : Option Claim} (h : Raced books rival raced)
    (hbooks : books.Referred) : raced.Referred := by
  obtain ⟨claims, rfl⟩ := h.exists_eq
  exact hbooks

namespace Event

/-- The event, which approves nothing by itself. -/
def byHand (e : Event) : Event := { e with autoReward := false }

end Event

namespace Database

/-- The database in which an event approves nothing by itself. -/
def byHand (db : Database) (eventId : Id) : Database :=
  { db with books := db.books.withEvents (db.books.events.modify eventId Event.byHand) }

end Database

theorem Books.Admitted.byHand {books : Books} {eventId : Id} {spellings : List IdSpelling}
    {userId : String} {verificationData : Json} {now : Instant} {event : Event} {rewards : List Id}
    (h : Admitted books eventId spellings userId verificationData now event rewards) :
    Admitted (books.withEvents (books.events.modify eventId Event.byHand)) eventId spellings userId
      verificationData now event.byHand rewards where
  event_found := by
    have hid : Row.id event = eventId := Table.id_of_find?_eq_some h.event_found
    have hmodify : (books.events.modify eventId Event.byHand).find? eventId = _ :=
      Table.find?_modify fun (_ : Event) (hid : _ = eventId) => hid
    rw [h.event_found, Option.map_some, if_pos hid] at hmodify
    exact hmodify
  resolved := h.resolved
  nonempty := h.nonempty
  rewards_found := h.rewards_found
  active := h.active
  admits := h.admits
  unclaimed := h.unclaimed

/-- The session of an operation whose notes come after those of another one. -/
def Session.afterNotes (s : Session) (k : Nat) : Session :=
  { s with journalAccepts := fun i => s.journalAccepts (i + k) }

/-- **Approval at once is making a request and approving it by hand.** Let an event approve requests
at once, and let a request be made. The same request can be made while the event approves nothing by
itself. If every wanted reward is in stock, its approval by the system then leads to the same
tables, but for the flag of the event. Otherwise the same tables are there without an approval: the
request is pending and holds its claims, and it left its own note only. -/
theorem approval_at_once {db : Database} (h : db.Reachable fun _ => True) {s : Session} {eventId : Id}
    {spellings : List IdSpelling} {userId : String} {verificationData : Json}
    {now : Option Instant} {rival : Option Claim} {event : Event}
    (hevent : db.books.events.find? eventId = some event) (hauto : event.autoReward = true)
    {reply : Reply} {after : Database}
    (hperform : (Action.createRequest eventId spellings userId verificationData now rival).perform s
      db = .ok (reply, after)) :
    ∃ rewards request filed, Id.orderedUnique spellings = .ok rewards ∧
      (Action.createRequest eventId spellings userId verificationData now rival).perform s
        (db.byHand eventId) = .ok (.request request, filed) ∧
      (db.books.InStock rewards →
        (Action.transition request.id .approved (some s.systemOperator) none none).perform
          (s.afterNotes 1) filed = .ok (reply, after.byHand eventId)) ∧
      (¬db.books.InStock rewards →
        after.byHand eventId = filed ∧ reply = .request request ∧ request.status = .pending ∧
          after.books.requests = db.books.requests.push request ∧
          (∀ id ∈ rewards, ∃ c ∈ after.books.claims, c.IsOf request ∧ c.rewardId = id) ∧
          after.books.rewards = db.books.rewards ∧ after.books.grants = db.books.grants ∧
          ∃ note : Note, note.logType = .rewardRequested ∧
            after.journal = db.journal.recordFrom s.clock s.journalAccepts 0 [note]) := by
  simp only [Action.perform, Action.settle] at hperform
  split at hperform
  · next o hcreate =>
    cases Except.ok.inj hperform
    obtain ⟨found, rewards, raced, filed, hadmitted, hraced, hfiling, hrest⟩ :=
      createRequest_eq_ok hcreate
    have hsame : found = event := Option.some.inj (hadmitted.event_found.symm.trans hevent)
    subst hsame
    rw [if_pos hauto] at hrest
    have hnodup := Id.nodup_of_orderedUnique hadmitted.resolved
    have hexist : ∀ id ∈ rewards, (raced.rewards.find? id).isSome = true := by
      intro id hid
      obtain ⟨reward, hreward, -⟩ := hadmitted.rewards_found id hid
      rw [hraced.rewards_eq, hreward]
      rfl
    have hnumbered := hraced.numbered h.numbered
    have hevents : filed.books.events = db.books.events := hfiling.events_eq.trans hraced.events_eq
    have hstock : raced.InStock rewards ↔ db.books.InStock rewards := by
      rw [InStock, InStock, hraced.rewards_eq]
    -- the same request is made by hand, with the same outcome but for the event
    let events := db.books.events.modify eventId Event.byHand
    have hcreate' := (hfiling.withEvents (rfl : found.byHand.id = found.id) events).createRequest_eq
      (hraced.withEvents events) hadmitted.byHand
    refine ⟨rewards, filed.answer, (db.byHand eventId).commit s
      { filed with books := filed.books.withEvents events }, hadmitted.resolved, ?_, ?_, ?_⟩
    · simp only [Action.perform, Action.settle, Database.byHand]
      rw [hcreate']
      rfl
    · intro hinStock
      rcases hfiling.approveAtOnce_eq_ok hnumbered (hraced.referred h.referred) hnodup
        hadmitted.nonempty hexist hrest with ⟨-, approved, more, hmoving, rfl⟩ | ⟨hnot, -⟩
      · have hmoving' := hmoving.withEvents (rfl : (s.afterNotes 1).stamp = s.stamp) events
        have happroved := hmoving'.transition_eq (hfiling.find?_eq hnumbered) hfiling.status_eq
        have hkept : approved.events = db.books.events := hmoving.events_eq.trans hevents
        have hjournal :=
          Table.recordFrom_append s.clock s.journalAccepts 0 db.journal filed.notes more
        rw [hfiling.notes_eq, List.length_singleton, Table.recordFrom_add] at hjournal
        unfold Action.perform Action.settle
        dsimp only [Database.commit, Option.getD_none]
        rw [show (s.afterNotes 1).clock = s.clock from rfl, happroved]
        dsimp only [Database.byHand]
        rw [hkept, hfiling.notes_eq, hjournal]
        rfl
      · exact absurd (hstock.mpr hinStock) hnot
    · intro hout
      rcases hfiling.approveAtOnce_eq_ok hnumbered (hraced.referred h.referred) hnodup
        hadmitted.nonempty hexist hrest with ⟨hinStock, -⟩ | ⟨-, rfl⟩
      · exact absurd (hstock.mp hinStock) hout
      · refine ⟨?_, rfl, hfiling.status_eq, ?_, fun id hid => hfiling.exists_claim hid, ?_, ?_, ?_⟩
        · dsimp only [Database.byHand, Database.commit]
          rw [hevents]
        · exact hfiling.requests_eq.trans (by rw [hraced.requests_eq])
        · exact hfiling.stock_eq.1.trans hraced.rewards_eq
        · exact hfiling.stock_eq.2.trans hraced.grants_eq
        · exact ⟨_, rfl, by rw [← hfiling.notes_eq]; rfl⟩
  · cases hperform

/-- A run that makes an event which approves at once, a reward of which one piece is there, and one
of which there is none. -/
def approvingRun : List Moment :=
  let event : EventDraft :=
    { title := "Spring", description := "", startDate := ⟨⟨0⟩, none⟩, endDate := ⟨⟨9000000⟩, none⟩
      status := .active, conditionType := .attendance, conditionValue := .empty
      autoReward := true, allowMultiple := false, maxParticipants := none }
  let badge : RewardDraft :=
    { eventId := ({} : Table Event).nextId, name := "Badge", description := none, type := .badge
      value := "gold", metadata := none, totalQuantity := 1, expiryDate := none }
  [⟨{ clock := ⟨1000000⟩ }, .call (.createEvent event "admin")⟩,
    ⟨{ clock := ⟨2000000⟩ }, .call (.createReward badge "admin")⟩,
    ⟨{ clock := ⟨3000000⟩ }, .call (.createReward { badge with totalQuantity := 0 } "admin")⟩]

/-- After `approvingRun`, a user asks for the first reward, or for both. -/
def askingFor (both : Bool) : Action :=
  let first := ({} : Table Reward).nextId
  .createRequest ({} : Table Event).nextId
    (if both then [.known first, .known ⟨first.val + 1⟩] else [.known first]) "ann" .empty none none

/-- The first reward is granted at once as it would be by hand; both together are not, although the
first one is there. -/
theorem approval_at_once_approvingRun :
    let db := Database.empty.after approvingRun
    let s : Session := { clock := ⟨4000000⟩ }
    let eventId := ({} : Table Event).nextId
    (∃ reply after request filed, (askingFor false).perform s db = .ok (reply, after) ∧
      (askingFor false).perform s (db.byHand eventId) = .ok (.request request, filed) ∧
        (Action.transition request.id .approved (some s.systemOperator) none none).perform
          (s.afterNotes 1) filed = .ok (reply, after.byHand eventId)) ∧
    ∃ reply after request, (askingFor true).perform s db = .ok (reply, after) ∧
      (askingFor true).perform s (db.byHand eventId) = .ok (.request request, after.byHand eventId) ∧
        request.status = .pending ∧ after.books.grants = db.books.grants := by
  intro db s eventId
  have hreachable : db.Reachable fun _ => True := ⟨approvingRun, fun _ _ _ _ => trivial, rfl⟩
  obtain ⟨event, hevent⟩ :=
    Option.isSome_iff_exists.mp (by decide +kernel : (db.books.events.find? eventId).isSome = true)
  have hauto : event.autoReward = true :=
    List.all_eq_true.mp (by decide +kernel : db.books.events.rows.all Event.autoReward = true) event
      (Table.mem_of_find?_eq_some hevent)
  have hok : ∀ both, ((askingFor both).perform s db).isOk = true := by decide +kernel
  constructor
  · cases hperform : (askingFor false).perform s db with
    | error failure => exact absurd (hperform ▸ hok false) nofun
    | ok result =>
      obtain ⟨rewards, request, filed, hrewards, hfiled, happroved, -⟩ :=
        approval_at_once hreachable hevent hauto hperform
      refine ⟨_, _, request, filed, rfl, hfiled, happroved fun id hid reward hreward => ?_⟩
      cases hrewards
      have hstock : (db.books.rewards.find? ({} : Table Reward).nextId).all (fun r =>
        r.issuedQuantity < r.totalQuantity) = true := by decide +kernel
      rw [← List.mem_singleton.mp hid, hreward] at hstock
      exact of_decide_eq_true hstock
  · cases hperform : (askingFor true).perform s db with
    | error failure => exact absurd (hperform ▸ hok true) nofun
    | ok result =>
      obtain ⟨rewards, request, filed, hrewards, hfiled, -, hpending⟩ :=
        approval_at_once hreachable hevent hauto hperform
      obtain ⟨heq, -, hstatus, -, -, -, hgrants, -⟩ := hpending fun hstock => by
        cases hrewards
        let second : Id := ⟨({} : Table Reward).nextId.val + 1⟩
        obtain ⟨reward, hreward⟩ := Option.isSome_iff_exists.mp
          (by decide +kernel : (db.books.rewards.find? second).isSome = true)
        have hout : (db.books.rewards.find? second).all (fun r =>
          r.totalQuantity ≤ r.issuedQuantity) = true := by decide +kernel
        rw [hreward] at hout
        exact absurd (hstock second (by decide) reward hreward)
          (Int.not_lt.mpr (of_decide_eq_true hout))
      exact ⟨_, _, request, rfl, heq ▸ hfiled, hstatus, hgrants⟩

end Promotions
