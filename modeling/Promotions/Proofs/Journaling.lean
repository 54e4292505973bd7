import Promotions.Proofs.InPlace
import Promotions.Proofs.Ledger

/-!
# The journal decides nothing

What happens at a moment does not depend on the journal, neither on what it holds nor on which of
the new entries it accepts. The answer and the tables of the books are the same in any case, and the
journal takes up the entries that it accepts, out of a list that is the same in any case, too
(`Moment.aside`). Only two actions are about the journal itself: the one that lists it, and the one
that writes an entry and nothing else.

An action comes to the outcome of some operation on the books (`Action.exists_outcome`), which sees
neither the journal nor what it accepts. That entries are written in the middle of the operations,
in savepoints, and that a write may fail in any way, makes no difference
(`Action.transact_inPlace`).
-/

namespace Promotions

/-- The session with a journal that accepts what is said. -/
def Session.accepting (s : Session) (accepts : Nat → Bool) : Session :=
  { s with journalAccepts := accepts }

namespace Books

/-! ### Operations do not see what the journal accepts -/

section Accepting
variable (s : Session) (accepts : Nat → Bool) (books : Books) (request : RewardRequest)
  (operator : Option String) (now : Instant)

theorem issueEach_accepting (ids : List Id) :
    issueEach (s.accepting accepts) request operator now books ids =
      issueEach s request operator now books ids := by
  induction ids generalizing books with
  | nil => rfl
  | cons id rest ih =>
    have hone (reward : Reward) :
        books.issueOne (s.accepting accepts) request operator now reward =
          books.issueOne s request operator now reward := rfl
    simp only [issueEach, hone, ih]

theorem issueRequest_accepting :
    books.issueRequest (s.accepting accepts) request operator now =
      books.issueRequest s request operator now := by
  simp only [issueRequest, issueEach_accepting]

theorem issue_accepting (id : Id) :
    books.issue (s.accepting accepts) id operator now = books.issue s id operator now := by
  simp only [issue, issueRequest_accepting]

theorem approveRequest_accepting :
    books.approveRequest (s.accepting accepts) request operator now =
      books.approveRequest s request operator now := by
  unfold approveRequest
  rw [issueRequest_accepting]
  rfl

theorem moveRequest_accepting (target : RequestStatus) (reason : Option String) :
    books.moveRequest (s.accepting accepts) request target operator reason now =
      books.moveRequest s request target operator reason now := by
  cases target with
  | approved => exact approveRequest_accepting s accepts books request operator now
  | pending | rejected | cancelled | issued | unlisted => rfl

theorem transition_accepting (id : Id) (target : RequestStatus) (reason : Option String) :
    books.transition (s.accepting accepts) id target operator reason now =
      books.transition s id target operator reason now := by
  simp only [transition, moveRequest_accepting]

theorem cancelRequest_accepting (id : Id) (userId : String) :
    books.cancelRequest (s.accepting accepts) id userId = books.cancelRequest s id userId := by
  unfold cancelRequest
  simp only [transition_accepting]
  rfl

theorem approveAtOnce_accepting (filed : Outcome RewardRequest) :
    approveAtOnce (s.accepting accepts) filed = approveAtOnce s filed := by
  unfold approveAtOnce
  rw [transition_accepting]
  rfl

theorem createRequest_accepting (eventId : Id) (spellings : List IdSpelling) (userId : String)
    (verificationData : Json) (rival : Option Claim) :
    books.createRequest (s.accepting accepts) eventId spellings userId verificationData now rival =
      books.createRequest s eventId spellings userId verificationData now rival := by
  have hwrite (raced : Books) (event : Event) (rewards : List Id) :
      raced.writeRequest (s.accepting accepts) event rewards userId verificationData now =
        raced.writeRequest s event rewards userId verificationData now := rfl
  simp only [createRequest, fileRequest, approveAtOnce_accepting, hwrite]

end Accepting

end Books

/-! ### Actions do not see the journal -/

namespace Action

/-- The action is about the journal itself: it lists it, or it writes an entry and nothing else. -/
def isOfJournal : Action → Bool
  | record _ | findLogs _ => true
  | _ => false

section Outcomes
variable {s : Session} {books : Books} {action : Action} {α : Type}

theorem exists_outcome_of_settle (reply : α → Reply) (result : Except Failure (Outcome α))
    (h : ∀ accepts journal, action.perform (s.accepting accepts) { books, journal } =
      settle (s.accepting accepts) { books, journal } reply result) :
    ∃ result' : Except Failure (Outcome Reply), ∀ accepts journal,
      action.perform (s.accepting accepts) { books, journal } =
        settle (s.accepting accepts) { books, journal } id result' := by
  refine ⟨result.map fun o =>
    { answer := reply o.answer, books := o.books, notes := o.notes }, fun accepts journal => ?_⟩
  rw [h]
  cases result with
  | error failure => rfl
  | ok o => rfl

theorem exists_outcome_of_found (reply : α → Reply) (result : Except Failure α)
    (h : ∀ accepts journal, action.perform (s.accepting accepts) { books, journal } =
      found { books, journal } reply result) :
    ∃ result' : Except Failure (Outcome Reply), ∀ accepts journal,
      action.perform (s.accepting accepts) { books, journal } =
        settle (s.accepting accepts) { books, journal } id result' := by
  refine ⟨result.map fun a => { answer := reply a, books }, fun accepts journal => ?_⟩
  rw [h]
  cases result with
  | error failure => rfl
  | ok a => rfl

end Outcomes

open Books in
/-- **An action comes to an outcome** that depends neither on what the journal holds nor on what it
accepts. -/
theorem exists_outcome (s : Session) (books : Books) {action : Action}
    (haction : action.isOfJournal = false) :
    ∃ result : Except Failure (Outcome Reply), ∀ accepts journal,
      action.perform (s.accepting accepts) { books, journal } =
        settle (s.accepting accepts) { books, journal } id result := by
  cases action with
  | createEvent draft actor =>
    exact exists_outcome_of_settle .event (books.createEvent s draft actor) fun _ _ => rfl
  | updateEvent id patch actor =>
    exact exists_outcome_of_settle .event (books.updateEvent s id patch actor) fun _ _ => rfl
  | createReward draft actor =>
    exact exists_outcome_of_settle .reward (books.createReward s draft actor) fun _ _ => rfl
  | updateReward id patch actor =>
    exact exists_outcome_of_settle .reward (books.updateReward s id patch actor) fun _ _ => rfl
  | participate eventId userId verificationData additionalData now =>
    exact exists_outcome_of_settle (.participation ∘ some) (books.participate s eventId userId
      verificationData additionalData (now.getD s.clock)) fun _ _ => rfl
  | createRequest eventId rewards userId verificationData now rival =>
    exact exists_outcome_of_settle .request _ fun accepts _ => congrArg (settle _ _ .request)
      (createRequest_accepting s accepts books (now.getD s.clock) eventId rewards userId
        verificationData rival)
  | transition id target operator reason now =>
    exact exists_outcome_of_settle .request _ fun accepts _ => congrArg (settle _ _ .request)
      (transition_accepting s accepts books operator (now.getD s.clock) id target reason)
  | cancelRequest id userId =>
    exact exists_outcome_of_settle .request _ fun accepts _ => congrArg (settle _ _ .request)
      (cancelRequest_accepting s accepts books id userId)
  | issue id operator now =>
    exact exists_outcome_of_settle .grants _ fun accepts _ => congrArg (settle _ _ .grants)
      (issue_accepting s accepts books operator (now.getD s.clock) id)
  | useGrant id userId now =>
    exact exists_outcome_of_settle .grant (books.useGrant id userId (now.getD s.clock)) fun _ _ => rfl
  | expireGrants now =>
    exact exists_outcome_of_settle .count (.ok (books.expireGrants (now.getD s.clock))) fun _ _ => rfl
  | record | findLogs => cases haction
  | findEvent id => exact exists_outcome_of_found .event (books.findEvent id) fun _ _ => rfl
  | findReward id => exact exists_outcome_of_found .reward (books.findReward id) fun _ _ => rfl
  | findRewardsOfEvent eventId =>
    exact exists_outcome_of_found .rewards ((books.findEvent eventId).map fun event =>
      books.findRewardsOf event.id) fun _ _ => rfl
  | statistics eventId =>
    exact exists_outcome_of_found .statistics (books.statistics s eventId) fun _ _ => rfl
  | findRequest id => exact exists_outcome_of_found .request (books.findRequest id) fun _ _ => rfl
  | findGrantsOfRequest requestId =>
    exact exists_outcome_of_found .grants ((books.findRequest requestId).map fun request =>
      books.findGrantsOfRequest request.id) fun _ _ => rfl
  | findGrant id => exact exists_outcome_of_found .grant (books.findGrant id) fun _ _ => rfl
  | verify eventId userId proof now =>
    exact exists_outcome_of_found .truth ((books.findEvent eventId).map fun event =>
      event.admits proof (now.getD s.clock)) fun _ _ => rfl
  | findEvents chosen =>
    exact exists_outcome_of_found .events (.ok (books.findEvents chosen)) fun _ _ => rfl
  | findActiveEvents now =>
    exact exists_outcome_of_found .events (.ok (books.findActiveEvents (now.getD s.clock)))
      fun _ _ => rfl
  | findRewardsNaming eventId =>
    exact exists_outcome_of_found .rewards (.ok (books.findRewardsOf eventId)) fun _ _ => rfl
  | findParticipationsOfEvent eventId =>
    exact exists_outcome_of_found .participations (.ok (books.findParticipationsOfEvent eventId))
      fun _ _ => rfl
  | findParticipationsOfUser userId =>
    exact exists_outcome_of_found .participations (.ok (books.findParticipationsOfUser userId))
      fun _ _ => rfl
  | findLatestParticipation eventId userId =>
    exact exists_outcome_of_found .participation (.ok (books.latestParticipation? eventId userId))
      fun _ _ => rfl
  | findRequests chosen =>
    exact exists_outcome_of_found .requests (.ok (books.findRequests chosen)) fun _ _ => rfl
  | findRequestsOfUser userId =>
    exact exists_outcome_of_found .requests (.ok (books.findRequestsOfUser userId)) fun _ _ => rfl
  | findGrantsNaming requestId =>
    exact exists_outcome_of_found .grants (.ok (books.findGrantsOfRequest requestId)) fun _ _ => rfl
  | findGrantsOfUser userId =>
    exact exists_outcome_of_found .grants (.ok (books.findGrantsOfUser userId)) fun _ _ => rfl

end Action

/-! ### Moments do not see the journal -/

/-- What is answered at a moment. -/
inductive Hearing where
  | response (answer : Web.Answer)
  | result (result : CommandResult)
  | ran (event : SchedulerEvent)
  | reply (result : Except Failure Reply)

namespace Moment

/-- The moment with a journal that accepts what is said. -/
def accepting (m : Moment) (accepts : Nat → Bool) : Moment :=
  { m with session := m.session.accepting accepts }

/-- What the moment answers. -/
def heard (m : Moment) (db : Database) : Hearing :=
  match m.step with
  | .request r => .response (Web.handle m.session db r).1
  | .command name payload => .result (Command.run m.session db name payload).1
  | .run works => .ran (Scheduler.runOnce works db m.session.clock).1
  | .call action => .reply ((action.perform m.session db).map Prod.fst)

end Moment

theorem Reply.reread_eq (books : Books) (journal journal' : Table LogEntry) (reply : Reply) :
    reply.reread { books, journal } = reply.reread { books, journal := journal' } := by
  cases reply with
  | participation p => cases p <;> rfl
  | _ => rfl

/-- A result and a database depend on the journal only in that the journal takes up the notes of a
list, as far as it accepts them. -/
def Aside {α : Type} (clock : Instant) (f : (Nat → Bool) → Table LogEntry → α × Database) : Prop :=
  ∃ (answer : α) (after : Books) (notes : List Note), ∀ accepts journal,
    f accepts journal =
      (answer, { books := after, journal := journal.recordFrom clock accepts 0 notes })

section Aside
variable (s : Session) (books : Books)

theorem Aside.const {α : Type} (clock : Instant) (answer : α) :
    Aside clock fun _ journal => (answer, { books, journal }) :=
  ⟨answer, books, [], fun _ _ => rfl⟩

theorem Aside.map {α β : Type} {clock : Instant}
    {f : (Nat → Bool) → Table LogEntry → α × Database} (h : Aside clock f) (g : α → β) :
    Aside clock fun accepts journal => (g (f accepts journal).1, (f accepts journal).2) := by
  obtain ⟨answer, after, notes, heq⟩ := h
  exact ⟨g answer, after, notes, fun accepts journal => by simp only [heq]⟩

section
variable {action : Action} (haction : action.isOfJournal = false)
include haction

theorem aside_perform :
    Aside s.clock fun accepts journal =>
      match action.perform (s.accepting accepts) { books, journal } with
      | .ok (reply, after) => (Except.ok reply, after)
      | .error failure => (Except.error failure, { books, journal }) := by
  obtain ⟨result, hresult⟩ := action.exists_outcome s books haction
  simp only [hresult]
  cases result with
  | error failure => exact .const books s.clock (Except.error failure)
  | ok o => exact ⟨Except.ok o.answer, o.books, o.notes, fun _ _ => rfl⟩

theorem aside_answerAction (status : Nat) :
    Aside s.clock fun accepts journal =>
      Web.answerAction (s.accepting accepts) { books, journal } status action := by
  obtain ⟨result, hresult⟩ := action.exists_outcome s books haction
  unfold Web.answerAction
  simp only [hresult]
  cases result with
  | error failure =>
    cases failure with
    | refused refusal => exact .const books s.clock _
    | fault fault => exact .const books s.clock _
  | ok o =>
    -- the row is read again from the new books, whatever the journal has become
    have hreread (accepts : Nat → Bool) (journal : Table LogEntry) :
        o.answer.reread (Database.commit { books, journal } (s.accepting accepts) o) =
          o.answer.reread { books := o.books } := Reply.reread_eq _ _ _ _
    simp only [Action.settle, id, hreread]
    cases Web.bodyOf (o.answer.reread { books := o.books }) with
    | ok body => exact ⟨_, o.books, o.notes, fun _ _ => rfl⟩
    | error fault => cases fault <;> exact ⟨_, o.books, o.notes, fun _ _ => rfl⟩

end

theorem aside_run (name : String) (payload : List (String × Json))
    (hasked : ∀ action, Command.asked? name payload = some action → action.isOfJournal = false) :
    Aside s.clock fun accepts journal =>
      Command.run (s.accepting accepts) { books, journal } name payload := by
  unfold Command.run
  cases haction : Command.action? name payload with
  | none => exact .const books _ _
  | some checked =>
    cases checked with
    | error issues => exact .const books _ _
    | ok action =>
      have hasked : action.isOfJournal = false := hasked action (by rw [Command.asked?, haction])
      obtain ⟨result, hresult⟩ := action.exists_outcome s books hasked
      simp only [hresult]
      cases result with
      | error failure =>
        cases failure with
        | refused refusal => exact .const books _ _
        | fault fault => cases fault <;> exact .const books _ _
      | ok o =>
        -- what cannot be shown is undone, what cannot be written out is not
        simp only [Action.settle, id]
        cases o.answer.shown with
        | ok data => exact ⟨_, o.books, o.notes, fun _ _ => rfl⟩
        | error fault =>
          cases fault <;> first
            | exact .const books _ _
            | exact ⟨_, o.books, o.notes, fun _ _ => rfl⟩

theorem aside_handle (r : Web.Request)
    (hasked : ∀ action, Web.asked? r = some action → action.isOfJournal = false) :
    Aside s.clock fun accepts journal => Web.handle (s.accepting accepts) { books, journal } r := by
  unfold Web.handle
  cases hendpoint : Endpoint.find r.method r.path with
  | error fault => exact .const books _ _
  | ok endpoint =>
    dsimp only
    cases htask : Web.task r endpoint with
    | error answer => exact .const books _ _
    | ok task =>
      cases task with
      | action status action =>
        refine aside_answerAction s books (hasked action ?_) status
        simp only [Web.asked?, hendpoint, htask]
      | command name payload =>
        refine (aside_run s books name payload fun action haction => hasked action ?_).map
          Web.answerCommand
        simp only [Web.asked?, hendpoint, htask, haction]

end Aside

/-- **What happens at a moment is decided by the books alone**, unless it is asked for something
about the journal itself. -/
theorem Moment.aside (m : Moment) (books : Books)
    (hasked : ∀ action, m.asked? = some action → action.isOfJournal = false) :
    Aside m.session.clock fun accepts journal =>
      ((m.accepting accepts).heard { books, journal },
        (m.accepting accepts).after { books, journal }) := by
  obtain ⟨s, step⟩ := m
  cases step with
  | request r => exact (aside_handle s books r hasked).map Hearing.response
  | command name payload => exact (aside_run s books name payload hasked).map Hearing.result
  | run works =>
    cases works with
    | true =>
      let expired := books.expireGrants s.clock
      exact ⟨.ran (.ran expired.answer s.clock), expired.books, [], fun _ _ => rfl⟩
    | false => exact .const books s.clock (Hearing.ran (.failed s.clock))
  | call action =>
    have hcall := (aside_perform s books (hasked action rfl)).map Hearing.reply
    obtain ⟨answer, after, notes, heq⟩ := hcall
    refine ⟨answer, after, notes, fun accepts journal => ?_⟩
    rw [← heq]
    unfold heard Moment.after Moment.accepting
    dsimp only
    cases action.perform (s.accepting accepts) { books, journal } with
    | error failure => rfl
    | ok result => rfl

/-! ### What the journal takes up -/

/-- The notes that a journal accepts. -/
def Note.accepted (accepts : Nat → Bool) (notes : List Note) : List Note :=
  (notes.zipIdx.filter fun offered => accepts offered.2).map Prod.fst

/-- **The journal takes up what it accepts**, in order, and keeps what it has. -/
theorem Table.exists_rows_recordFrom (clock : Instant) (accepts : Nat → Bool) (index : Nat)
    (journal : Table LogEntry) (notes : List Note) :
    ∃ entries, (journal.recordFrom clock accepts index notes).rows = journal.rows ++ entries ∧
      entries.map LogEntry.note =
        (((notes.zipIdx index).filter fun offered => accepts offered.2).map Prod.fst).map
          Note.kept ∧
      ∀ entry ∈ entries, entry.createdAt = some clock := by
  induction notes generalizing index journal with
  | nil => exact ⟨[], by simp [recordFrom], by simp, by simp⟩
  | cons note rest ih =>
    by_cases haccepts : accepts index = true
    · obtain ⟨entries, hrows, htold, hclock⟩ := ih (index + 1) (journal.record clock note)
      refine ⟨note.entry journal.nextId clock :: entries, ?_, ?_, ?_⟩
      · rw [recordFrom, if_pos haccepts, hrows, record, rows_push, List.append_assoc]
        rfl
      · simp only [List.zipIdx_cons, List.filter_cons, haccepts, if_true, List.map_cons, htold]
        rfl
      · intro entry hentry
        rcases List.mem_cons.mp hentry with rfl | hentry
        · rfl
        · exact hclock entry hentry
    · obtain ⟨entries, hrows, htold, hclock⟩ := ih (index + 1) journal
      refine ⟨entries, ?_, ?_, hclock⟩
      · rw [recordFrom, if_neg haccepts, hrows]
      · simp only [List.zipIdx_cons, List.filter_cons, haccepts, htold]
        rfl

/-- **The journal decides nothing.** Let something happen at a moment that is not about the journal
itself. Then there are an answer, books and a list of notes such that, whatever the journal holds
and whichever of the entries it accepts, this is the answer, these are the books afterwards, and the
journal has got just the entries of the accepted notes, in order. An entry that is written by itself
is answered and added, or it is dropped: then nothing is answered and nothing changes. And it makes
no difference that entries are written in the middle of an operation, and that a write which is not
accepted fails in some way and leaves some wreck behind: done step by step like that, every action
comes to the same. -/
theorem journal_decides_nothing :
    (∀ (m : Moment) (books : Books),
      (∀ action, m.asked? = some action → action.isOfJournal = false) →
        ∃ (answer : Hearing) (after : Books) (notes : List Note),
          ∀ (accepts : Nat → Bool) (journal : Table LogEntry), ∃ entries,
            (m.accepting accepts).heard { books, journal } = answer ∧
            ((m.accepting accepts).after { books, journal }).books = after ∧
            ((m.accepting accepts).after { books, journal }).journal.rows =
              journal.rows ++ entries ∧
            entries.map LogEntry.note = (Note.accepted accepts notes).map Note.kept ∧
            ∀ entry ∈ entries, entry.createdAt = some m.session.clock) ∧
    (∀ (s : Session) (note : Option Note) (db : Database),
      ∃ entry after, (Action.record note).perform s db = .ok (.log entry, after) ∧
        after.books = db.books ∧
        (note = none ∨ s.journalAccepts 0 = false → entry = none ∧ after = db) ∧
        ∀ told, note = some told → s.journalAccepts 0 = true →
          ∃ written, entry = some written ∧ written.note = told.kept ∧
            written.createdAt = some s.clock ∧
            after.journal.rows = db.journal.rows ++ [written]) ∧
    ∀ (s : Session) (wreck : Wreck) (db : Database) (action : Action),
      (action.inPlace s wreck).transact db = action.perform s db := by
  refine ⟨fun m books hasked => ?_, fun s note db => ?_, Action.transact_inPlace⟩
  · obtain ⟨answer, after, notes, heq⟩ := m.aside books hasked
    refine ⟨answer, after, notes, fun accepts journal => ?_⟩
    obtain ⟨entries, hrows, htold, hclock⟩ :=
      Table.exists_rows_recordFrom m.session.clock accepts 0 journal notes
    have heq := Prod.mk.inj (heq accepts journal)
    refine ⟨entries, heq.1, by rw [heq.2], by rw [heq.2]; exact hrows, htold, hclock⟩
  · cases note with
    | none => exact ⟨none, db, rfl, rfl, fun _ => ⟨rfl, rfl⟩, nofun⟩
    | some told =>
      by_cases haccepts : s.journalAccepts 0 = true
      · let entry := told.entry db.journal.nextId s.clock
        refine ⟨some entry, { db with journal := db.journal.record s.clock told }, ?_, rfl, ?_, ?_⟩
        · simp [Action.perform, haccepts, entry]
        · simp [haccepts]
        · rintro _ ⟨⟩ -
          exact ⟨entry, rfl, rfl, rfl, rfl⟩
      · refine ⟨none, db, ?_, rfl, fun _ => ⟨rfl, rfl⟩, fun _ _ h => absurd h haccepts⟩
        simp [Action.perform, haccepts]

/-- The approval after `pendingRun` leaves the same books if the journal drops the first of its two
entries, which is about the grant, or both of them. -/
theorem journal_decides_nothing_approval :
    let db := Database.empty.after pendingRun
    let dropsFirst : Nat → Bool := fun index => index ≠ 0
    ((approval.accepting dropsFirst).heard db = approval.heard db ∧
      ((approval.accepting dropsFirst).after db).books = (approval.after db).books) ∧
      (approval.after db).told.map Note.logType =
        db.told.map Note.logType ++ [.rewardIssued, .rewardApproved] ∧
      ((approval.accepting dropsFirst).after db).told.map Note.logType =
        db.told.map Note.logType ++ [.rewardApproved] := by
  intro db dropsFirst
  obtain ⟨answer, after, notes, hsame⟩ :=
    journal_decides_nothing.1 approval db.books (by rintro _ ⟨⟩; rfl)
  obtain ⟨-, hheard, hbooks, -⟩ := hsame dropsFirst db.journal
  obtain ⟨-, hheard', hbooks', -⟩ := hsame (fun _ => true) db.journal
  refine ⟨⟨hheard.trans hheard'.symm, hbooks.trans hbooks'.symm⟩, ?_, ?_⟩
  · decide +kernel
  · decide +kernel

end Promotions
