import Mathlib.Algebra.Order.Group.Multiset
import Mathlib.Tactic.Abel
import Promotions.Proofs.Attendance
import Promotions.Proofs.Entitlements

/-!
# The journal as a ledger

Every entry of the journal that reports a deed is about a matter: a row that was made, a status that
a request was given, or a grant that was used (`Note.matter?`). The rows of the books show the same
matters once more (`Books.matters`). An operation writes both at different places, and what it takes
back it takes back on both sides. So every change adds to the rows just what its notes are about
(`Change.matters_eq`), and in the end journal and rows show the same matters, each as often
(`Database.matters_after`).

What an entry tells is a note as the journal keeps it (`Note.kept`), with somebody who acts and
without reserved members.
-/

namespace Promotions

open Table (Evolves)

/-! ### What the journal tells -/

/-- What an entry tells, whatever its number and its time are. -/
def LogEntry.note (entry : LogEntry) : Note :=
  { logType := entry.logType
    actor := entry.actor
    eventId := entry.eventId
    rewardId := entry.rewardId
    requestId := entry.requestId
    details := entry.details }

/-- A note as the journal keeps it. -/
def Note.kept (note : Note) : Note :=
  { note with
    actor := if note.actor = "" then anonymousActor else note.actor
    details := note.details.withoutReserved }

/-- What the journal tells, entry by entry. -/
def Database.told (db : Database) : List Note := db.journal.rows.map LogEntry.note

/-- The journal accepts whatever is noted. -/
def Session.NotesAll (s : Session) : Prop := ∀ index, s.journalAccepts index = true

theorem Table.map_note_recordFrom {accepts : Nat → Bool} (haccepts : ∀ index, accepts index = true)
    (clock : Instant) (index : Nat) (journal : Table LogEntry) (notes : List Note) :
    (journal.recordFrom clock accepts index notes).rows.map LogEntry.note =
      journal.rows.map LogEntry.note ++ notes.map Note.kept := by
  induction notes generalizing index journal with
  | nil => simp [recordFrom]
  | cons note rest ih =>
    have hrecord : (journal.record clock note).rows.map LogEntry.note =
        journal.rows.map LogEntry.note ++ [note.kept] := by
      rw [record, rows_push, List.map_append]
      rfl
    rw [recordFrom, if_pos (haccepts index), ih, hrecord, List.append_assoc]
    rfl

theorem Action.Writes.told_eq {s : Session} {action : Action} {db after : Database}
    (h : action.Writes s db after) (hs : s.NotesAll) :
    ∃ notes, Change s db.books action after.books notes ∧
      after.told = db.told ++ notes.map Note.kept := by
  obtain ⟨notes, hchange, hjournal⟩ := h
  refine ⟨notes, hchange, ?_⟩
  rw [Database.told, hjournal, Table.map_note_recordFrom hs]
  rfl

/-! ### Matters -/

/-- What an entry of the journal or a row of the books is about. -/
inductive Matter where
  | event (eventId : Option Id)
  | reward (eventId rewardId : Option Id)
  | participation (eventId : Option Id) (userId : String)
  | request (eventId requestId : Option Id)
  | grant (eventId requestId rewardId : Option Id)
  /-- A request was given a status. -/
  | move (target : RequestStatus) (eventId requestId : Option Id)
  /-- A grant was used. -/
  | use (eventId requestId rewardId : Option Id)

/-- What a note is about, if it reports a deed. -/
def Note.matter? (note : Note) : Option Matter :=
  match note.logType with
  | .eventCreated => some (.event note.eventId)
  | .rewardCreated => some (.reward note.eventId note.rewardId)
  | .eventParticipated => some (.participation note.eventId note.actor)
  | .rewardRequested => some (.request note.eventId note.requestId)
  | .rewardIssued => some (.grant note.eventId note.requestId note.rewardId)
  | .rewardApproved => some (.move .approved note.eventId note.requestId)
  | .rewardRejected => some (.move .rejected note.eventId note.requestId)
  | .rewardCancelled => some (.move .cancelled note.eventId note.requestId)
  | .rewardDelivered => some (.move .issued note.eventId note.requestId)
  | .rewardUsed => some (.use note.eventId note.requestId note.rewardId)
  | .eventUpdated | .eventStatusChanged | .rewardUpdated | .unlisted _ => none

/-- What notes are about, once they are kept. -/
def mattersOf (notes : List Note) : Multiset Matter := (notes.map Note.kept).filterMap Note.matter?

@[simp]
theorem mattersOf_nil : mattersOf [] = 0 := rfl

theorem mattersOf_append (notes more : List Note) :
    mattersOf (notes ++ more) = mattersOf notes + mattersOf more := by
  simp [mattersOf]

theorem filterMap_matter?_append (told notes : List Note) :
    ((told ++ notes.map Note.kept).filterMap Note.matter? : Multiset Matter) =
      ↑(told.filterMap Note.matter?) + mattersOf notes := by
  rw [List.filterMap_append, ← Multiset.coe_add]
  rfl

/-- The statuses that a request of a status has been given since it was filed. -/
def RequestStatus.past : RequestStatus → List RequestStatus
  | approved => [approved]
  | issued => [approved, issued]
  | rejected => [rejected]
  | cancelled => [cancelled]
  | pending | unlisted _ => []

theorem RequestStatus.past_of_mayBecome {old new : RequestStatus} (h : old.mayBecome new = true) :
    new.past = old.past ++ [new] := by
  cases old <;> cases new <;> first | rfl | simp [mayBecome] at h

/-- The kinds of entries which report that a request was given a status. -/
def movingKinds : List (LogType × RequestStatus) :=
  [(.rewardApproved, .approved), (.rewardRejected, .rejected), (.rewardCancelled, .cancelled),
    (.rewardDelivered, .issued)]

/-! ### The matters of rows -/

/-- What an event is about: that it was made. -/
def Event.matters (e : Event) : List Matter := [.event (some e.id)]

/-- What a reward is about: that it was made. -/
def Reward.matters (r : Reward) : List Matter := [.reward (some r.eventId) (some r.id)]

/-- What a participation is about: that it took place. -/
def Participation.matters (p : Participation) : List Matter :=
  [.participation (some p.eventId) p.userId]

/-- What a request is about: that it was made, and the statuses that it has been given. -/
def RewardRequest.matters (q : RewardRequest) : List Matter :=
  .request (some q.eventId) (some q.id) ::
    q.status.past.map fun target => .move target (some q.eventId) (some q.id)

/-- What a grant is about: that it was issued, and perhaps that it was used. -/
def Grant.matters (g : Grant) : List Matter :=
  .grant (some g.eventId) (some g.requestId) (some g.rewardId) ::
    if g.status = .used then [.use (some g.eventId) (some g.requestId) (some g.rewardId)] else []

namespace Table

variable {ρ : Type} [Row ρ] (f : ρ → List Matter)

/-- What the rows of a table are about. -/
def matters (t : Table ρ) : Multiset Matter := t.rows.flatMap f

omit [Row ρ] in
theorem matters_push (t : Table ρ) (row : ρ) : (t.push row).matters f = t.matters f + f row := by
  simp [matters]

omit [Row ρ] in
theorem matters_map {t u : Table ρ} {g : ρ → ρ} (hrows : u.rows = t.rows.map g)
    (hg : ∀ row ∈ t.rows, f (g row) = f row) : u.matters f = t.matters f := by
  rw [matters, matters, hrows, List.flatMap_map]
  exact congrArg _ (List.flatMap_congr hg)

theorem matters_modify {t : Table ρ} {id : Id} {g : ρ → ρ}
    (hg : ∀ row ∈ t.rows, Row.id row = id → f (g row) = f row) :
    (t.modify id g).matters f = t.matters f := by
  refine matters_map f (rows_modify t id g) fun row hrow => ?_
  split_ifs with hid
  · exact hg row hrow hid
  · rfl

theorem Numbered.rows_put {t : Table ρ} (h : t.Numbered) {old new : ρ} (hold : old ∈ t.rows)
    (hid : Row.id new = Row.id old) :
    ∃ before after, t.rows = before ++ old :: after ∧
      (t.put new).rows = before ++ new :: after := by
  obtain ⟨before, after, hrows⟩ := List.append_of_mem hold
  have hnodup := h.nodup
  rw [hrows, List.map_append, List.map_cons] at hnodup
  obtain ⟨-, hrest, hdisjoint⟩ := List.nodup_append.mp hnodup
  have hsame : ∀ row, Row.id row ≠ Row.id old →
      (if Row.id row = Row.id new then new else row) = row := fun row hne =>
    if_neg (by rwa [hid])
  refine ⟨before, after, hrows, ?_⟩
  rw [Table.put, rows_modify, hrows, List.map_append, List.map_cons, if_pos hid.symm]
  congr 1
  · refine (List.map_congr_left fun row hrow => hsame row fun heq => ?_).trans (List.map_id _)
    exact hdisjoint _ (List.mem_map_of_mem hrow) _ List.mem_cons_self heq
  · congr 1
    refine (List.map_congr_left fun row hrow => hsame row fun heq => ?_).trans (List.map_id _)
    exact (List.nodup_cons.mp hrest).1 (heq ▸ List.mem_map_of_mem hrow)

theorem Numbered.matters_put {t : Table ρ} (h : t.Numbered) {old new : ρ} (hold : old ∈ t.rows)
    (hid : Row.id new = Row.id old) {more : List Matter} (hmore : f new = f old ++ more) :
    (t.put new).matters f = t.matters f + more := by
  obtain ⟨before, after, hrows, hput⟩ := h.rows_put hold hid
  simp only [matters, hrows, hput, List.flatMap_append, List.flatMap_cons, hmore,
    ← Multiset.coe_add]
  abel

theorem Numbered.matters_put_of_eq {t : Table ρ} (h : t.Numbered) {old new : ρ}
    (hold : old ∈ t.rows) (hid : Row.id new = Row.id old) (hsame : f new = f old) :
    (t.put new).matters f = t.matters f := by
  rw [h.matters_put f hold hid (hsame.trans (List.append_nil _).symm)]
  exact add_zero _

end Table

/-- **What the rows of the books are about.** -/
def Books.matters (books : Books) : Multiset Matter :=
  books.events.matters Event.matters + books.rewards.matters Reward.matters +
    books.participations.matters Participation.matters +
    books.requests.matters RewardRequest.matters + books.grants.matters Grant.matters

/-! ### What changes add -/

theorem RewardRequest.matters_moved {q : RewardRequest} {target : RequestStatus}
    (hmay : q.status.mayBecome target = true) (operator reason : Option String)
    (now stamp : Instant) :
    (q.moved target operator reason now stamp).matters =
      q.matters ++ [.move target (some q.eventId) (some q.id)] := by
  have hstatus := status_moved hmay operator reason now stamp
  obtain ⟨status, _, _, _, _, _, heq⟩ := q.continues_moved target operator reason now stamp
  rw [heq] at hstatus ⊢
  replace hstatus : status = target := hstatus
  simp only [matters, hstatus, RequestStatus.past_of_mayBecome hmay, List.map_append, List.map_cons,
    List.map_nil, List.cons_append]

namespace Books

theorem matters_participations {books after : Books} (h : after.roll = books.roll) :
    after.participations.matters Participation.matters =
      books.participations.matters Participation.matters := by
  have hroll (books : Books) : books.participations.matters Participation.matters =
      ↑(books.roll.flatMap fun a => [Matter.participation (some a.eventId) a.userId]) := by
    rw [roll, List.flatMap_map]
    rfl
  rw [hroll, hroll, h]

section Granting
variable {s : Session} {request : RewardRequest} {operator : Option String} {now : Instant}
  {books after : Books} {ids : List Id} {grants : List Grant} {notes : List Note}
  (h : Granting s request operator now books ids after grants notes)
include h

theorem Granting.matters_grants :
    after.grants.matters Grant.matters = books.grants.matters Grant.matters + mattersOf notes := by
  induction h with
  | done books => simp
  | skipped hnone hrest ih => exact ih
  | @granted books after id rest grants notes reward copied grant view hreward hstock hcopied hgrant
      hnew hview hrest ih =>
    have hmatters : mattersOf (rewardIssued grant view operator :: notes) =
        grant.matters + mattersOf notes := by
      rw [hgrant]
      rfl
    rw [ih, hmatters, withGrant, Table.matters_push, add_assoc]

theorem Granting.matters_rewards :
    after.rewards.matters Reward.matters = books.rewards.matters Reward.matters := by
  induction h with
  | done books => rfl
  | skipped hnone hrest ih => exact ih
  | granted hreward hstock hcopied hgrant hnew hview hrest ih =>
    exact ih.trans (Table.matters_modify _ fun _ _ _ => rfl)

theorem Granting.logType_eq : ∀ note ∈ notes, note.logType = .rewardIssued := by
  induction h with
  | done books => simp
  | skipped hnone hrest ih => exact ih
  | granted hreward hstock hcopied hgrant hnew hview hrest ih => simpa [rewardIssued] using ih

end Granting

section Moving
variable {s : Session} {books after : Books} {request : RewardRequest}
  {operator reason : Option String} {now : Instant} {target : RequestStatus} {notes : List Note}
  (h : Moving s books request operator reason now target after notes)
include h

/-- The last note of a move is about the move itself, and those before it about the grants. -/
theorem Moving.exists_matters :
    ∃ granted note, notes = granted ++ [note] ∧
      mattersOf [note] = ↑[Matter.move target (some request.eventId) (some request.id)] ∧
      after.rewards.matters Reward.matters = books.rewards.matters Reward.matters ∧
      after.grants.matters Grant.matters =
        books.grants.matters Grant.matters + mattersOf granted := by
  cases h with
  | @approved ids issued grants granted note hwanted hids hgranting hgrants hnote =>
    obtain ⟨first, items, -, rfl⟩ := requestMoved_eq_ok hnote
    obtain ⟨participations, -, heq⟩ := exists_markRewarded_eq
      (putRequest issued s (request.approved operator now)) request now
    rw [heq]
    exact ⟨granted, _, rfl, rfl, hgranting.matters_rewards, hgranting.matters_grants⟩
  | rejected hnote | cancelled hnote | delivered hnote =>
    obtain ⟨first, items, -, rfl⟩ := requestMoved_eq_ok hnote
    exact ⟨[], _, rfl, rfl, rfl, (add_zero _).symm⟩

theorem Moving.matters_eq (hbooks : books.Numbered) (hrequest : request ∈ books.requests.rows)
    (hmay : request.status.mayBecome target = true) :
    after.matters = books.matters + mattersOf notes := by
  obtain ⟨granted, note, rfl, hnote, hrewards, hgrants⟩ := h.exists_matters
  have hrequests : after.requests.matters RewardRequest.matters =
      books.requests.matters RewardRequest.matters + mattersOf [note] := by
    rw [h.requests_eq, hnote]
    exact hbooks.requests.matters_put _ hrequest (request.id_moved _ _ _ _ _)
      (request.matters_moved hmay operator reason now s.stamp)
  rw [matters, matters, h.events_eq, hrewards, matters_participations h.roll_eq, hrequests, hgrants,
    mattersOf_append]
  abel

end Moving

theorem Filing.matters_eq {s : Session} {books after : Books} {event : Event}
    {rewards : List Id} {userId : String} {verificationData : Json} {now : Instant}
    {request : RewardRequest} {notes : List Note}
    (h : Filing s books event rewards userId verificationData now request after notes) :
    after.matters = books.matters + mattersOf notes := by
  have hnotes : mattersOf notes = request.matters := by
    rw [h.notes_eq, h.request_eq]
    rfl
  rw [matters, matters, h.events_eq, h.stock_eq.1, h.stock_eq.2, matters_participations h.roll_eq,
    h.requests_eq, Table.matters_push, hnotes]
  abel

end Books

open Books

theorem Raced.matters_eq {books raced : Books} {rival : Option Claim}
    (h : Raced books rival raced) : raced.matters = books.matters := by
  obtain ⟨claims, rfl⟩ := h.exists_eq
  rfl

theorem Grant.matters_expire (g : Grant) (now : Instant) : (g.expire now).matters = g.matters := by
  unfold expire
  split
  · next hdue =>
    have hactive : g.status = .active := by
      simp only [isDue, Bool.and_eq_true, decide_eq_true_eq] at hdue
      exact hdue.1
    simp [matters, hactive]
  · rfl

/-- **Every change adds to the rows what its notes are about**, if somebody acts and it is no bare
note. -/
theorem Change.matters_eq {s : Session} {books after : Books} {action : Action} {notes : List Note}
    (h : Change s books action after notes) (hformed : action.IsFormed)
    (hnoted : ∀ note, action ≠ .record note) (hbooks : books.Numbered) :
    after.matters = books.matters + mattersOf notes := by
  cases h with
  | nothing => simp
  | noted note => exact absurd rfl (hnoted _)
  | @eventMade draft actor startDate endDate event view =>
    have hnotes : mattersOf [eventCreated event view actor] = event.matters := rfl
    simp only [matters, Table.matters_push, hnotes]
    abel
  | @eventEdited id patch actor old new startDate endDate view hold _ _ _ _ hnew =>
    have hnotes : mattersOf (eventStatusChanged old new actor ++
        [eventUpdated new view patch.changes actor]) = 0 := by
      unfold eventStatusChanged
      split <;> rfl
    have hid : Row.id (old.stored new) = Row.id old := by rw [hnew]; rfl
    have hmatters : (old.stored new).matters = old.matters := by rw [hnew]; rfl
    simp only [matters, hnotes, add_zero,
      hbooks.events.matters_put_of_eq _ (Table.mem_of_find?_eq_some hold) hid hmatters]
  | @rewardMade draft actor event expiryDate reward view =>
    have hnotes : mattersOf [rewardCreated reward view actor] = reward.matters := rfl
    simp only [matters, Table.matters_push, hnotes]
    abel
  | @rewardEdited id patch actor old new expiryDate view hold _ _ _ hnew =>
    have hid : Row.id (old.stored new) = Row.id old := by rw [hnew]; rfl
    have hmatters : (old.stored new).matters = old.matters := by rw [hnew]; rfl
    have hnotes : mattersOf [rewardUpdated new view patch.changes actor] = 0 := rfl
    simp only [matters, hnotes, add_zero,
      hbooks.rewards.matters_put_of_eq _ (Table.mem_of_find?_eq_some hold) hid hmatters]
  | @tookPart eventId userId verificationData additionalData now event previous participation view
      _ _ _ _ _ _ hparticipation =>
    have hnotes : mattersOf [eventParticipated event userId view] = participation.matters := by
      have huser : userId ≠ "" := hformed.1
      rw [hparticipation]
      simp only [mattersOf, Note.kept, eventParticipated, List.map_cons, List.map_nil, if_neg huser]
      rfl
    have hevents : (books.events.modify event.id fun event =>
        { event with
          participantCount := event.participantCount + 1
          updatedAt := some s.stamp }).matters Event.matters = books.events.matters Event.matters :=
      Table.matters_modify _ fun _ _ _ => rfl
    simp only [matters, countParticipant, Table.matters_push, hnotes, hevents]
    abel
  | filed _ hraced hfiling => rw [hfiling.matters_eq, hraced.matters_eq]
  | filedAndApproved _ hraced hfiling _ hfound hmay hmoving =>
    rw [hmoving.matters_eq (hfiling.numbered (hraced.numbered hbooks))
      (Table.mem_of_find?_eq_some hfound) hmay, hfiling.matters_eq, hraced.matters_eq,
      mattersOf_append, add_assoc]
  | moved hfound hmay hmoving =>
    exact hmoving.matters_eq hbooks (Table.mem_of_find?_eq_some hfound) hmay
  | cancelled hfound _ hmay hmoving =>
    exact hmoving.matters_eq hbooks (Table.mem_of_find?_eq_some hfound) hmay
  | issued _ _ _ hgranting =>
    have hgrants := hgranting.matters_grants
    have hrewards := hgranting.matters_rewards
    obtain ⟨rewards, table, rfl⟩ := hgranting.exists_eq
    simp only [matters] at hgrants hrewards ⊢
    rw [hgrants, hrewards]
    abel
  | @used id userId now grant hfound _ hactive =>
    have hmatters : (grant.used (now.getD s.clock)).matters = grant.matters ++
        [.use (some grant.eventId) (some grant.requestId) (some grant.rewardId)] := by
      simp [Grant.matters, Grant.used, hactive]
    have hnotes : mattersOf [rewardUsed grant userId] =
        ↑[Matter.use (some grant.eventId) (some grant.requestId) (some grant.rewardId)] := rfl
    have hid : Row.id (grant.used (now.getD s.clock)) = Row.id grant := rfl
    simp only [matters, hnotes,
      hbooks.grants.matters_put _ (Table.mem_of_find?_eq_some hfound) hid hmatters]
    abel
  | expired now =>
    have hgrants : (books.expireGrants (now.getD s.clock)).books.grants.matters Grant.matters =
        books.grants.matters Grant.matters :=
      Table.matters_map _ rfl fun g _ => g.matters_expire _
    simp only [matters, mattersOf_nil, add_zero, hgrants]
    rfl

/-! ### Reading the ledger -/

section Reading
variable {κ : Type}

/-- What the entries of a kind are about, as far as a subject tells. -/
def reports (logType : LogType) (subject : Note → κ) (told : List Note) : List κ :=
  (told.filter fun note => note.logType = logType).map subject

/-- **Each of the keys has one entry of its own**, and there is no other entry. -/
structure OnePer (entries keys : List κ) : Prop where
  distinct : keys.Nodup
  perm : entries.Perm keys

theorem filterMap_ite {α : Type} (p : α → Prop) [DecidablePred p] (f : α → κ) (rows : List α) :
    (rows.filterMap fun a => if p a then some (f a) else none) =
      (rows.filter fun a => p a).map f := by
  induction rows with
  | nil => rfl
  | cons a rest ih => by_cases hp : p a <;> simp [hp, ih]

theorem flatMap_ite {α : Type} (p : α → Prop) [DecidablePred p] (f : α → κ) (rows : List α) :
    (rows.flatMap fun a => if p a then [f a] else []) = (rows.filter fun a => p a).map f := by
  induction rows with
  | nil => rfl
  | cons a rest ih => by_cases hp : p a <;> simp [hp, ih]

/-- **Entries and rows are read alike** out of the ledger. -/
theorem perm_reports {logType : LogType} {subject : Note → κ} {read : Matter → Option κ}
    (hread : ∀ note : Note,
      note.matter?.bind read = if note.logType = logType then some (subject note) else none)
    {told : List Note} {books : Books}
    (h : (told.filterMap Note.matter? : Multiset Matter) = books.matters) {keys : List κ}
    (hkeys : books.matters.filterMap read = keys) : (reports logType subject told).Perm keys := by
  rw [← Multiset.coe_eq_coe, ← hkeys, ← h, Multiset.filterMap_coe, List.filterMap_filterMap,
    funext hread, filterMap_ite]
  rfl

theorem RewardRequest.filterMap_matters (read : Matter → Option κ) (q : RewardRequest) :
    q.matters.filterMap read = (read (.request (some q.eventId) (some q.id))).toList ++
      q.status.past.filterMap fun target => read (.move target (some q.eventId) (some q.id)) := by
  rw [matters, List.filterMap_cons, List.filterMap_map]
  cases read (.request (some q.eventId) (some q.id)) <;> rfl

theorem Grant.filterMap_matters (read : Matter → Option κ) (g : Grant) :
    g.matters.filterMap read =
      (read (.grant (some g.eventId) (some g.requestId) (some g.rewardId))).toList ++
        (if g.status = .used then read (.use (some g.eventId) (some g.requestId) (some g.rewardId))
          else none).toList := by
  by_cases hused : g.status = .used
  · simp only [matters, if_pos hused, List.filterMap_cons, List.filterMap_nil]
    cases read (.grant (some g.eventId) (some g.requestId) (some g.rewardId)) <;>
      cases read (.use (some g.eventId) (some g.requestId) (some g.rewardId)) <;> rfl
  · simp only [matters, if_neg hused, List.filterMap_cons, List.filterMap_nil]
    cases read (.grant (some g.eventId) (some g.requestId) (some g.rewardId)) <;> rfl

@[simp]
theorem flatMap_const_nil {α : Type} (rows : List α) :
    (rows.flatMap fun _ => ([] : List κ)) = [] := List.flatMap_eq_nil_iff.mpr fun _ _ => rfl

theorem filterMap_past (status target : RequestStatus) (key : κ) :
    (status.past.filterMap fun found => if found = target then some key else none) =
      if target ∈ status.past then [key] else [] := by
  cases status <;> cases target <;> simp [RequestStatus.past]

theorem Books.filterMap_matters (read : Matter → Option κ) (books : Books) :
    books.matters.filterMap read =
      ↑(books.events.rows.filterMap fun e => read (.event (some e.id))) +
      ↑(books.rewards.rows.filterMap fun r => read (.reward (some r.eventId) (some r.id))) +
      ↑(books.participations.rows.filterMap fun p =>
        read (.participation (some p.eventId) p.userId)) +
      (↑(books.requests.rows.filterMap fun q => read (.request (some q.eventId) (some q.id))) +
      ↑(books.requests.rows.flatMap fun q => q.status.past.filterMap fun target =>
        read (.move target (some q.eventId) (some q.id)))) +
      (↑(books.grants.rows.filterMap fun g =>
        read (.grant (some g.eventId) (some g.requestId) (some g.rewardId))) +
      ↑(books.grants.rows.filterMap fun g => if g.status = .used then
        read (.use (some g.eventId) (some g.requestId) (some g.rewardId)) else none)) := by
  have hsplit {α : Type} (rows : List α) (f g : α → List κ) :
      (rows.flatMap fun a => f a ++ g a : Multiset κ) = rows.flatMap f + rows.flatMap g := by
    rw [Multiset.coe_add]
    exact Multiset.coe_eq_coe.mpr (List.flatMap_append_perm rows f g).symm
  have hone {α : Type} (rows : List α) (f : α → Option κ) :
      (rows.flatMap fun a => (f a).toList) = rows.filterMap f :=
    (List.filterMap_eq_flatMap_toList f rows).symm
  have hmatter (m : Matter) : [m].filterMap read = (read m).toList := by
    cases hm : read m <;> simp [hm]
  simp only [matters, Table.matters, Multiset.filterMap_add, Multiset.filterMap_coe,
    List.filterMap_flatMap, RewardRequest.filterMap_matters, Grant.filterMap_matters, Event.matters,
    Reward.matters, Participation.matters, hmatter, hsplit, hone]

end Reading

namespace Matter

/-- The event that was made. -/
def event? : Matter → Option (Option Id)
  | event eventId => some eventId
  | _ => none

/-- The reward that was made, and its event. -/
def reward? : Matter → Option (Option Id × Option Id)
  | reward eventId rewardId => some (eventId, rewardId)
  | _ => none

/-- The event of a participation and who took part. -/
def participation? : Matter → Option (Option Id × String)
  | participation eventId userId => some (eventId, userId)
  | _ => none

/-- The request that was made, and its event. -/
def request? : Matter → Option (Option Id × Option Id)
  | request eventId requestId => some (eventId, requestId)
  | _ => none

/-- The event, the request and the reward of a grant that was issued. -/
def grant? : Matter → Option (Option Id × Option Id × Option Id)
  | grant eventId requestId rewardId => some (eventId, requestId, rewardId)
  | _ => none

/-- The request that was given a status, and its event. -/
def move? (target : RequestStatus) : Matter → Option (Option Id × Option Id)
  | move found eventId requestId => if found = target then some (eventId, requestId) else none
  | _ => none

/-- The event, the request and the reward of a grant that was used. -/
def use? : Matter → Option (Option Id × Option Id × Option Id)
  | use eventId requestId rewardId => some (eventId, requestId, rewardId)
  | _ => none

end Matter

section Reports
variable {told : List Note} {books : Books}
  (h : (told.filterMap Note.matter? : Multiset Matter) = books.matters)
include h

theorem perm_reports_eventCreated :
    (reports .eventCreated Note.eventId told).Perm (books.events.rows.map fun e => some e.id) := by
  refine perm_reports (fun note => (?_ : note.matter?.bind Matter.event? = _)) h ?_
  · cases hkind : note.logType <;> simp [Note.matter?, hkind, Matter.event?]
  · simp [Books.filterMap_matters, Matter.event?]

theorem perm_reports_rewardCreated :
    (reports .rewardCreated (fun n => (n.eventId, n.rewardId)) told).Perm
      (books.rewards.rows.map fun r => (some r.eventId, some r.id)) := by
  refine perm_reports (fun note => (?_ : note.matter?.bind Matter.reward? = _)) h ?_
  · cases hkind : note.logType <;> simp [Note.matter?, hkind, Matter.reward?]
  · simp [Books.filterMap_matters, Matter.reward?]

theorem perm_reports_eventParticipated :
    (reports .eventParticipated (fun n => (n.eventId, n.actor)) told).Perm
      (books.participations.rows.map fun p => (some p.eventId, p.userId)) := by
  refine perm_reports (fun note => (?_ : note.matter?.bind Matter.participation? = _)) h ?_
  · cases hkind : note.logType <;> simp [Note.matter?, hkind, Matter.participation?]
  · simp [Books.filterMap_matters, Matter.participation?]

theorem perm_reports_rewardRequested :
    (reports .rewardRequested (fun n => (n.eventId, n.requestId)) told).Perm
      (books.requests.rows.map fun q => (some q.eventId, some q.id)) := by
  refine perm_reports (fun note => (?_ : note.matter?.bind Matter.request? = _)) h ?_
  · cases hkind : note.logType <;> simp [Note.matter?, hkind, Matter.request?]
  · simp [Books.filterMap_matters, Matter.request?]

theorem perm_reports_rewardIssued :
    (reports .rewardIssued (fun n => (n.eventId, n.requestId, n.rewardId)) told).Perm
      (books.grants.rows.map fun g => (some g.eventId, some g.requestId, some g.rewardId)) := by
  refine perm_reports (fun note => (?_ : note.matter?.bind Matter.grant? = _)) h ?_
  · cases hkind : note.logType <;> simp [Note.matter?, hkind, Matter.grant?]
  · simp [Books.filterMap_matters, Matter.grant?]

theorem perm_reports_rewardUsed :
    (reports .rewardUsed (fun n => (n.eventId, n.requestId, n.rewardId)) told).Perm
      ((books.grants.rows.filter fun g => g.status = .used).map fun g =>
        (some g.eventId, some g.requestId, some g.rewardId)) := by
  refine perm_reports (fun note => (?_ : note.matter?.bind Matter.use? = _)) h ?_
  · cases hkind : note.logType <;> simp [Note.matter?, hkind, Matter.use?]
  · simp [Books.filterMap_matters, Matter.use?, filterMap_ite]

theorem perm_reports_move {logType : LogType} {target : RequestStatus}
    (hkind : (logType, target) ∈ movingKinds) :
    (reports logType (fun n => (n.eventId, n.requestId)) told).Perm
      ((books.requests.rows.filter fun q => target ∈ q.status.past).map fun q =>
        (some q.eventId, some q.id)) := by
  refine perm_reports (fun note => (?_ : note.matter?.bind (Matter.move? target) = _)) h ?_
  · simp only [movingKinds, List.mem_cons, List.not_mem_nil, or_false, Prod.mk.injEq] at hkind
    rcases hkind with ⟨rfl, rfl⟩ | ⟨rfl, rfl⟩ | ⟨rfl, rfl⟩ | ⟨rfl, rfl⟩ <;>
      cases hkind : note.logType <;> simp [Note.matter?, hkind, Matter.move?]
  · simp [Books.filterMap_matters, Matter.move?, filterMap_past, flatMap_ite]

end Reports

end Promotions
