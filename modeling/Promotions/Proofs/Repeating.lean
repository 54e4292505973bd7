import Promotions.Proofs.Journaling
import Promotions.Proofs.ReadBack

/-!
# Edits that are made twice

The same edit that is sent once more finds what it has written. All that it gives is what the row
holds by now, and what it leaves the row has kept; so nothing of the row differs, and the time of
its last change does not move (`Event.edited_again`, `Reward.edited_again`). Only the free-form
column takes an argument. What was not written, since it is loosely the old value, is not written
the second time either, and what was written is loosely the same as itself
(`Json.looselyEq_written`).

The second edit is answered as the first one was, and the one thing that it leaves is a note that
the row was changed (`edits_are_idempotent`).
-/

namespace Promotions

open FormField Books

theorem Json.looselyEq_written (old new : Json) : looselyEq (written old new) new = true := by
  unfold written
  split
  · assumption
  · exact looselyEq_self new

/-! ### The same edit again -/

namespace Edit

variable {α : Type} (edit : Edit α)

@[simp]
theorem getD_getD (old : α) : edit.getD (edit.getD old) = edit.getD old := by
  cases edit <;> rfl

@[simp]
theorem apply_apply (old : Option α) : edit.apply (edit.apply old) = edit.apply old := by
  cases edit <;> rfl

end Edit

@[simp]
theorem Edit.instant_instant (edit : Edit Timestamp) (old : Instant) :
    edit.instant (edit.instant old) = edit.instant old := by
  cases edit <;> rfl

/-- A free-form column that an edit has written, or has not because the new value is loosely the old
one, is given the same value by the same edit. -/
theorem Json.apply_written (edit : Edit Json) (old default : Json) :
    let new := (edit.apply (some old)).getD default
    (edit.apply (some (written old new))).getD default = new := by
  cases edit with
  | keep => exact ite_self old
  | clear | set => rfl

theorem Table.Numbered.put_of_find? {ρ : Type} [Row ρ] {t : Table ρ} (h : t.Numbered) {id : Id}
    {row : ρ} (hfound : t.find? id = some row) : t.put row = t := by
  have hrows : (t.put row).rows = t.rows := by
    refine (List.map_congr_left fun other hother => ?_).trans (List.map_id _)
    split
    · next hid => exact h.eq_of_id_eq (mem_of_find?_eq_some hfound) hother hid.symm
    · rfl
  exact congrArg (fun rows => ({ t with rows } : Table ρ)) hrows

theorem Table.Numbered.put_again {ρ : Type} [Row ρ] {t : Table ρ} (h : t.Numbered) {id : Id}
    {old new : ρ} (hfound : t.find? id = some old) (hid : Row.id new = Row.id old) :
    (t.put new).find? id = some new ∧ (t.put new).put new = t.put new := by
  have hnew := h.find?_put_of_find? hfound hid
  exact ⟨hnew, (h.put new).put_of_find? hnew⟩

/-- **A patch of an event that is applied once more** to what is stored of it changes nothing, but
that it gives the condition value that it describes, be it loosely the stored one. -/
theorem EventPatch.applied_applied (patch : EventPatch) (actor : String) (old : Event)
    (stamp : Option Instant) :
    let new := patch.applied actor old
    let row : Event :=
      { new with
        conditionValue := Json.written old.conditionValue new.conditionValue
        updatedAt := stamp }
    patch.applied actor row = { row with conditionValue := new.conditionValue } := by
  simp only [applied, Edit.getD_getD, Edit.apply_apply, Edit.instant_instant, Json.apply_written]

/-- **A patch of a reward that is applied once more** to what is stored of it changes nothing, but
that it gives the metadata that it describes. -/
theorem RewardPatch.applied_applied (patch : RewardPatch) (actor : String) (old : Reward)
    (stamp : Option Instant) :
    let new := patch.applied actor old
    let row : Reward :=
      { new with
        metadata := Json.written old.metadata new.metadata
        updatedAt := stamp }
    patch.applied actor row = { row with metadata := new.metadata } := by
  simp only [applied, Edit.getD_getD, Edit.apply_apply, Json.apply_written]

/-- **What the same edit makes of the event once more**: the same new version, which is stored as it
is already. -/
theorem Event.edited_again (old : Event) (patch : EventPatch) (actor : String)
    (stamp stamp' : Instant) :
    let new := old.restamped (patch.applied actor old) stamp
    let row := old.stored new
    row.restamped (patch.applied actor row) stamp' = new ∧ row.stored new = row := by
  intro new row
  have happlied : patch.applied actor row = { row with conditionValue := new.conditionValue } :=
    EventPatch.applied_applied patch actor old new.updatedAt
  have hloose : Json.looselyEq row.conditionValue new.conditionValue = true :=
    Json.looselyEq_written _ _
  have hsame : row.sameColumns { row with conditionValue := new.conditionValue } = true := by
    simp [sameColumns, hloose]
  constructor
  · rw [happlied]
    unfold restamped
    rw [if_pos hsame]
    rfl
  · unfold stored
    rw [if_pos hloose]
    rfl

theorem Reward.edited_again (old : Reward) (patch : RewardPatch) (actor : String)
    (stamp stamp' : Instant) :
    let new := old.restamped (patch.applied actor old) stamp
    let row := old.stored new
    row.restamped (patch.applied actor row) stamp' = new ∧ row.stored new = row := by
  intro new row
  have happlied : patch.applied actor row = { row with metadata := new.metadata } :=
    RewardPatch.applied_applied patch actor old new.updatedAt
  have hloose : Json.looselyEq row.metadata new.metadata = true :=
    Json.looselyEq_written _ _
  have hsame : row.sameColumns { row with metadata := new.metadata } = true := by
    simp [sameColumns, hloose]
  constructor
  · rw [happlied]
    unfold restamped
    rw [if_pos hsame]
    rfl
  · unfold stored
    rw [if_pos hloose]
    rfl

namespace Books

variable {s : Session} {books : Books} {id : Id} {actor : String}

theorem editDate_again {column : String} {old date : Instant} {edit : Edit Timestamp}
    (h : editDate column old edit = .ok date) : editDate column date edit = .ok date := by
  cases edit with
  | keep => rfl
  | clear => cases h
  | set given => exact h

theorem editExpiry_again {old expiryDate : Option Instant} {edit : Edit Timestamp}
    (h : editExpiry old edit = .ok expiryDate) : editExpiry expiryDate edit = .ok expiryDate := by
  cases edit with
  | keep => rfl
  | clear | set => exact h

theorem fits_of_updateEvent {patch : EventPatch} {o : Outcome Event}
    (h : books.updateEvent s id patch actor = .ok o) :
    fits64? patch.maxParticipants.value? = true := by
  unfold updateEvent at h
  split at h
  · cases h
  · split at h
    · cases h
    · split at h
      · cases h
      · split at h
        · cases h
        · split at h
          · cases h
          · next hfits => simpa using hfits

theorem fits_of_updateReward {patch : RewardPatch} {o : Outcome Reward}
    (h : books.updateReward s id patch actor = .ok o) :
    fits64? patch.totalQuantity.value? = true := by
  unfold updateReward at h
  split at h
  · cases h
  · split at h
    · cases h
    · split at h
      · cases h
      · split at h
        · cases h
        · next hfits => simpa using hfits

/-- **The same edit of an event once more**, whenever it is made: the answer is the same, the books
stay as they are, and the one note left is that the event was changed. -/
theorem updateEvent_again {patch : EventPatch} {o : Outcome Event} (hbooks : books.events.Numbered)
    (h : books.updateEvent s id patch actor = .ok o) (s' : Session) :
    ∃ view, o.answer.id = id ∧ o.books.updateEvent s' id patch actor = .ok
      { answer := o.answer
        books := o.books
        notes := [eventUpdated o.answer view patch.changes actor] } := by
  have hfits := fits_of_updateEvent h
  obtain ⟨old, startDate, endDate, view, hold, hstart, hend, hwindow, hclear, hnew, hview, hafter,
    -⟩ := Action.updateEvent_eq_ok h
  obtain ⟨hagain, hstored⟩ := Event.edited_again old patch actor s.stamp s'.stamp
  rw [← Event.patched_eq hstart hend, ← hnew] at hagain hstored
  have hid : o.answer.id = id := by
    rw [hnew]
    exact Table.id_of_find?_eq_some hold
  have hkeeps : Row.id (old.stored o.answer) = Row.id old :=
    hid.trans (Table.id_of_find?_eq_some hold).symm
  have hevents : o.books.events = books.events.put (old.stored o.answer) := by rw [hafter]
  obtain ⟨hfound, hput⟩ := hbooks.put_again hold hkeeps
  rw [← hevents] at hfound hput
  have hstatus : eventStatusChanged (old.stored o.answer) o.answer actor = [] := if_pos rfl
  have hstart' : editDate "start_date" (old.stored o.answer).startDate patch.startDate =
      .ok startDate := by
    have hdate : (old.stored o.answer).startDate = startDate := by
      show o.answer.startDate = startDate
      rw [hnew]
      rfl
    rw [hdate]
    exact editDate_again hstart
  have hend' : editDate "end_date" (old.stored o.answer).endDate patch.endDate = .ok endDate := by
    have hdate : (old.stored o.answer).endDate = endDate := by
      show o.answer.endDate = endDate
      rw [hnew]
      rfl
    rw [hdate]
    exact editDate_again hend
  have hopen : ¬endDate ≤ startDate := Int.not_le.mpr hwindow
  refine ⟨view, hid, ?_⟩
  unfold updateEvent findEvent
  simp only [hfound, hstart', hend']
  rw [if_neg hopen, if_neg (by simp [hfits]), if_neg (by simp [hclear]),
    Event.patched_eq hstart' hend', hagain]
  simp only [orBreakOff, hview, hstored, hput, hstatus, List.nil_append]

theorem updateReward_again {patch : RewardPatch} {o : Outcome Reward}
    (hbooks : books.rewards.Numbered)
    (h : books.updateReward s id patch actor = .ok o) (s' : Session) :
    ∃ view, o.answer.id = id ∧ o.books.updateReward s' id patch actor = .ok
      { answer := o.answer
        books := o.books
        notes := [rewardUpdated o.answer view patch.changes actor] } := by
  have hfits := fits_of_updateReward h
  obtain ⟨old, expiryDate, view, hold, htotal, hexpiry, hclear, hnew, hview, hafter, -⟩ :=
    Action.updateReward_eq_ok h
  obtain ⟨hagain, hstored⟩ := Reward.edited_again old patch actor s.stamp s'.stamp
  rw [← Reward.patched_eq hexpiry, ← hnew] at hagain hstored
  have hid : o.answer.id = id := by
    rw [hnew]
    exact Table.id_of_find?_eq_some hold
  have hkeeps : Row.id (old.stored o.answer) = Row.id old :=
    hid.trans (Table.id_of_find?_eq_some hold).symm
  have hrewards : o.books.rewards = books.rewards.put (old.stored o.answer) := by rw [hafter]
  obtain ⟨hfound, hput⟩ := hbooks.put_again hold hkeeps
  rw [← hrewards] at hfound hput
  -- what was issued counts for the total, and an edit does not touch it
  have htotal' : checkTotal (old.stored o.answer) patch.totalQuantity = .ok () := by
    have hissued : (old.stored o.answer).issuedQuantity = old.issuedQuantity := by
      show o.answer.issuedQuantity = old.issuedQuantity
      rw [hnew]
      rfl
    unfold checkTotal at htotal ⊢
    rw [hissued]
    exact htotal
  have hexpiry' : editExpiry (old.stored o.answer).expiryDate patch.expiryDate = .ok expiryDate := by
    have hdate : (old.stored o.answer).expiryDate = expiryDate := by
      show o.answer.expiryDate = expiryDate
      rw [hnew]
      rfl
    rw [hdate]
    exact editExpiry_again hexpiry
  refine ⟨view, hid, ?_⟩
  unfold updateReward findReward
  simp only [hfound, htotal', hexpiry']
  rw [if_neg (by simp [hfits]), if_neg (by simp [hclear]), Reward.patched_eq hexpiry', hagain]
  simp only [orBreakOff, hview, hstored, hput]

end Books

/-! ### The same moment again -/

section Again
variable {s s' : Session} {db after after' : Database} {action : Action} {reply : Reply}
  (hperform : action.perform s db = .ok (reply, after))
  (hagain : action.perform s' after = .ok (reply, after'))
include hperform hagain

theorem Command.run_again {name : String} {payload : List (String × Json)}
    (h : asked? name payload = some action) {code : Nat}
    (hcode : (Web.answerCommand (run s db name payload).1).status? = some code)
    (hlt : code < 400) : run s' after name payload = ((run s db name payload).1, after') := by
  simp only [run, action?_of_asked? h, hperform] at hcode
  simp only [run, action?_of_asked? h, hperform, hagain]
  cases hshown : reply.shown with
  | ok data => rfl
  | error fault =>
    rw [hshown] at hcode
    cases fault with
    | unshowable issues =>
      cases hcode
      exact absurd hlt (by decide)
    | _ => cases hcode

theorem Web.answerAction_again (hbooks : after'.books = after.books) (status : Nat) :
    answerAction s' after status action = ((answerAction s db status action).1, after') := by
  have hreread : reply.reread after' = reply.reread after := by
    obtain ⟨books, journal⟩ := after
    obtain ⟨books', journal'⟩ := after'
    cases hbooks
    exact Reply.reread_eq _ _ _ _
  simp only [answerAction, hperform, hagain, hreread]
  cases bodyOf (reply.reread after) with
  | ok body => rfl
  | error fault => cases fault <;> rfl

theorem Web.handle_again {r : Request} (h : asked? r = some action)
    (hbooks : after'.books = after.books) {code : Nat}
    (hcode : (handle s db r).1.status? = some code) (hlt : code < 400) :
    handle s' after r = ((handle s db r).1, after') := by
  cases hendpoint : Endpoint.find r.method r.path with
  | error fault =>
    simp only [asked?, hendpoint] at h
    cases h
  | ok endpoint =>
    cases htask : task r endpoint with
    | error answer =>
      simp only [asked?, hendpoint, htask] at h
      cases h
    | ok task =>
      cases task with
      | action status found =>
        simp only [asked?, hendpoint, htask] at h
        cases Option.some.inj h
        simp only [handle, hendpoint, htask]
        exact answerAction_again hperform hagain hbooks status
      | command name payload =>
        simp only [asked?, hendpoint, htask] at h
        simp only [handle, hendpoint, htask] at hcode ⊢
        rw [Command.run_again hperform hagain h hcode hlt]

end Again

/-- The database once a note has been offered to the journal. -/
def Database.noting (db : Database) (s : Session) (note : Note) : Database :=
  { db with
    journal := if s.journalAccepts 0 then db.journal.record s.clock note else db.journal }

/-- **A moment only leaves a note if its step is taken again** in another session: it is answered as
it was, and all rows stay as the first time left them. -/
structure Moment.OnlyNotesAgain (m : Moment) (db : Database) (s : Session) (note : Note) : Prop where
  heard_eq : heard ⟨s, m.step⟩ (m.after db) = m.heard db
  status?_eq : status? ⟨s, m.step⟩ (m.after db) = m.status? db
  after_eq : after ⟨s, m.step⟩ (m.after db) = (m.after db).noting s note

/-- A success only leaves a note again if its action comes to the same reply and leaves nothing
but the note. -/
theorem Moment.onlyNotesAgain {m : Moment} {db : Database} {s : Session} {note : Note}
    {action : Action} {reply : Reply} {code : Nat} (h : m.asked? = some action)
    (hcode : m.status? db = some code) (hlt : code < 400)
    (hperform : action.perform m.acting db = .ok (reply, m.after db))
    (hagain : action.perform s (m.after db) = .ok (reply, (m.after db).noting s note)) :
    m.OnlyNotesAgain db s note := by
  obtain ⟨t, step⟩ := m
  cases step with
  | request r =>
    have hsame := Web.handle_again hperform hagain h rfl hcode hlt
    have hanswer := congrArg Prod.fst hsame
    exact ⟨congrArg Hearing.response hanswer, congrArg Web.Answer.status? hanswer,
      congrArg Prod.snd hsame⟩
  | command name payload =>
    have hsame := Command.run_again hperform hagain h hcode hlt
    have hresult := congrArg Prod.fst hsame
    exact ⟨congrArg Hearing.result hresult,
      congrArg (fun result => (Web.answerCommand result).status?) hresult, congrArg Prod.snd hsame⟩
  | run works => cases hcode
  | call called => exact absurd rfl (step_ne_call hcode hlt called)

theorem Action.settle_noting {α : Type} {s : Session} {db : Database} {reply : α → Reply}
    {result : Except Failure (Outcome α)} {answer : α} {note : Note}
    (h : result = .ok { answer, books := db.books, notes := [note] }) :
    settle s db reply result = .ok (reply answer, db.noting s note) := by
  rw [h]
  rfl

/-- **Edits are idempotent.** Let an edit of an event or of a reward be answered with success after
some run. If the same is sent by the same caller once more, whenever that may be, the answer is the
same, and all rows stay as they are, the one that was edited and the time of its last change among
them. The journal is offered one entry, that the row was changed. -/
theorem edits_are_idempotent (ms : List Moment) {m : Moment} {code : Nat}
    (hcode : m.status? (Database.empty.after ms) = some code) (hlt : code < 400) (s : Session) :
    let db := Database.empty.after ms
    (∀ id patch actor, m.asked? = some (.updateEvent id patch actor) →
      ∃ note : Note, note.logType = .eventUpdated ∧ note.eventId = some id ∧ note.actor = actor ∧
        m.OnlyNotesAgain db s note) ∧
    ∀ id patch actor, m.asked? = some (.updateReward id patch actor) →
      ∃ note : Note, note.logType = .rewardUpdated ∧ note.rewardId = some id ∧ note.actor = actor ∧
        m.OnlyNotesAgain db s note := by
  intro db
  have hreachable : db.Reachable fun _ => True :=
    ⟨ms, fun m hm action hcall => trivial, rfl⟩
  refine ⟨fun id patch actor hasked => ?_, fun id patch actor hasked => ?_⟩
  · obtain ⟨reply, hperform⟩ := Moment.succeeded hasked hcode hlt
    obtain ⟨o, ho, hreply, hafter⟩ := Action.settle_eq_ok hperform
    obtain ⟨view, hid, hagain⟩ := updateEvent_again hreachable.numbered.events ho s
    rw [← hafter] at hagain
    rw [hreply] at hperform
    exact ⟨eventUpdated o.answer view patch.changes actor, rfl, congrArg some hid, rfl,
      Moment.onlyNotesAgain hasked hcode hlt hperform (Action.settle_noting hagain)⟩
  · obtain ⟨reply, hperform⟩ := Moment.succeeded hasked hcode hlt
    obtain ⟨o, ho, hreply, hafter⟩ := Action.settle_eq_ok hperform
    obtain ⟨view, hid, hagain⟩ := updateReward_again hreachable.numbered.rewards ho s
    rw [← hafter] at hagain
    rw [hreply] at hperform
    exact ⟨rewardUpdated o.answer view patch.changes actor, rfl, congrArg some hid, rfl,
      Moment.onlyNotesAgain hasked hcode hlt hperform (Action.settle_noting hagain)⟩

/-- The event of `offeringRun` is closed, and asks for a share of days that is no number. -/
def closing : Moment :=
  ⟨{ clock := ⟨3000000⟩ },
    .request ((WritingVerb.updateEvent ({} : Table Event).nextId.text).request "admin"
      [("status", .str "ENDED"),
        ("condition_value", .obj [("share", .double (.notANumber false))])])⟩

/-- The first time, the change of the status is told as well. -/
theorem edits_are_idempotent_closing :
    let db := Database.empty.after offeringRun
    closing.status? db = some 200 ∧
      (closing.after db).journal.rows.map LogEntry.logType =
        [.eventCreated, .rewardCreated, .eventStatusChanged, .eventUpdated] ∧
      ∃ note : Note, note.logType = .eventUpdated ∧
        closing.OnlyNotesAgain db { clock := ⟨9000000⟩ } note := by
  intro db
  have hcode : closing.status? db = some 200 := by decide +kernel
  obtain ⟨patch, actor, hasked, -, -⟩ := Moment.exists_of_dateEdits?
    (by decide +kernel : closing.asked?.bind Action.dateEdits? =
      some (({} : Table Event).nextId, .keep, .keep))
  obtain ⟨note, htype, -, -, honly⟩ :=
    (edits_are_idempotent offeringRun hcode (by decide) { clock := ⟨9000000⟩ }).1 _ _ _ hasked
  exact ⟨hcode, by decide +kernel, note, htype, honly⟩

end Promotions
