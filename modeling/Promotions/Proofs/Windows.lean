import Promotions.Proofs.Surfaces

/-!
# The windows of events

An event's window begins before it ends, in every database that can be reached. It is checked where
an event is made or edited: on the dates as instants, whatever offsets they were given with, and on
an edit with the stored dates in the place of those that are not given.

`Timestamp.instant` is the instant that a date denotes, and `Edit.instant` the one that an edit
leaves. The operations are said in terms of these: as long as no date leaves the years 1 to 9999,
making an event is refused just if its window is empty or inverted
(`Books.createEvent_refused_iff`), and editing one besides if a date is cleared
(`Books.updateEvent_refused_iff`). What is stored are the instants (`Books.createEvent_dates`,
`Books.updateEvent_dates`).
-/

namespace Promotions

/-! ### Dates as instants -/

namespace Timestamp

/-- The instant that a timestamp denotes: its reading less its offset from UTC, which is none if it
carries none. -/
def instant (t : Timestamp) : Instant := ⟨t.reading.micros - t.offset.getD 0 * Instant.minute⟩

variable {t : Timestamp}

theorem utc?_eq : t.utc? =
    if t.offset = none ∨ t.instant.isStorable = true then some t.instant else none := by
  obtain ⟨⟨micros⟩, offset⟩ := t
  cases offset with
  | none => simp [utc?, instant]
  | some minutes =>
    have hshifted : shifted ⟨micros⟩ minutes = instant ⟨⟨micros⟩, some minutes⟩ := by
      simp only [shifted, instant, Instant.later, Option.getD_some, ← Int.sub_eq_add_neg]
    simp only [utc?, hshifted, reduceCtorEq, false_or]

theorem stored_eq_ok (h : t.instant.isStorable = true) : t.stored = .ok t.instant := by
  unfold stored
  rw [utc?_eq, if_pos (Or.inr h)]

theorem eq_instant_of_stored {utc : Instant} (h : t.stored = .ok utc) : utc = t.instant := by
  unfold stored at h
  rw [utc?_eq] at h
  split at h
  · next found hfound =>
    split_ifs at hfound
    rw [← Except.ok.inj h, ← Option.some.inj hfound]
  · cases h

end Timestamp

namespace Edit

/-- The date that an edit leaves, as an instant. -/
def instant (old : Instant) : Edit Timestamp → Instant
  | set date => date.instant
  | keep | clear => old

/-- The date that is set, if one is, lies within the years 1 to 9999 in UTC. -/
def Converts (edit : Edit Timestamp) : Prop :=
  ∀ date, edit = set date → date.instant.isStorable = true

end Edit

namespace Books

theorem editDate_of_converts {column : String} {old : Instant} {edit : Edit Timestamp}
    (hconverts : edit.Converts) (hclear : edit ≠ .clear) :
    editDate column old edit = .ok (edit.instant old) := by
  cases edit with
  | keep => rfl
  | clear => exact absurd rfl hclear
  | set date => exact Timestamp.stored_eq_ok (hconverts date rfl)

theorem eq_instant_of_editDate {column : String} {old date : Instant} {edit : Edit Timestamp}
    (h : editDate column old edit = .ok date) : date = edit.instant old := by
  cases edit with
  | keep => exact (Except.ok.inj h).symm
  | clear => cases h
  | set given => exact Timestamp.eq_instant_of_stored h

/-! ### What is refused -/

/-- The failure is a fault, but none of times that cannot be compared. -/
def IsOtherFault (failure : Failure) : Prop :=
  ∃ fault, failure = .fault fault ∧ fault ≠ .incomparable

theorem isOtherFault_of_stored {t : Timestamp} {failure : Failure} (h : t.stored = .error failure) :
    IsOtherFault failure := by
  unfold Timestamp.stored at h
  split at h
  · cases h
  · cases h
    exact ⟨.dateRange, rfl, nofun⟩

theorem isOtherFault_of_shown {e : Event} {failure : Failure}
    (h : orBreakOff e.shown = .error failure) : IsOtherFault failure := by
  obtain ⟨fault, hfault, rfl⟩ := orBreakOff_eq_error h
  refine ⟨fault, rfl, ?_⟩
  rintro rfl
  unfold Event.shown showable at hfault
  split_ifs at hfault <;> cases hfault

theorem editDate_eq_error {column : String} {old : Instant} {edit : Edit Timestamp}
    {failure : Failure} (h : editDate column old edit = .error failure) :
    (∃ refusal, failure = .refused refusal ∧ edit = .clear) ∨ IsOtherFault failure := by
  cases edit with
  | keep => cases h
  | clear => exact Or.inl ⟨.cannotBeCleared column, (Except.error.inj h).symm, rfl⟩
  | set date => exact Or.inr (isOtherFault_of_stored h)

section Refusing
variable {s : Session} {books : Books}

theorem createEvent_of_window {draft : EventDraft} {actor : String}
    (hstart : draft.startDate.instant.isStorable = true)
    (hend : draft.endDate.instant.isStorable = true)
    (hwindow : draft.endDate.instant ≤ draft.startDate.instant) :
    books.createEvent s draft actor = .error (.refused .windowNotPositive) := by
  unfold createEvent
  rw [Timestamp.stored_eq_ok hstart, Timestamp.stored_eq_ok hend]
  dsimp only
  rw [if_pos hwindow]
  rfl

theorem createEvent_eq_error {draft : EventDraft} {actor : String} {failure : Failure}
    (h : books.createEvent s draft actor = .error failure) :
    (∃ refusal, failure = .refused refusal ∧
      draft.endDate.instant ≤ draft.startDate.instant) ∨ IsOtherFault failure := by
  unfold createEvent at h
  split at h
  · next hstart =>
    cases h
    exact Or.inr (isOtherFault_of_stored hstart)
  · next startDate hstart =>
    split at h
    · next hend =>
      cases h
      exact Or.inr (isOtherFault_of_stored hend)
    · next endDate hend =>
      split at h
      · next hwindow =>
        rw [Timestamp.eq_instant_of_stored hstart, Timestamp.eq_instant_of_stored hend] at hwindow
        exact Or.inl ⟨.windowNotPositive, (Except.error.inj h).symm, hwindow⟩
      · split at h
        · cases h
          exact Or.inr ⟨.integerRange, rfl, nofun⟩
        · dsimp only at h
          split at h
          · next hshown =>
            cases h
            exact Or.inr (isOtherFault_of_shown hshown)
          · cases h

/-- **An edit leaves no window**: a date is cleared, or the window is empty or inverted. -/
def LeavesNoWindow (old : Event) (patch : EventPatch) : Prop :=
  patch.startDate = .clear ∨ patch.endDate = .clear ∨
    patch.endDate.instant old.endDate ≤ patch.startDate.instant old.startDate

variable {id : Id} {patch : EventPatch} {actor : String} {old : Event}
  (hfound : books.events.find? id = some old)
include hfound

theorem updateEvent_of_leavesNoWindow (hstart : patch.startDate.Converts)
    (hend : patch.endDate.Converts) (h : LeavesNoWindow old patch) :
    ∃ refusal, books.updateEvent s id patch actor = .error (.refused refusal) ∧
      refusal.kind = .badRequest := by
  have hfind : books.findEvent id = .ok old := by
    unfold findEvent
    rw [hfound]
  unfold updateEvent
  rw [hfind]
  dsimp only
  by_cases hclear : patch.startDate = .clear
  · rw [hclear]
    exact ⟨_, rfl, rfl⟩
  rw [editDate_of_converts hstart hclear]
  dsimp only
  by_cases hclear' : patch.endDate = .clear
  · rw [hclear']
    exact ⟨_, rfl, rfl⟩
  rw [editDate_of_converts hend hclear']
  dsimp only
  rw [if_pos ((h.resolve_left hclear).resolve_left hclear')]
  exact ⟨_, rfl, rfl⟩

theorem updateEvent_eq_error {failure : Failure}
    (h : books.updateEvent s id patch actor = .error failure) :
    (∃ refusal, failure = .refused refusal ∧ LeavesNoWindow old patch) ∨
      IsOtherFault failure := by
  have hfind : books.findEvent id = .ok old := by
    unfold findEvent
    rw [hfound]
  unfold updateEvent at h
  rw [hfind] at h
  dsimp only at h
  split at h
  · next hstart =>
    cases h
    rcases editDate_eq_error hstart with ⟨refusal, heq, hclear⟩ | hother
    · exact Or.inl ⟨refusal, heq, Or.inl hclear⟩
    · exact Or.inr hother
  · next startDate hstart =>
    split at h
    · next hend =>
      cases h
      rcases editDate_eq_error hend with ⟨refusal, heq, hclear⟩ | hother
      · exact Or.inl ⟨refusal, heq, Or.inr (Or.inl hclear)⟩
      · exact Or.inr hother
    · next endDate hend =>
      split at h
      · next hwindow =>
        rw [eq_instant_of_editDate hstart, eq_instant_of_editDate hend] at hwindow
        exact Or.inl ⟨.windowNotPositive, (Except.error.inj h).symm, Or.inr (Or.inr hwindow)⟩
      · split at h
        · cases h
          exact Or.inr ⟨.integerRange, rfl, nofun⟩
        · split at h
          · cases h
            exact Or.inr ⟨.constraint, rfl, nofun⟩
          · split at h
            · next hshown =>
              cases h
              exact Or.inr (isOtherFault_of_shown hshown)
            · cases h

end Refusing

/-! ### What is stored -/

section Storing
variable {s : Session} {books : Books} {o : Outcome Event}

/-- **A new event** begins and ends at the instants that its draft gives. -/
theorem createEvent_dates {draft : EventDraft} {actor : String}
    (h : books.createEvent s draft actor = .ok o) :
    ∃ e, o.books.events = books.events.push e ∧ e.startDate = draft.startDate.instant ∧
      e.endDate = draft.endDate.instant := by
  unfold createEvent at h
  split at h
  · cases h
  · next startDate hstart =>
    split at h
    · cases h
    · next endDate hend =>
      split at h
      · cases h
      · split at h
        · cases h
        · dsimp only at h
          split at h
          · cases h
          · cases Except.ok.inj h
            exact ⟨_, rfl, Timestamp.eq_instant_of_stored hstart,
              Timestamp.eq_instant_of_stored hend⟩

theorem updateEvent_dates {id : Id} {patch : EventPatch} {actor : String} {old : Event}
    (hbooks : books.events.Numbered) (hfound : books.events.find? id = some old)
    (h : books.updateEvent s id patch actor = .ok o) :
    ∃ e, o.books.events.find? id = some e ∧
      e.startDate = patch.startDate.instant old.startDate ∧
        e.endDate = patch.endDate.instant old.endDate := by
  obtain ⟨event, startDate, endDate, view, hevent, hstart, hend, -, -, hnew, -, hafter, -⟩ :=
    Action.updateEvent_eq_ok h
  obtain rfl : event = old := Option.some.inj (hevent.symm.trans hfound)
  refine ⟨event.stored o.answer, ?_, ?_, ?_⟩
  · rw [hafter]
    exact hbooks.find?_put_of_find? hfound (by rw [hnew]; rfl)
  · rw [hnew, eq_instant_of_editDate hstart]
    rfl
  · rw [hnew, eq_instant_of_editDate hend]
    rfl

end Storing

end Books

/-! ### Along a run -/

/-- **The window of an event** begins before it ends. -/
def Event.IsOpen (e : Event) : Prop := e.startDate < e.endDate

theorem Change.isOpen {s : Session} {books after : Books} {action : Action} {notes : List Note}
    (h : Change s books action after notes) (hbooks : ∀ e ∈ books.events.rows, e.IsOpen) :
    ∀ e ∈ after.events.rows, e.IsOpen := by
  intro e he
  rcases h.mem_events he with hold | ⟨_, startDate, endDate, _, _, -, hwindow, rfl, -⟩ |
    ⟨old, hold, _, _, startDate, endDate, _, new, _, -, hwindow, rfl, -, rfl⟩ | ⟨old, hold, rfl⟩
  · exact hbooks e hold
  · exact hwindow
  · exact hwindow
  · exact hbooks old hold

theorem Database.Reachable.isOpen {P : Action → Prop} {db : Database} (h : db.Reachable P) :
    ∀ e ∈ db.books.events.rows, e.IsOpen := by
  refine (h.mono fun _ _ => trivial).keeps (P := fun _ => True) (fun _ _ => trivial)
    (I := fun books => ∀ e ∈ books.events.rows, e.IsOpen) (by simp) ?_
  intro s books action after notes _ hbooks hchange
  exact hchange.isOpen hbooks

theorem Action.Writing.crowded_of_findsIssues {s : Session} {db : Database} {action : Action}
    (hwriting : action.Writing) (hformed : action.IsFormed) (hnumbered : db.books.Numbered)
    (hshaped : db.books.Shaped) (h : action.FindsIssues s db) : action.Crowded db.books := by
  by_contra hcrowded
  rcases h with ⟨issues, hperform⟩ | ⟨reply, after, issues, hperform, hissues⟩
  · exact hwriting.not_isUnfit hformed hshaped hcrowded hperform trivial
  · obtain ⟨notes, hchange, -⟩ := Action.perform_eq_ok hperform
    rcases hwriting.presentable hnumbered (hchange.numbered hnumbered)
        (hchange.shaped hformed hnumbered hshaped) hperform with
      ⟨data, -, hdata, -⟩ | ⟨-, hdata, -⟩
    · rw [hdata] at hissues
      cases hissues
    · rw [hdata] at hissues
      cases hissues

section
variable {db : Database} (h : db.Reachable Action.IsFormed) {m : Moment}
  (hm : m.CallsOnly Action.IsFormed)
include h hm

/-- An action that writes is answered with 400 or above if it is refused, or if it changes a crowded
event. -/
theorem Moment.refused_or_crowded {action : Action} (hasked : m.asked? = some action)
    (hwriting : action.Writing) {code : Nat} (hcode : m.status? db = some code) (hle : 400 ≤ code) :
    (∃ refusal, action.perform m.acting db = .error (.refused refusal)) ∨
      action.Crowded db.books := by
  have hformed : action.IsFormed := by
    rcases Moment.isAsked_or_call hasked with hisAsked | hcall
    · exact hisAsked.isFormed
    · exact hm action hcall
  rcases Moment.failed hasked hcode hle with ⟨refusal, hperform, -⟩ | hissues
  · exact Or.inl ⟨refusal, hperform⟩
  · exact Or.inr (hwriting.crowded_of_findsIssues hformed h.numbered h.shaped hissues)

/-- **A new event is refused** with 400 just if its window is empty or inverted. -/
theorem Moment.status?_createEvent {draft : EventDraft} {actor : String}
    (hasked : m.asked? = some (.createEvent draft actor))
    (hstart : draft.startDate.instant.isStorable = true)
    (hend : draft.endDate.instant.isStorable = true) :
    m.status? db = some 400 ∧ m.after db = db ↔
      draft.endDate.instant ≤ draft.startDate.instant := by
  constructor
  · rintro ⟨hstatus, -⟩
    rcases Moment.refused_or_crowded h hm hasked trivial hstatus (Nat.le_refl _) with
      ⟨refusal, hperform⟩ | hcrowded
    · rcases Books.createEvent_eq_error (Action.settle_eq_error hperform) with
        ⟨-, -, hwindow⟩ | ⟨fault, hfault, -⟩
      · exact hwindow
      · cases hfault
    · exact hcrowded.elim
  · intro hwindow
    have hperform : (Action.createEvent draft actor).perform m.acting db =
        .error (.refused .windowNotPositive) := by
      simp only [Action.perform, Action.settle, Books.createEvent_of_window hstart hend hwindow]
    obtain ⟨hsame, hstatus⟩ := Moment.refused hasked hperform
    exact ⟨hstatus, hsame⟩

end

/-- **An edit is refused** just if it leaves no window. -/
theorem Action.updateEvent_refused_iff {s : Session} {db : Database} {id : Id} {patch : EventPatch}
    {actor : String} {old : Event} (hfound : db.books.events.find? id = some old)
    (hstart : patch.startDate.Converts) (hend : patch.endDate.Converts) :
    (∃ refusal, (Action.updateEvent id patch actor).perform s db = .error (.refused refusal) ∧
      refusal.kind.status = 400) ↔ Books.LeavesNoWindow old patch := by
  constructor
  · rintro ⟨refusal, hperform, -⟩
    rcases Books.updateEvent_eq_error hfound (settle_eq_error hperform) with
      ⟨-, -, hwindow⟩ | ⟨fault, hfault, -⟩
    · exact hwindow
    · cases hfault
  · intro hwindow
    have hrefused : ∃ refusal, db.books.updateEvent s id patch actor = .error (.refused refusal) ∧
        refusal.kind = .badRequest :=
      Books.updateEvent_of_leavesNoWindow hfound hstart hend hwindow
    obtain ⟨refusal, hupdate, hkind⟩ := hrefused
    refine ⟨refusal, ?_, by rw [hkind]; rfl⟩
    simp only [perform, settle, hupdate]

/-- **The windows of events stay open.** In every database that can be reached each event begins
before it ends. Whatever offsets the dates of a new event have, as long as they stay within the
years 1 to 9999 it is answered with 400, and nothing changes, just if its window is empty or
inverted as instants. An edit is refused in this way just if it clears a date, or if the window that
it leaves, with the stored dates for those that are not given, is empty or inverted; the only other
answer with 400 is that of a command about an event with more participants than 64 bits count. What
is accepted is stored as the instants that were given, and dates can always be compared. -/
theorem event_windows_stay_open {db : Database} (h : db.Reachable Action.IsFormed) :
    (∀ e ∈ db.books.events.rows, e.startDate < e.endDate) ∧
    ∀ m : Moment, m.CallsOnly Action.IsFormed →
      (∀ draft actor, m.asked? = some (.createEvent draft actor) →
        (draft.startDate.instant.isStorable = true → draft.endDate.instant.isStorable = true →
          (m.status? db = some 400 ∧ m.after db = db ↔
            draft.endDate.instant ≤ draft.startDate.instant)) ∧
        (∀ code < 400, m.status? db = some code →
          ∃ e, (m.after db).books.events = db.books.events.push e ∧
            e.startDate = draft.startDate.instant ∧ e.endDate = draft.endDate.instant) ∧
        (Action.createEvent draft actor).perform m.acting db ≠ .error (.fault .incomparable)) ∧
      ∀ id patch actor old, m.asked? = some (.updateEvent id patch actor) →
        db.books.events.find? id = some old →
        (patch.startDate.Converts → patch.endDate.Converts →
          ((∃ refusal, (Action.updateEvent id patch actor).perform m.acting db =
              .error (.refused refusal) ∧ refusal.kind.status = 400) ↔
            Books.LeavesNoWindow old patch) ∧
          (Books.LeavesNoWindow old patch → m.status? db = some 400 ∧ m.after db = db) ∧
          (m.status? db = some 400 →
            Books.LeavesNoWindow old patch ∨ fits64 old.participantCount = false)) ∧
        (∀ code < 400, m.status? db = some code →
          ∃ e, (m.after db).books.events.find? id = some e ∧
            e.startDate = patch.startDate.instant old.startDate ∧
              e.endDate = patch.endDate.instant old.endDate) ∧
        (Action.updateEvent id patch actor).perform m.acting db ≠
          .error (.fault .incomparable) := by
  refine ⟨h.isOpen, fun m hm => ⟨fun draft actor hasked => ⟨?_, ?_, ?_⟩,
    fun id patch actor old hasked hfound => ⟨fun hstart hend => ⟨?_, ?_, ?_⟩, ?_, ?_⟩⟩⟩
  · exact Moment.status?_createEvent h hm hasked
  · intro code hlt hcode
    obtain ⟨reply, hperform⟩ := Moment.succeeded hasked hcode hlt
    obtain ⟨o, ho, -, hbooks⟩ := Action.settle_eq_ok hperform
    rw [hbooks]
    exact Books.createEvent_dates ho
  · intro hperform
    rcases Books.createEvent_eq_error (Action.settle_eq_error hperform) with
      ⟨refusal, hrefused, -⟩ | ⟨fault, hfault, hne⟩
    · cases hrefused
    · exact hne (Failure.fault.inj hfault).symm
  · exact Action.updateEvent_refused_iff hfound hstart hend
  · intro hwindow
    obtain ⟨refusal, hperform, hkind⟩ :=
      (Action.updateEvent_refused_iff hfound hstart hend).mpr hwindow
    obtain ⟨hsame, hstatus⟩ := Moment.refused hasked hperform
    exact ⟨hkind ▸ hstatus, hsame⟩
  · intro hstatus
    rcases Moment.refused_or_crowded h hm hasked trivial hstatus (Nat.le_refl _) with
      ⟨refusal, hperform⟩ | ⟨e, hfound', hcount⟩
    · rcases Books.updateEvent_eq_error hfound (Action.settle_eq_error hperform) with
        ⟨-, -, hwindow⟩ | ⟨fault, hfault, -⟩
      · exact Or.inl hwindow
      · cases hfault
    · rw [hfound, Option.some.injEq] at hfound'
      exact Or.inr (hfound' ▸ hcount)
  · intro code hlt hcode
    obtain ⟨reply, hperform⟩ := Moment.succeeded hasked hcode hlt
    obtain ⟨o, ho, -, hbooks⟩ := Action.settle_eq_ok hperform
    rw [hbooks]
    exact Books.updateEvent_dates h.numbered.events hfound ho
  · intro hperform
    rcases Books.updateEvent_eq_error hfound (Action.settle_eq_error hperform) with
      ⟨refusal, hrefused, -⟩ | ⟨fault, hfault, hne⟩
    · cases hrefused
    · exact hne (Failure.fault.inj hfault).symm

/-- The event of `offeringRun` is to end at a time that is given with an offset of nine hours. -/
def endingAt (clock : String) : Moment :=
  ⟨{ clock := ⟨3000000⟩ },
    .request ((WritingVerb.updateEvent ({} : Table Event).nextId.text).request "admin"
      [("end_date", .str ("1970-01-01T" ++ clock ++ "+09:00"))])⟩

/-- The edits of the dates of an event that an action asks for. -/
def Action.dateEdits? : Action → Option (Id × Edit Timestamp × Edit Timestamp)
  | .updateEvent id patch _ => some (id, patch.startDate, patch.endDate)
  | _ => none

theorem Moment.exists_of_dateEdits? {m : Moment} {id : Id} {startDate endDate : Edit Timestamp}
    (h : m.asked?.bind Action.dateEdits? = some (id, startDate, endDate)) :
    ∃ patch actor, m.asked? = some (.updateEvent id patch actor) ∧ patch.startDate = startDate ∧
      patch.endDate = endDate := by
  obtain ⟨action, hasked, hedits⟩ := Option.bind_eq_some_iff.mp h
  cases action with
  | updateEvent id patch actor =>
    cases Option.some.inj hedits
    exact ⟨patch, actor, hasked, rfl, rfl⟩
  | _ => cases hedits

/-- The event began at midnight UTC. Nine o'clock with the offset is the same instant, so the edit
is refused, although the text of the date is the later one; a second later will do. -/
theorem event_windows_stay_open_offeringRun :
    (Database.empty.after offeringRun).Reachable Action.IsFormed ∧
      ((endingAt "09:00:00").status? (Database.empty.after offeringRun) = some 400 ∧
        (endingAt "09:00:00").after (Database.empty.after offeringRun) =
          Database.empty.after offeringRun) ∧
      ∃ e, ((endingAt "09:00:01").after (Database.empty.after offeringRun)).books.events.find?
          ({} : Table Event).nextId = some e ∧
        e.startDate = ⟨0⟩ ∧ e.endDate = ⟨1000000⟩ := by
  have hcalls (clock : String) : (endingAt clock).CallsOnly Action.IsFormed :=
    fun _ hcall => nomatch hcall
  obtain ⟨old, hfound, hold⟩ := Option.map_eq_some_iff.mp
    (by decide +kernel : ((Database.empty.after offeringRun).books.events.find?
      ({} : Table Event).nextId).map (fun e => (e.startDate, e.endDate)) =
        some (⟨0⟩, ⟨86400000000⟩))
  obtain ⟨hstartDate, -⟩ := Prod.mk.inj hold
  have hwindows (clock : String) :=
    ((event_windows_stay_open reachable_offeringRun).2 (endingAt clock) (hcalls clock)).2
  refine ⟨reachable_offeringRun, ?_, ?_⟩
  · obtain ⟨patch, actor, hasked, hstart, hend⟩ := Moment.exists_of_dateEdits?
      (by decide +kernel : (endingAt "09:00:00").asked?.bind Action.dateEdits? =
        some (({} : Table Event).nextId, .keep, .set ⟨⟨32400000000⟩, some 540⟩))
    have hconverts := (hwindows "09:00:00" _ patch actor old hasked hfound).1
    rw [hstart, hend] at hconverts
    refine (hconverts (fun _ hset => nomatch hset) ?_).2.1 (Or.inr (Or.inr ?_))
    · intro date hset
      cases hset
      decide
    · rw [hstart, hend]
      show (⟨⟨32400000000⟩, some 540⟩ : Timestamp).instant ≤ old.startDate
      rw [hstartDate]
      decide
  · obtain ⟨patch, actor, hasked, hstart, hend⟩ := Moment.exists_of_dateEdits?
      (by decide +kernel : (endingAt "09:00:01").asked?.bind Action.dateEdits? =
        some (({} : Table Event).nextId, .keep, .set ⟨⟨32401000000⟩, some 540⟩))
    have hstores := (hwindows "09:00:01" _ patch actor old hasked hfound).2.1
    rw [hstart, hend] at hstores
    obtain ⟨e, hafter, hstart', hend'⟩ := hstores 200 (by decide) (by decide +kernel)
    refine ⟨e, hafter, hstart'.trans hstartDate, hend'.trans ?_⟩
    show (⟨⟨32401000000⟩, some 540⟩ : Timestamp).instant = ⟨1000000⟩
    decide

end Promotions
