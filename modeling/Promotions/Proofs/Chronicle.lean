import Promotions.Proofs.Ledger
import Promotions.Proofs.Shapes

/-!
# How the status of an event changed

The journal tells which status an event was made with, and each change of it. `Trail` says that
changes lead from one value to another, each beginning where the one before it ended. What is told
of an event is such a trail from the status it was made with to the one it has (`Chronicle`), and
every change keeps it so (`Change.chronicled`): what is noted of one event is not about another, and
a new event has an identifier of which nothing was told.
-/

namespace Promotions

/-! ### Details without reserved members -/

namespace Json

theorem lookup_withoutReservedMembers {name : String} (hname : isReserved name = false)
    (members : List (String × Json)) :
    lookup name (withoutReservedMembers members) = (lookup name members).map withoutReserved := by
  induction members with
  | nil => simp [withoutReservedMembers, lookup]
  | cons member rest ih =>
    obtain ⟨key, value⟩ := member
    by_cases hkey : key = name
    · simp [withoutReservedMembers, lookup, hkey, hname]
    · cases hreserved : isReserved key <;>
        simp [withoutReservedMembers, lookup, hkey, hreserved, ih]

theorem get?_withoutReserved {name : String} (hname : isReserved name = false) (value : Json) :
    value.withoutReserved.get? name = (value.get? name).map withoutReserved := by
  cases value with
  | obj members =>
    simp only [withoutReserved, get?]
    exact lookup_withoutReservedMembers hname members
  | null | bool | int | double | str | arr => simp [withoutReserved, get?]

end Json

/-! ### How the status of an event changed -/

/-- **A trail of changes**: each begins where the one before it ended, and leads to something
else. -/
def Trail {α : Type} : α → List (α × α) → α → Prop
  | first, [], last => first = last
  | first, (old, new) :: rest, last => first = old ∧ old ≠ new ∧ Trail new rest last

theorem Trail.concat {α : Type} {first middle last : α} {changes : List (α × α)}
    (h : Trail first changes middle) (hne : middle ≠ last) :
    Trail first (changes ++ [(middle, last)]) last := by
  induction changes generalizing first with
  | nil => exact ⟨h, hne, rfl⟩
  | cons change rest ih => exact ⟨h.1, h.2.1, ih h.2.2⟩

namespace Note

/-- The status that the snapshot of an event shows. -/
def snapshotStatus (note : Note) : Option Json :=
  (note.details.get? "event").bind (Json.get? "status")

/-- The statuses before and after a change. -/
def statusChange (note : Note) : Option Json × Option Json :=
  (note.details.get? "previousStatus", note.details.get? "newStatus")

end Note

theorem EventStatus.eq_of_name_eq {a b : EventStatus} (ha : a ∈ listed) (hb : b ∈ listed)
    (hname : a.name = b.name) : a = b := by
  simp only [listed, List.mem_cons, List.not_mem_nil, or_false] at ha hb
  rcases ha with rfl | rfl | rfl | rfl <;> rcases hb with rfl | rfl | rfl | rfl <;>
    first | rfl | simp [name] at hname

section Notes
open Books

theorem snapshotStatus_eventCreated {event : Event} {view : Json} (hview : event.shown = .ok view)
    (actor : String) :
    (eventCreated event view actor).kept.snapshotStatus = some (.str event.status.name) := by
  obtain ⟨-, -, rfl⟩ := showable_eq_ok_iff.mp hview
  have hevent : (eventCreated event event.view actor).details.get? "event" = some event.view := rfl
  rw [Note.snapshotStatus, Note.kept, Json.get?_withoutReserved (by decide), hevent,
    Option.map_some, Option.bind_some, Json.get?_withoutReserved (by decide)]
  rfl

/-- The note of a change tells both statuses, and there is none if nothing changed. -/
theorem eventStatusChanged_eq (old new : Event) (actor : String) :
    old.status = new.status ∧ eventStatusChanged old new actor = [] ∨
      old.status ≠ new.status ∧ ∃ note, eventStatusChanged old new actor = [note] ∧
        note.logType = .eventStatusChanged ∧ note.eventId = some new.id ∧
          note.kept.statusChange =
            (some (.str old.status.name), some (.str new.status.name)) := by
  unfold eventStatusChanged
  split
  · next hsame => exact Or.inl ⟨hsame, rfl⟩
  · next hother =>
    refine Or.inr ⟨hother, _, rfl, rfl, rfl, ?_⟩
    rw [Note.statusChange, Note.kept, Json.get?_withoutReserved (by decide),
      Json.get?_withoutReserved (by decide)]
    rfl

theorem eventId_eq_of_mem_eventStatusChanged {old new : Event} {actor : String} {note : Note}
    (h : note ∈ eventStatusChanged old new actor) : note.eventId = some new.id := by
  unfold eventStatusChanged at h
  split at h
  · cases h
  · rw [List.mem_singleton.mp h]

end Notes

/-! ### What is told of an event -/

/-- The note tells of the status of an event. -/
def Note.TellsStatus (note : Note) : Prop :=
  note.logType = .eventCreated ∨ note.logType = .eventStatusChanged

/-- What is told of a kind about an event. -/
def ofEvent (logType : LogType) (eventId : Id) (told : List Note) : List Note :=
  told.filter fun note => note.logType = logType ∧ note.eventId = some eventId

/-- **What is told of an event**: the status that it was made with, once, and a trail of changes
from there to the one it has. -/
def Chronicle (told : List Note) (eventId : Id) (status : EventStatus) : Prop :=
  ∃ first, (ofEvent .eventCreated eventId told).map Note.snapshotStatus = [first] ∧
    Trail first ((ofEvent .eventStatusChanged eventId told).map Note.statusChange)
      (some (.str status.name))

section Chronicle
variable {logType : LogType} {eventId : Id} {status : EventStatus} {told more : List Note}

theorem ofEvent_append : ofEvent logType eventId (told ++ more) =
    ofEvent logType eventId told ++ ofEvent logType eventId more := List.filter_append _ _

theorem ofEvent_eq_nil
    (h : ∀ note ∈ told, note.logType = logType → note.eventId ≠ some eventId) :
    ofEvent logType eventId told = [] :=
  List.filter_eq_nil_iff.mpr fun note hnote => by simpa using h note hnote

theorem Chronicle.append (h : Chronicle told eventId status)
    (hmore : ∀ note ∈ more, note.TellsStatus → note.eventId ≠ some eventId) :
    Chronicle (told ++ more) eventId status := by
  obtain ⟨first, hfirst, htrail⟩ := h
  refine ⟨first, ?_, ?_⟩
  · rw [ofEvent_append, ofEvent_eq_nil fun note hnote hkind => hmore note hnote (.inl hkind),
      List.append_nil, hfirst]
  · rw [ofEvent_append, ofEvent_eq_nil fun note hnote hkind => hmore note hnote (.inr hkind),
      List.append_nil]
    exact htrail

theorem Chronicle.concat {old new : EventStatus} (h : Chronicle told eventId old)
    (hne : old.name ≠ new.name) {note : Note} (hkind : note.logType = .eventStatusChanged)
    (hid : note.eventId = some eventId)
    (hchange : note.statusChange = (some (.str old.name), some (.str new.name))) :
    Chronicle (told ++ [note]) eventId new := by
  obtain ⟨first, hfirst, htrail⟩ := h
  have hthis : ofEvent .eventStatusChanged eventId [note] = [note] := by simp [ofEvent, hkind, hid]
  have hnone : ofEvent .eventCreated eventId [note] = [] := by simp [ofEvent, hkind]
  refine ⟨first, by rw [ofEvent_append, hnone, List.append_nil, hfirst], ?_⟩
  rw [ofEvent_append, hthis, List.map_append, List.map_singleton, hchange]
  exact htrail.concat (by simpa using hne)

end Chronicle

/-- Which status an event has. -/
def Event.standing (e : Event) : Id × EventStatus := (e.id, e.status)

namespace Books

/-- **The journal tells of each event how it came to its status**, and of no others. -/
structure Chronicled (books : Books) (told : List Note) : Prop where
  listed : ∀ e ∈ books.events.rows, e.status ∈ EventStatus.listed
  known : ∀ note ∈ told, note.TellsStatus → ∃ e ∈ books.events.rows, note.eventId = some e.id
  chronicle : ∀ e ∈ books.events.rows, Chronicle told e.id e.status

theorem chronicled_empty : ({} : Books).Chronicled [] where
  listed := by simp
  known := by simp
  chronicle := by simp

section Chronicled
variable {books after : Books} {told notes : List Note}

theorem Chronicled.of_eq (h : books.Chronicled told)
    (hevents : after.events.rows.map Event.standing = books.events.rows.map Event.standing)
    (hnotes : ∀ note ∈ notes, ¬note.TellsStatus) :
    after.Chronicled (told ++ notes.map Note.kept) := by
  have hnotes' : ∀ note ∈ notes.map Note.kept, ¬note.TellsStatus := List.forall_mem_map.mpr hnotes
  have hold : ∀ e ∈ after.events.rows, ∃ old ∈ books.events.rows,
      old.id = e.id ∧ old.status = e.status := fun e he => by
    obtain ⟨old, hmem, heq⟩ := List.mem_map.mp (hevents ▸ List.mem_map_of_mem he)
    exact ⟨old, hmem, congrArg Prod.fst heq, congrArg Prod.snd heq⟩
  refine ⟨fun e he => ?_, fun note hnote htells => ?_, fun e he => ?_⟩
  · obtain ⟨old, hmem, -, hstatus⟩ := hold e he
    rw [← hstatus]
    exact h.listed old hmem
  · rcases List.mem_append.mp hnote with hnote | hnote
    · obtain ⟨old, hmem, hid⟩ := h.known note hnote htells
      obtain ⟨e, he, heq⟩ := List.mem_map.mp (hevents.symm ▸ List.mem_map_of_mem hmem)
      exact ⟨e, he, hid.trans (congrArg some (congrArg Prod.fst heq).symm)⟩
    · exact absurd htells (hnotes' note hnote)
  · obtain ⟨old, hmem, hid, hstatus⟩ := hold e he
    rw [← hid, ← hstatus]
    exact (h.chronicle old hmem).append fun note hnote htells => absurd htells (hnotes' note hnote)

/-- **A new event** begins its chronicle: of its identifier nothing was told before. -/
theorem Chronicled.eventMade (h : books.Chronicled told) (hbooks : books.events.Numbered)
    {event : Event} {view : Json} (hid : event.id = books.events.nextId)
    (hstatus : event.status ∈ EventStatus.listed) (hview : event.shown = .ok view)
    (actor : String) :
    ({ books with events := books.events.push event } : Books).Chronicled
      (told ++ [(eventCreated event view actor).kept]) := by
  have hother : ∀ e ∈ books.events.rows, e.id ≠ event.id := fun e he heq =>
    hbooks.id_ne_nextId he (heq.trans hid)
  refine ⟨fun e he => ?_, fun note hnote htells => ?_, fun e he => ?_⟩
  · rcases List.mem_append.mp he with he | he
    · exact h.listed e he
    · rwa [List.mem_singleton.mp he]
  · rcases List.mem_append.mp hnote with hnote | hnote
    · obtain ⟨e, he, heq⟩ := h.known note hnote htells
      exact ⟨e, List.mem_append_left _ he, heq⟩
    · exact ⟨event, by simp, by rw [List.mem_singleton.mp hnote]; rfl⟩
  · rcases List.mem_append.mp he with he | he
    · refine (h.chronicle e he).append fun note hnote _ heq => hother e he ?_
      rw [List.mem_singleton.mp hnote] at heq
      exact (Option.some.inj heq).symm
    · rw [List.mem_singleton.mp he]
      have hnone : ∀ note ∈ told, note.TellsStatus → note.eventId ≠ some event.id := by
        intro note hnote htells heq
        obtain ⟨e, he, hid⟩ := h.known note hnote htells
        exact hother e he (Option.some.inj (hid.symm.trans heq))
      refine ⟨some (.str event.status.name), ?_, ?_⟩
      · have hthis : ofEvent .eventCreated event.id [(eventCreated event view actor).kept] =
            [(eventCreated event view actor).kept] := by simp [ofEvent, Note.kept, eventCreated]
        rw [ofEvent_append, ofEvent_eq_nil fun note hnote hkind => hnone note hnote (.inl hkind),
          hthis, List.nil_append, List.map_singleton, snapshotStatus_eventCreated hview]
      · have hthis : ofEvent .eventStatusChanged event.id
            [(eventCreated event view actor).kept] = [] := by
          simp [ofEvent, Note.kept, eventCreated]
        rw [ofEvent_append, ofEvent_eq_nil fun note hnote hkind => hnone note hnote (.inr hkind),
          hthis]
        rfl

/-- **A change of an event** is told if it gives another status. -/
theorem Chronicled.eventEdited (h : books.Chronicled told) {old new : Event}
    (hold : old ∈ books.events.rows) (hid : new.id = old.id)
    (hstatus : new.status ∈ EventStatus.listed) {row : Event} (hrow : row.standing = new.standing)
    (actor : String) {updated : Note} (hupdated : ¬updated.TellsStatus) :
    ({ books with events := books.events.put row } : Books).Chronicled
      (told ++ (eventStatusChanged old new actor ++ [updated]).map Note.kept) := by
  have hrowid : row.id = old.id := (congrArg Prod.fst hrow).trans hid
  have hrowstatus : row.status = new.status := congrArg Prod.snd hrow
  have hmem {e : Event} : e ∈ (books.events.put row).rows ↔
      e = row ∨ e ∈ books.events.rows ∧ e.id ≠ old.id := Table.mem_put_iff hold hrowid
  have hthis : ∀ note ∈ (eventStatusChanged old new actor ++ [updated]).map Note.kept,
      note.TellsStatus → note.eventId = some old.id := by
    refine List.forall_mem_map.mpr fun note hnote htells => ?_
    rcases List.mem_append.mp hnote with hnote | hnote
    · exact (eventId_eq_of_mem_eventStatusChanged hnote).trans (congrArg some hid)
    · cases List.mem_singleton.mp hnote
      exact absurd htells hupdated
  refine ⟨fun e he => ?_, fun note hnote htells => ?_, fun e he => ?_⟩
  · rcases hmem.mp he with rfl | ⟨he, -⟩
    · rwa [hrowstatus]
    · exact h.listed e he
  · have hknown : ∃ e ∈ books.events.rows, note.eventId = some e.id := by
      rcases List.mem_append.mp hnote with hnote | hnote
      · exact h.known note hnote htells
      · exact ⟨old, hold, hthis note hnote htells⟩
    obtain ⟨e, he, heq⟩ := hknown
    by_cases heid : e.id = old.id
    · exact ⟨row, hmem.mpr (.inl rfl), by rw [heq, heid, hrowid]⟩
    · exact ⟨e, hmem.mpr (.inr ⟨he, heid⟩), heq⟩
  · rcases hmem.mp he with rfl | ⟨he, hne⟩
    · have hupdated' : ∀ note ∈ [updated.kept], note.TellsStatus → note.eventId ≠ some old.id :=
        List.forall_mem_singleton.mpr fun htells => absurd htells hupdated
      rw [hrowid, hrowstatus]
      rcases eventStatusChanged_eq old new actor with
        ⟨hsame, hnone⟩ | ⟨hother, note, hfound, hkind, hnew, hchange⟩
      · rw [hnone, ← hsame]
        exact (h.chronicle old hold).append hupdated'
      · have hname : old.status.name ≠ new.status.name := fun hname =>
          hother (EventStatus.eq_of_name_eq (h.listed old hold) hstatus hname)
        rw [hfound, List.map_append, ← List.append_assoc]
        have htold : Chronicle (told ++ [note.kept]) old.id new.status :=
          (h.chronicle old hold).concat hname hkind (hnew.trans (congrArg some hid)) hchange
        exact htold.append hupdated'
    · exact (h.chronicle e he).append fun note hnote htells heq =>
        hne (Option.some.inj (heq.symm.trans (hthis note hnote htells)))

end Chronicled

theorem Moving.not_tellsStatus {s : Session} {books after : Books} {request : RewardRequest}
    {operator reason : Option String} {now : Instant} {target : RequestStatus} {notes : List Note}
    (h : Moving s books request operator reason now target after notes) :
    ∀ note ∈ notes, ¬note.TellsStatus := by
  cases h with
  | @approved ids issued grants granted note hwanted hids hgranting hgrants hnote =>
    obtain ⟨first, items, -, rfl⟩ := requestMoved_eq_ok hnote
    intro found hfound
    rcases List.mem_append.mp hfound with hfound | hfound
    · simp [Note.TellsStatus, hgranting.logType_eq found hfound]
    · simp [Note.TellsStatus, List.mem_singleton.mp hfound, requestNote]
  | rejected hnote | cancelled hnote | delivered hnote =>
    obtain ⟨first, items, -, rfl⟩ := requestMoved_eq_ok hnote
    simp [Note.TellsStatus, requestNote]

theorem Filing.not_tellsStatus {s : Session} {books after : Books} {event : Event}
    {rewards : List Id} {userId : String} {verificationData : Json} {now : Instant}
    {request : RewardRequest} {notes : List Note}
    (h : Filing s books event rewards userId verificationData now request after notes) :
    ∀ note ∈ notes, ¬note.TellsStatus := by
  rw [h.notes_eq]
  simp [Note.TellsStatus, requestNote]

end Books

open Books

/-- **Every change keeps the chronicles**, if statuses of events come from forms and no note is
written by itself. -/
theorem Change.chronicled {s : Session} {books after : Books} {action : Action}
    {told notes : List Note} (h : Change s books action after notes) (hformed : action.IsFormed)
    (hnoted : ∀ note, action ≠ .record note) (hbooks : books.Numbered)
    (htold : books.Chronicled told) : after.Chronicled (told ++ notes.map Note.kept) := by
  cases h with
  | nothing => simpa using htold
  | noted note => exact absurd rfl (hnoted _)
  | @eventMade draft actor startDate endDate event view _ _ _ hevent hview =>
    refine htold.eventMade hbooks.events (by rw [hevent]; rfl) ?_ hview actor
    rw [hevent]
    exact EventDraft.status_mem_listed hformed.1
  | @eventEdited id patch actor old new startDate endDate view hold _ _ _ _ hnew =>
    have hmem := Table.mem_of_find?_eq_some hold
    have hquiet : ¬(eventUpdated new view patch.changes actor).TellsStatus := by
      simp [Note.TellsStatus, eventUpdated]
    have hrow : (old.stored new).standing = new.standing := rfl
    refine htold.eventEdited hmem (by rw [hnew]; rfl) ?_ hrow actor hquiet
    have hstatus : new.status = patch.status.getD old.status := by rw [hnew]; rfl
    rw [hstatus]
    cases hset : patch.status with
    | set status => exact EventPatch.status_mem_listed hformed.1 hset
    | keep | clear => exact htold.listed old hmem
  | rewardMade | rewardEdited =>
    exact htold.of_eq rfl (by simp [Note.TellsStatus, rewardCreated, rewardUpdated])
  | tookPart =>
    refine htold.of_eq ?_ (by simp [Note.TellsStatus, eventParticipated])
    rw [countParticipant, Table.rows_modify, List.map_map]
    refine List.map_congr_left fun e _ => ?_
    simp only [Function.comp]
    split_ifs <;> rfl
  | filed _ hraced hfiling =>
    refine htold.of_eq ?_ hfiling.not_tellsStatus
    rw [hfiling.events_eq, hraced.events_eq]
  | filedAndApproved _ hraced hfiling _ hfound hmay hmoving =>
    refine htold.of_eq ?_ (List.forall_mem_append.mpr
      ⟨hfiling.not_tellsStatus, hmoving.not_tellsStatus⟩)
    rw [hmoving.events_eq, hfiling.events_eq, hraced.events_eq]
  | moved _ _ hmoving | cancelled _ _ _ hmoving =>
    exact htold.of_eq (by rw [hmoving.events_eq]) hmoving.not_tellsStatus
  | issued _ _ _ hgranting =>
    refine htold.of_eq ?_ fun note hnote => ?_
    · obtain ⟨rewards, table, rfl⟩ := hgranting.exists_eq
      rfl
    · simp [Note.TellsStatus, hgranting.logType_eq note hnote]
  | used => exact htold.of_eq rfl (by simp [Note.TellsStatus, rewardUsed])
  | expired => exact htold.of_eq rfl (by simp)

end Promotions
