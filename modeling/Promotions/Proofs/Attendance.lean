import Promotions.Proofs.Forms
import Promotions.Proofs.Wanted

/-!
# Participations are counted

Four things tell how often somebody took part in an event: the participations themselves, the
counter of the event, the ordinal that each participation carries, and the key that makes a
participation the only one of its user. They are kept by different means, and whether an event
admits a user more than once may be edited at any time. `Books.Attended` ties them together.

What matters of a participation never changes once it is there (`Participation.attendance`), so that
every change of the books appends to the `roll`. What it appends is `Books.arrivals`, at most one
participation, which the event had to let in (`Books.Enters`), and the counters move by just that
(`Change.arrivals`). Whoever may enter only once, or only while there is room, is then counted along
a run (`countP_roll_le_one`, `participantCount_le_limit`).
-/

namespace Promotions

open Table (Evolves newRows)

/-- What of a participation never changes. -/
structure Attendance where
  id : Id
  eventId : Id
  userId : String
  status : ParticipationStatus
  ordinal : Int
  key : Option String

namespace Attendance

/-- The attendance is one of a user in an event. -/
def isOf (a : Attendance) (eventId : Id) (userId : String) : Bool :=
  a.eventId = eventId && a.userId = userId

/-- Two attendances have the same key. -/
def SharesKey (a b : Attendance) : Prop := ∃ key, a.key = some key ∧ b.key = some key

end Attendance

namespace Participation

/-- What of the participation never changes. -/
def attendance (p : Participation) : Attendance :=
  { id := p.id
    eventId := p.eventId
    userId := p.userId
    status := p.status
    ordinal := p.participationCount
    key := p.dedupeKey }

theorem isOf_attendance {p : Participation} {eventId : Id} {userId : String} :
    p.attendance.isOf eventId userId = true ↔ p.eventId = eventId ∧ p.userId = userId := by
  simp only [Attendance.isOf, Bool.and_eq_true, decide_eq_true_eq]
  rfl

end Participation

/-! ### The roll -/

/-- **A roll is in order**: the attendances of a user in an event carry the numbers from one on, and
a key names the first of them and is there once. -/
structure InOrder (roll : List Attendance) : Prop where
  participated : ∀ a ∈ roll, a.status = .participated
  ordinals : ∀ eventId userId, (roll.filter (·.isOf eventId userId)).map Attendance.ordinal =
    (List.range (roll.countP (·.isOf eventId userId))).map fun k => (k : Int) + 1
  keyed : ∀ a ∈ roll, ∀ key, a.key = some key →
    key = a.eventId.text ++ ":" ++ a.userId ∧ a.ordinal = 1
  unshared : roll.Pairwise fun a b => ¬a.SharesKey b

theorem inOrder_nil : InOrder [] where
  participated := by simp
  ordinals := by simp
  keyed := by simp
  unshared := .nil

theorem InOrder.append {roll : List Attendance} (h : InOrder roll) {a : Attendance}
    (hstatus : a.status = .participated)
    (hordinal : a.ordinal = roll.countP (·.isOf a.eventId a.userId) + 1)
    (hkey : ∀ key, a.key = some key →
      key = a.eventId.text ++ ":" ++ a.userId ∧ roll.countP (·.isOf a.eventId a.userId) = 0)
    (hnew : ∀ b ∈ roll, ¬b.SharesKey a) : InOrder (roll ++ [a]) where
  participated := by
    intro b hb
    rcases List.mem_append.mp hb with hb | hb
    · exact h.participated b hb
    · rw [List.mem_singleton.mp hb, hstatus]
  ordinals := by
    intro eventId userId
    rw [List.filter_append, List.map_append, h.ordinals, List.countP_append]
    cases hof : a.isOf eventId userId with
    | false => simp [hof]
    | true =>
      have hsame : a.eventId = eventId ∧ a.userId = userId := by simpa [Attendance.isOf] using hof
      rw [hsame.1, hsame.2] at hordinal
      simp [hof, List.range_succ, hordinal]
  keyed := by
    intro b hb key hbkey
    rcases List.mem_append.mp hb with hb | hb
    · exact h.keyed b hb key hbkey
    · rw [List.mem_singleton.mp hb] at hbkey ⊢
      obtain ⟨heq, hnone⟩ := hkey key hbkey
      exact ⟨heq, by rw [hordinal, hnone]; rfl⟩
  unshared := by
    refine List.pairwise_append.mpr ⟨h.unshared, List.pairwise_singleton _ _, fun b hb c hc => ?_⟩
    rw [List.mem_singleton.mp hc]
    exact hnew b hb

namespace Books

/-- The attendances in order of creation. -/
def roll (books : Books) : List Attendance := books.participations.rows.map Participation.attendance

/-- The participations of a user in an event, whatever their status, in order of creation. -/
def rowsOf (books : Books) (eventId : Id) (userId : String) : List Participation :=
  books.participations.rows.filter fun p => p.eventId = eventId && p.userId = userId

/-- The participations that a later version of the books has and the books have not. -/
def arrivals (books after : Books) : List Participation :=
  newRows books.participations after.participations

theorem length_rowsOf (books : Books) (eventId : Id) (userId : String) :
    (books.rowsOf eventId userId).length = books.roll.countP (·.isOf eventId userId) := by
  rw [roll, List.countP_map, List.countP_eq_length_filter]
  rfl

theorem arrivals_eq_nil {books after : Books} (h : after.roll = books.roll) :
    books.arrivals after = [] := by
  refine Table.newRows_eq_nil fun p hp => ?_
  have hmem : p.attendance ∈ books.roll := h ▸ List.mem_map_of_mem hp
  obtain ⟨old, hold, heq⟩ := List.mem_map.mp hmem
  exact ⟨old, hold, congrArg Attendance.id heq⟩

/-- A user who takes part counts among the participations that count. -/
theorem length_participationsOf {books : Books} (h : InOrder books.roll) (eventId : Id)
    (userId : String) :
    (books.participationsOf eventId userId).length = books.roll.countP (·.isOf eventId userId) := by
  rw [← length_rowsOf]
  unfold participationsOf rowsOf Table.filter
  congr 1
  refine List.filter_congr fun p hp => ?_
  have hstatus : p.status = .participated := h.participated _ (List.mem_map_of_mem hp)
  simp [hstatus]

/-! ### What leaves the roll alone -/

theorem roll_modify (books : Books) {id : Id} {f : Participation → Participation}
    (hf : ∀ p, (f p).attendance = p.attendance) :
    ({ books with participations := books.participations.modify id f } : Books).roll =
      books.roll := by
  simp only [roll, Table.rows_modify, List.map_map]
  refine List.map_congr_left fun p _ => ?_
  simp only [Function.comp]
  split_ifs
  · exact hf p
  · rfl

theorem roll_linkParticipation (books : Books) (request : RewardRequest) (now : Instant) :
    (books.linkParticipation request now).roll = books.roll := by
  unfold linkParticipation
  split
  · rfl
  · exact books.roll_modify fun _ => rfl

theorem roll_markRewarded (books : Books) (request : RewardRequest) (now : Instant) :
    (books.markRewarded request now).roll = books.roll := by
  unfold markRewarded
  split
  · rfl
  · split
    · exact books.roll_modify fun _ => rfl
    · rfl

section
variable {s : Session} {books after : Books} {request : RewardRequest}
  {operator reason : Option String} {now : Instant} {target : RequestStatus} {notes : List Note}

theorem Filing.roll_eq {event : Event} {rewards : List Id} {userId : String}
    {verificationData : Json}
    (h : Filing s books event rewards userId verificationData now request after notes) :
    after.roll = books.roll := by
  rw [h.after_eq, roll_linkParticipation]
  rfl

theorem Moving.roll_eq (h : Moving s books request operator reason now target after notes) :
    after.roll = books.roll := by
  cases h with
  | approved hwanted hids hgranting hgrants hnote =>
    obtain ⟨rewards, table, rfl⟩ := hgranting.exists_eq
    rw [roll_markRewarded]
    rfl
  | rejected hnote => rfl
  | cancelled hnote => rfl
  | delivered hnote => rfl

end

/-! ### Arrivals -/

/-- **An event lets a participation in.** -/
structure Enters (books : Books) (event : Event) (p : Participation) : Prop where
  event_found : books.events.find? p.eventId = some event
  within : ∀ limit, event.maxParticipants = some limit → event.participantCount < limit
  single : event.allowMultiple = false → books.participationsOf p.eventId p.userId = []
  status_eq : p.status = .participated
  ordinal_eq : p.participationCount = (books.participationsOf p.eventId p.userId).length + 1
  key_eq : p.dedupeKey = dedupeKey event p.userId
  key_new : ∀ key, p.dedupeKey = some key → ∀ q ∈ books.participations.rows, q.dedupeKey ≠ some key

end Books

/-- A later version of an event: its counter has moved by the arrivals in it. -/
def Event.Counts (arrivals : List Participation) (e e' : Event) : Prop :=
  e'.id = e.id ∧
    e'.participantCount = e.participantCount + arrivals.countP fun p => p.eventId = e.id

theorem Event.counts_nil (e : Event) : e.Counts [] e := ⟨rfl, by simp⟩

namespace Books

/-- **What the books after a change have more**: at most one participation, counted at its event,
and new events without any. -/
structure Arrivals (books after : Books) : Prop where
  roll_eq : after.roll = books.roll ++ (books.arrivals after).map Participation.attendance
  counts : Evolves (Event.Counts (books.arrivals after)) books.events after.events
  empty : ∀ e' ∈ newRows books.events after.events, e'.participantCount = 0
  entered : books.arrivals after = [] ∨
    ∃ event p, books.arrivals after = [p] ∧ books.Enters event p

section
variable {books after : Books}
  (hempty : ∀ e' ∈ newRows books.events after.events, e'.participantCount = 0)
include hempty

theorem Arrivals.of_roll_eq (hroll : after.roll = books.roll)
    (hevents : Evolves (Event.Counts []) books.events after.events) : books.Arrivals after := by
  have hnobody := arrivals_eq_nil hroll
  refine ⟨by simp [hnobody, hroll], ?_, hempty, Or.inl hnobody⟩
  rw [hnobody]
  exact hevents

theorem Arrivals.of_eq (hroll : after.roll = books.roll) (hevents : after.events = books.events) :
    books.Arrivals after := by
  refine .of_roll_eq hempty hroll ?_
  rw [hevents]
  exact .refl Event.counts_nil _

theorem Arrivals.of_enters (hbooks : books.Numbered) {event : Event} {p : Participation}
    (hid : p.id = books.participations.nextId) (hevent : p.eventId = event.id) {stamp : Instant}
    (hafter : after = ({ books with
      participations := books.participations.push p } : Books).countParticipant event.id stamp)
    (henters : books.Enters event p) : books.Arrivals after := by
  have hone : books.arrivals after = [p] := by
    rw [hafter]
    exact hbooks.participations.newRows_push hid
  refine ⟨?_, ?_, hempty, Or.inr ⟨event, p, hone, henters⟩⟩
  · rw [hone, hafter]
    simp [roll, countParticipant]
  · rw [hone, hafter]
    refine .map (fun e he => ?_) _
    split_ifs with hsame
    · exact ⟨rfl, by simp [hevent, show e.id = event.id from hsame]⟩
    · exact ⟨rfl, by simp [hevent, show ¬event.id = e.id from fun heq => hsame heq.symm]⟩

end

end Books

open Books

section
variable {s : Session} {books after : Books} {action : Action} {notes : List Note}
  (h : Change s books action after notes) (hbooks : books.Numbered)
include h hbooks

theorem Change.newRows_events :
    newRows books.events after.events = [] ∨ ∃ draft actor startDate endDate,
      action = .createEvent draft actor ∧ newRows books.events after.events =
        [.ofDraft books.events.nextId draft startDate endDate actor s.stamp] := by
  cases h with
  | nothing | noted | rewardMade | rewardEdited | used | expired =>
    exact Or.inl (Table.newRows_self _)
  | eventMade _ _ _ hevent =>
    subst hevent
    exact Or.inr ⟨_, _, _, _, rfl, hbooks.events.newRows_push rfl⟩
  | eventEdited => exact Or.inl (Table.newRows_modify fun _ _ => rfl)
  | tookPart => exact Or.inl (Table.newRows_modify fun _ hid => hid)
  | filed _ hraced hfiling =>
    obtain ⟨claims, rfl⟩ := hraced.exists_eq
    rw [hfiling.events_eq]
    exact Or.inl (Table.newRows_self _)
  | filedAndApproved _ hraced hfiling _ _ _ hmoving =>
    obtain ⟨claims, rfl⟩ := hraced.exists_eq
    rw [hmoving.events_eq, hfiling.events_eq]
    exact Or.inl (Table.newRows_self _)
  | moved _ _ hmoving | cancelled _ _ _ hmoving =>
    rw [hmoving.events_eq]
    exact Or.inl (Table.newRows_self _)
  | issued _ _ _ hgranting =>
    obtain ⟨rewards, table, rfl⟩ := hgranting.exists_eq
    exact Or.inl (Table.newRows_self _)

/-- **What a change adds to the roll.** -/
theorem Change.arrivals : books.Arrivals after := by
  have hempty : ∀ e' ∈ newRows books.events after.events, e'.participantCount = 0 := by
    intro e' he'
    rcases h.newRows_events hbooks with hnone | ⟨_, _, _, _, -, hone⟩
    · rw [hnone] at he'
      cases he'
    · rw [hone, List.mem_singleton] at he'
      rw [he']
      rfl
  cases h with
  | nothing | noted | rewardMade | rewardEdited | used | expired => exact .of_eq hempty rfl rfl
  | eventMade => exact .of_roll_eq hempty rfl (.push Event.counts_nil _ _)
  | @eventEdited _ _ _ old _ _ _ _ hold _ _ _ _ hnew =>
    refine .of_roll_eq hempty rfl (.put Event.counts_nil hbooks.events
      (Table.mem_of_find?_eq_some hold) (by rw [hnew]; rfl) ?_)
    rw [hnew]
    exact ⟨rfl, by simp [Event.stored, Event.restamped, Event.patched]⟩
  | tookPart hevent _ _ hprevious hmultiple hlimit hp hkey =>
    refine .of_enters hempty hbooks (by rw [hp]; rfl) (by rw [hp]; rfl) rfl ?_
    subst hp hprevious
    have heventId := Table.id_of_find?_eq_some hevent
    refine ⟨by rw [← hevent, ← heventId]; rfl, hlimit, fun hsingle => ?_, rfl, rfl, rfl, hkey⟩
    by_contra hne
    rw [hmultiple fun hzero => hne (List.length_eq_zero_iff.mp hzero)] at hsingle
    cases hsingle
  | filed _ hraced hfiling =>
    obtain ⟨claims, rfl⟩ := hraced.exists_eq
    exact .of_eq hempty hfiling.roll_eq hfiling.events_eq
  | filedAndApproved _ hraced hfiling _ _ _ hmoving =>
    obtain ⟨claims, rfl⟩ := hraced.exists_eq
    exact .of_eq hempty (hmoving.roll_eq.trans hfiling.roll_eq)
      (hmoving.events_eq.trans hfiling.events_eq)
  | moved _ _ hmoving | cancelled _ _ _ hmoving =>
    exact .of_eq hempty hmoving.roll_eq hmoving.events_eq
  | issued _ _ _ hgranting =>
    obtain ⟨rewards, table, rfl⟩ := hgranting.exists_eq
    exact .of_eq hempty rfl rfl

end

/-! ### The ledger -/

namespace Books

/-- **Participations, counters, ordinals and keys agree.** -/
structure Attended (books : Books) : Prop where
  numbered : books.Numbered
  inOrder : InOrder books.roll
  counted : ∀ e ∈ books.events.rows, e.participantCount = books.roll.countP (·.eventId = e.id)
  held : ∀ a ∈ books.roll, ∃ e ∈ books.events.rows, e.id = a.eventId

theorem attended_empty : ({} : Books).Attended where
  numbered := numbered_empty
  inOrder := inOrder_nil
  counted := by simp
  held := by simp [roll]

theorem Enters.inOrder {books : Books} {event : Event} {p : Participation}
    (h : books.Enters event p) (hroll : InOrder books.roll) :
    InOrder (books.roll ++ [p.attendance]) := by
  have hcount : (books.participationsOf p.eventId p.userId).length =
      books.roll.countP (·.isOf p.attendance.eventId p.attendance.userId) :=
    length_participationsOf hroll p.eventId p.userId
  refine hroll.append h.status_eq ?_ (fun key hkey => ?_) fun b hb hshares => ?_
  · rw [← hcount]
    exact h.ordinal_eq
  · have hdedupe : dedupeKey event p.userId = some key := h.key_eq.symm.trans hkey
    unfold dedupeKey at hdedupe
    split at hdedupe
    · cases hdedupe
    · next hsingle =>
      have hid : event.id = p.eventId := Table.id_of_find?_eq_some h.event_found
      refine ⟨?_, ?_⟩
      · rw [← Option.some.inj hdedupe, hid]
        rfl
      · rw [← hcount, h.single (by simpa using hsingle)]
        rfl
  · obtain ⟨key, hbkey, hpkey⟩ := hshares
    obtain ⟨q, hq, rfl⟩ := List.mem_map.mp hb
    exact h.key_new key hpkey q hq hbkey

section
variable {books after : Books} (h : books.Arrivals after) (hbooks : books.Attended)
include h hbooks

theorem Arrivals.held {a : Attendance} (ha : a ∈ after.roll) :
    ∃ e ∈ books.events.rows, e.id = a.eventId := by
  rw [h.roll_eq] at ha
  rcases List.mem_append.mp ha with ha | ha
  · exact hbooks.held a ha
  · obtain ⟨p, hp, rfl⟩ := List.mem_map.mp ha
    rcases h.entered with hnobody | ⟨event, q, hone, henters⟩
    · rw [hnobody] at hp
      cases hp
    · rw [hone, List.mem_singleton] at hp
      subst hp
      exact ⟨event, Table.mem_of_find?_eq_some henters.event_found,
        Table.id_of_find?_eq_some henters.event_found⟩

/-- **Arrivals keep the ledger.** -/
theorem Arrivals.attended (hafter : after.Numbered) : after.Attended where
  numbered := hafter
  inOrder := by
    rw [h.roll_eq]
    rcases h.entered with hnobody | ⟨event, p, hone, henters⟩
    · rw [hnobody, List.map_nil, List.append_nil]
      exact hbooks.inOrder
    · rw [hone]
      exact henters.inOrder hbooks.inOrder
  counted := by
    intro e' he'
    rcases h.counts.mem hafter.events (fun _ _ hcounts => hcounts.1) he' with
      ⟨e, he, hid, hcount⟩ | hnew
    · rw [hcount, hbooks.counted e he, hid, h.roll_eq, List.countP_append, List.countP_map,
        Nat.cast_add]
      rfl
    · -- nobody can have come to an event that was not there
      have hnone : books.events.find? (Row.id e') = none := by
        simpa using (List.mem_filter.mp hnew).2
      rw [h.empty e' hnew, eq_comm, Nat.cast_eq_zero, List.countP_eq_zero]
      intro a ha hsame
      obtain ⟨e, he, hid⟩ := h.held hbooks ha
      exact Table.find?_eq_none_iff.mp hnone e he (hid.trans (of_decide_eq_true hsame))
  held := by
    intro a ha
    obtain ⟨e, he, hid⟩ := h.held hbooks ha
    obtain ⟨e', he', hcounts⟩ := h.counts.exists_mem he
    exact ⟨e', he', hcounts.1.trans hid⟩

end

section
variable {books : Books} (h : books.Attended)
include h

theorem Attended.participantCount_eq {e : Event} (he : e ∈ books.events.rows) :
    e.participantCount = books.participations.rows.countP fun p => p.eventId = e.id := by
  rw [h.counted e he, roll, List.countP_map]
  rfl

theorem Attended.ordinals_eq (eventId : Id) (userId : String) :
    (books.rowsOf eventId userId).map Participation.participationCount =
      (List.range (books.rowsOf eventId userId).length).map fun k => (k : Int) + 1 := by
  rw [length_rowsOf, ← h.inOrder.ordinals, roll, List.filter_map, List.map_map]
  rfl

theorem Attended.dedupeKey_eq {p : Participation} (hp : p ∈ books.participations.rows)
    {key : String} (hkey : p.dedupeKey = some key) :
    key = p.eventId.text ++ ":" ++ p.userId ∧ p.participationCount = 1 ∧
      (books.participations.rows.countP fun q => q.dedupeKey = some key) = 1 := by
  have ha : p.attendance ∈ books.roll := List.mem_map_of_mem hp
  obtain ⟨heq, hordinal⟩ := h.inOrder.keyed _ ha key hkey
  refine ⟨heq, hordinal, ?_⟩
  have hone : books.roll.countP (fun a => a.key = some key) = 1 := by
    refine countP_eq_one_of_pairwise h.inOrder.unshared (fun a b ha hb => ?_) ha ?_
    · exact ⟨key, of_decide_eq_true ha, of_decide_eq_true hb⟩
    · exact decide_eq_true hkey
  rw [roll, List.countP_map] at hone
  exact hone

/-- **A key that a participation may get is new**: only an earlier participation of its user in its
event could have it. -/
theorem Attended.dedupeKey_ne {event : Event} {userId : String}
    (hfirst : event.allowMultiple = false → books.participationsOf event.id userId = []) {key : String}
    (hkey : dedupeKey event userId = some key) :
    ∀ p ∈ books.participations.rows, p.dedupeKey ≠ some key := by
  intro p hp hpkey
  unfold dedupeKey at hkey
  split at hkey
  · cases hkey
  · next hsingle =>
    have heq := (h.dedupeKey_eq hp hpkey).1
    rw [← Option.some.inj hkey] at heq
    obtain ⟨hevent, huser⟩ := Id.eq_of_text_append heq
    have hstatus : p.status = .participated := h.inOrder.participated _ (List.mem_map_of_mem hp)
    have hmem : p ∈ books.participationsOf event.id userId :=
      List.mem_filter.mpr ⟨hp, by simp [hevent, huser, hstatus]⟩
    rw [hfirst (by simpa using hsingle)] at hmem
    cases hmem

end

end Books

/-! ### Along a run -/

theorem Moment.arrivals (m : Moment) {db : Database} (hdb : db.books.Numbered) :
    db.books.Arrivals (m.after db).books := by
  rcases m.after_eq_or_writes db with heq | ⟨action, -, notes, hchange, -⟩
  · rw [heq]
    exact .of_eq (by simp [Table.newRows_self]) rfl rfl
  · exact hchange.arrivals hdb

theorem Database.Reachable.attended {P : Action → Prop} {db : Database} (h : db.Reachable P) :
    db.books.Attended := by
  refine (h.mono (Q := fun _ => True) fun _ _ => trivial).keeps (fun _ _ => trivial)
    attended_empty ?_
  rintro s books action after notes - hbooks hchange
  exact (hchange.arrivals hbooks.numbered).attended hbooks (hchange.numbered hbooks.numbered)

/-- **A counter moves by one participation at a time**, which its event had to let in. -/
theorem Moment.participantCount_after (m : Moment) {db : Database} (hdb : db.books.Attended)
    {e : Event} (he : e ∈ db.books.events.rows) :
    ∃ e', (m.after db).books.events.find? e.id = some e' ∧
      (e'.participantCount = e.participantCount ∨
        e'.participantCount = e.participantCount + 1 ∧
          ∃ p, db.books.arrivals (m.after db).books = [p] ∧ p.eventId = e.id ∧
            db.books.Enters e p) := by
  have harrivals := m.arrivals hdb.numbered
  have hafter : (m.after db).books.Numbered := Database.numbered_after hdb.numbered [m]
  obtain ⟨e', he', hid, hcount⟩ := harrivals.counts.exists_find? hafter.events
    (fun _ _ hcounts => hcounts.1) (hdb.numbered.events.find?_eq_some_iff.mpr ⟨he, rfl⟩)
  refine ⟨e', he', ?_⟩
  rcases harrivals.entered with hnobody | ⟨event, p, hone, henters⟩
  · rw [hnobody] at hcount
    exact Or.inl (by simpa using hcount)
  · by_cases hevent : p.eventId = e.id
    · have hsame : event = e := by
        refine hdb.numbered.events.eq_of_id_eq (Table.mem_of_find?_eq_some henters.event_found) he ?_
        exact (Table.id_of_find?_eq_some henters.event_found).trans hevent
      refine Or.inr ⟨?_, p, hone, hevent, hsame ▸ henters⟩
      rw [hcount, hone]
      simp [hevent]
    · refine Or.inl ?_
      rw [hcount, hone]
      simp [hevent]

/-- Something holds of an event in every database that a run passes through. -/
def Event.Throughout (ms : List Moment) (eventId : Id) (Q : Event → Prop) : Prop :=
  ∀ before, before <+: ms → ∀ e, (Database.empty.after before).books.events.find? eventId = some e →
    Q e

theorem Event.Throughout.of_append {ms more : List Moment} {eventId : Id} {Q : Event → Prop}
    (h : Event.Throughout (ms ++ more) eventId Q) : Event.Throughout ms eventId Q :=
  fun before hbefore => h before (hbefore.trans (List.prefix_append ms more))

/-- **An event that never admits a user twice** has at most one participation of each. -/
theorem countP_roll_le_one {ms : List Moment} {eventId : Id}
    (h : Event.Throughout ms eventId fun e => e.allowMultiple = false) (userId : String) :
    (Database.empty.after ms).books.roll.countP (·.isOf eventId userId) ≤ 1 := by
  induction ms using List.reverseRecOn with
  | nil => simp [roll, Database.empty]
  | append_singleton ms m ih =>
    have hdb : (Database.empty.after ms).books.Attended :=
      Database.Reachable.attended (P := fun _ => True) ⟨ms, fun _ _ _ _ => trivial, rfl⟩
    have harrivals := m.arrivals hdb.numbered
    rw [Database.after_append, Database.after_cons, Database.after_nil, harrivals.roll_eq,
      List.countP_append]
    rcases harrivals.entered with hnobody | ⟨event, p, hone, henters⟩
    · simpa [hnobody] using ih h.of_append
    · by_cases hof : p.attendance.isOf eventId userId = true
      · -- the event lets the user in only if they have not been there
        obtain ⟨hevent, huser⟩ := Participation.isOf_attendance.mp hof
        have hsingle := h ms (List.prefix_append ms [m]) event (hevent ▸ henters.event_found)
        have hnone := length_participationsOf hdb.inOrder p.eventId p.userId
        rw [henters.single hsingle, hevent, huser] at hnone
        rw [← hnone, hone]
        simp [hof]
      · simpa [hone, hof] using ih h.of_append

/-- A new event gives no fewer than no seats. -/
def Action.OpensSeats : Action → Prop
  | .createEvent draft _ => ∀ limit, draft.maxParticipants = some limit → 0 ≤ limit
  | _ => True

theorem Action.IsAsked.opensSeats (action : Action) (h : action.IsAsked) : action.OpensSeats := by
  cases action with
  | createEvent draft actor =>
    intro limit hlimit
    have := EventDraft.one_le_limit h.isFormed.1 hlimit
    omega
  | _ => trivial

/-- **An event whose limit never changes** never counts more participants than that. -/
theorem participantCount_le_limit {ms : List Moment}
    (hms : ∀ m ∈ ms, m.CallsOnly Action.OpensSeats) {eventId : Id} {limit : Int}
    (h : Event.Throughout ms eventId fun e => e.maxParticipants = some limit) {e : Event}
    (he : (Database.empty.after ms).books.events.find? eventId = some e) :
    e.participantCount ≤ limit := by
  induction ms using List.reverseRecOn generalizing e with
  | nil => cases he
  | append_singleton ms m ih =>
    have hdb : (Database.empty.after ms).books.Attended :=
      Database.Reachable.attended (P := fun _ => True) ⟨ms, fun _ _ _ _ => trivial, rfl⟩
    have hbefore {old} (hold : (Database.empty.after ms).books.events.find? eventId = some old) :
        old.participantCount ≤ limit := ih (fun m hm => hms m (by simp [hm])) h.of_append hold
    have hlimit : e.maxParticipants = some limit := h _ (List.prefix_refl _) e he
    rw [Database.after_append, Database.after_cons, Database.after_nil] at he
    cases hfind : (Database.empty.after ms).books.events.find? eventId with
    | some old =>
      have hid : old.id = eventId := Table.id_of_find?_eq_some hfind
      obtain ⟨e', he', hcount⟩ :=
        m.participantCount_after hdb (Table.mem_of_find?_eq_some hfind)
      rw [hid] at he'
      cases Option.some.inj (he.symm.trans he')
      rcases hcount with hsame | ⟨hmore, p, -, -, henters⟩
      · rw [hsame]
        exact hbefore hfind
      · have := henters.within limit (h ms (List.prefix_append ms [m]) old hfind)
        omega
    | none =>
      rcases m.after_eq_or_writes (Database.empty.after ms) with
        heq | ⟨action, haction, notes, hchange, -⟩
      · rw [heq, hfind] at he
        cases he
      · -- the event is new, and its draft gave it its limit
        have hseats : action.OpensSeats := by
          rcases Moment.isAsked_or_call haction with hasked | hcall
          · exact hasked.opensSeats
          · exact hms m (by simp) action hcall
        have hid : Row.id e = eventId := Table.id_of_find?_eq_some he
        have hnew : e ∈ newRows (Database.empty.after ms).books.events
            (m.after (Database.empty.after ms)).books.events :=
          List.mem_filter.mpr ⟨Table.mem_of_find?_eq_some he, by rw [hid, hfind]; rfl⟩
        rcases hchange.newRows_events hdb.numbered with
          hnone | ⟨draft, actor, startDate, endDate, rfl, hone⟩
        · rw [hnone] at hnew
          cases hnew
        · rw [hone, List.mem_singleton] at hnew
          rw [hnew] at hlimit ⊢
          exact hseats limit hlimit

/-- **The participation ledger.** In every database that can be reached, an event counts its
participations, those of a user in an event carry the numbers from one on in order of creation, and
a key names event and user of a first participation and is there once. A moment that moves the
counter of an event moves it by one, and adds one participation, in that event: there was room for
it, and its user had none if the event admits nobody twice. So an event that never admits a user
twice has at most one participation of each, and one whose limit is never changed never exceeds it,
provided that no event is made with fewer than no seats. -/
theorem participation_ledger {ms : List Moment} (hms : ∀ m ∈ ms, m.CallsOnly Action.OpensSeats)
    {db : Database} (hdb : db = Database.empty.after ms) :
    (∀ e ∈ db.books.events.rows,
      e.participantCount = db.books.participations.rows.countP fun p => p.eventId = e.id) ∧
    (∀ eventId userId, (db.books.rowsOf eventId userId).map Participation.participationCount =
      (List.range (db.books.rowsOf eventId userId).length).map fun k => (k : Int) + 1) ∧
    (∀ p ∈ db.books.participations.rows, ∀ key, p.dedupeKey = some key →
      key = p.eventId.text ++ ":" ++ p.userId ∧ p.participationCount = 1 ∧
        (db.books.participations.rows.countP fun q => q.dedupeKey = some key) = 1) ∧
    (∀ m : Moment, ∀ e ∈ db.books.events.rows, ∃ e',
      (m.after db).books.events.find? e.id = some e' ∧
        (e'.participantCount = e.participantCount ∨
          e'.participantCount = e.participantCount + 1 ∧
            ∃ p, db.books.arrivals (m.after db).books = [p] ∧ p.eventId = e.id ∧
              (∀ limit, e.maxParticipants = some limit → e.participantCount < limit) ∧
              (e.allowMultiple = false → db.books.rowsOf e.id p.userId = []))) ∧
    (∀ eventId, (Event.Throughout ms eventId fun e => e.allowMultiple = false) →
      ∀ userId, (db.books.rowsOf eventId userId).length ≤ 1) ∧
    ∀ eventId limit, (Event.Throughout ms eventId fun e => e.maxParticipants = some limit) →
      ∀ e, db.books.events.find? eventId = some e → e.participantCount ≤ limit := by
  subst hdb
  have hdb : (Database.empty.after ms).books.Attended :=
    Database.Reachable.attended (P := Action.OpensSeats) ⟨ms, hms, rfl⟩
  refine ⟨fun e he => hdb.participantCount_eq he, hdb.ordinals_eq,
    fun p hp key hkey => hdb.dedupeKey_eq hp hkey, fun m e he => ?_, fun eventId hsingle userId => ?_,
    fun eventId limit hlimit e he => participantCount_le_limit hms hlimit he⟩
  · obtain ⟨e', he', hcount⟩ := m.participantCount_after hdb he
    refine ⟨e', he', hcount.imp_right ?_⟩
    rintro ⟨hmore, p, hone, hevent, henters⟩
    refine ⟨hmore, p, hone, hevent, henters.within, fun hsingle => List.length_eq_zero_iff.mp ?_⟩
    rw [length_rowsOf, ← hevent, ← length_participationsOf hdb.inOrder, henters.single hsingle]
    rfl
  · rw [length_rowsOf]
    exact countP_roll_le_one hsingle userId

/-- A run that makes an event with two seats, both of which a user then takes. -/
def attendingRun : List Moment :=
  let event : EventDraft :=
    { title := "Spring", description := "", startDate := ⟨⟨0⟩, none⟩, endDate := ⟨⟨9000000⟩, none⟩
      status := .active, conditionType := .attendance, conditionValue := .empty
      autoReward := false, allowMultiple := true, maxParticipants := some 2 }
  let eventId := ({} : Table Event).nextId
  [⟨{ clock := ⟨1000000⟩ }, .call (.createEvent event "admin")⟩,
    ⟨{ clock := ⟨2000000⟩ }, .call (.participate eventId "ann" .null .null none)⟩,
    ⟨{ clock := ⟨3000000⟩ }, .call (.participate eventId "ann" .null .null none)⟩]

/-- The event of `attendingRun` counts both participations of its user, the first and the second. -/
theorem participation_ledger_attendingRun :
    ∃ e, (Database.empty.after attendingRun).books.events.rows = [e] ∧ e.participantCount = 2 ∧
      ((Database.empty.after attendingRun).books.rowsOf e.id "ann").map
        Participation.participationCount = [1, 2] := by
  obtain ⟨hcount, hordinals, -⟩ := participation_ledger
    (by simp [attendingRun, Action.OpensSeats] : ∀ m ∈ attendingRun, m.CallsOnly Action.OpensSeats)
    rfl
  obtain ⟨e, he⟩ := List.length_eq_one_iff.mp (by decide +kernel :
    (Database.empty.after attendingRun).books.events.rows.length = 1)
  have hid : e.id = ({} : Table Event).nextId := by
    have : (Database.empty.after attendingRun).books.events.rows.map Event.id =
        [({} : Table Event).nextId] := by decide +kernel
    simpa [he] using this
  refine ⟨e, he, ?_, ?_⟩
  · rw [hcount e (by simp [he]), hid]
    decide +kernel
  · rw [hordinals, hid]
    decide +kernel

end Promotions
