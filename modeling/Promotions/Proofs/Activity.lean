import Promotions.Proofs.TakingPart

/-!
# When an event is active

Three places decide whether an event is active at a time: the list of the active events, which is
chosen among the rows; the predicate on one event, which looks at the status and at either end of
the window in turn, and is asked of events that are not stored as well (`EventSketch.isActiveAt`);
and the check of a proof, which takes no proof for an event that is not active. They agree, whatever
the tables hold. The list is the rows of which the predicate holds, sorted (`Books.IsAgenda`);
taking part and asking for rewards are refused as not active just for the events that are not in it,
since every other refusal of an event that is found comes either before the question or from
something else (`Books.participate_eq_notActive_iff`, `Books.createRequest_eq_notActive_iff`).
-/

namespace Promotions

/-! ### Rows by time -/

section
variable {ρ : Type} (time : ρ → Option Instant) (rows : List ρ)

theorem pairwise_earliestFirst :
    (earliestFirst time rows).Pairwise fun a b => notAfter (time a) (time b) = true := by
  unfold earliestFirst
  refine List.pairwise_mergeSort (fun a b c hab hbc => ?_) (fun a b => ?_) rows
  · exact notAfter_trans hab hbc
  · exact notAfter_total (time a) (time b)

theorem filter_earliestFirst (t : Option Instant) :
    (earliestFirst time rows).filter (fun row => time row = t) =
      rows.filter fun row => time row = t := by
  refine filter_mergeSort (fun a b c hab hbc => ?_) (fun a b => ?_) (fun a b ha hb => ?_) rows
  · exact notAfter_trans hab hbc
  · exact notAfter_total (time a) (time b)
  · rw [of_decide_eq_true ha, of_decide_eq_true hb]
    exact notAfter_refl t

end

namespace Event

/-- The event as one that is not stored. -/
def sketch (event : Event) : EventSketch :=
  { status := some event.status
    startDate := some { reading := event.startDate }
    endDate := some { reading := event.endDate }
    conditionType := some event.conditionType }

theorem isActiveAt_sketch (event : Event) (now : Instant) :
    event.sketch.isActiveAt { reading := now } = .ok (event.isActiveAt now) := by
  unfold sketch EventSketch.isActiveAt EventSketch.inOrder Timestamp.notAfter? isActiveAt
  by_cases hstatus : event.status = .active
  · by_cases hbegun : event.startDate ≤ now <;> simp [hstatus, hbegun]
  · simp [hstatus]

theorem admits_sketch (event : Event) (proof : Json) (now : Instant) :
    event.sketch.admits proof { reading := now } = .ok (event.admits proof now) := by
  unfold EventSketch.admits
  rw [isActiveAt_sketch]
  rfl

end Event

namespace Books

/-! ### The list -/

/-- **The agenda of a time**: the events that are active then, each once, by the end of their window
from the earliest; events of one end are in order of creation. -/
structure IsAgenda (books : Books) (now : Instant) (listed : List Event) : Prop where
  perm : listed.Perm (books.events.rows.filter fun event => event.isActiveAt now)
  sorted : listed.Pairwise fun earlier later => earlier.endDate ≤ later.endDate
  stable : ∀ endDate, listed.filter (fun event => event.endDate = endDate) =
    books.events.rows.filter fun event => event.isActiveAt now && event.endDate = endDate

section
variable {books : Books} {now : Instant} {listed : List Event}

theorem IsAgenda.mem_iff (h : books.IsAgenda now listed) {event : Event} :
    event ∈ listed ↔ event ∈ books.events.rows ∧ event.isActiveAt now = true := by
  rw [h.perm.mem_iff, List.mem_filter]

theorem IsAgenda.nodup (h : books.IsAgenda now listed)
    (hrows : (books.events.rows.map Event.id).Nodup) : (listed.map Event.id).Nodup :=
  (h.perm.map Event.id).nodup_iff.mpr (hrows.sublist (List.filter_sublist.map Event.id))

theorem isAgenda_findActiveEvents (books : Books) (now : Instant) :
    books.IsAgenda now (books.findActiveEvents now) where
  perm := List.mergeSort_perm _ _
  sorted := by
    have hsorted := pairwise_earliestFirst (fun event : Event => some event.endDate)
      (books.events.filter (·.isActiveAt now))
    exact hsorted.imp fun h => of_decide_eq_true h
  stable endDate := by
    have hstable := filter_earliestFirst (fun event : Event => some event.endDate)
      (books.events.filter (·.isActiveAt now)) (some endDate)
    simp only [Option.some.injEq, Table.filter, List.filter_filter] at hstable
    refine hstable.trans (List.filter_congr fun event _ => ?_)
    rw [Bool.and_comm]

end

/-! ### What is refused as not active -/

section
variable {books : Books} {s : Session} {eventId : Id} {event : Event} {userId : String}
  {verificationData : Json} {now : Instant}

/-- **Taking part is refused as not active** just if the event is not active. -/
theorem participate_eq_notActive_iff (hfound : books.events.find? eventId = some event)
    (additionalData : Json) :
    books.participate s eventId userId verificationData additionalData now =
      Failure.refuse .eventNotActive ↔ event.isActiveAt now = false := by
  have hoperation := books.participate_eq s eventId userId verificationData additionalData now
  have hreasons : books.hindrance? eventId userId verificationData now = some .eventNotActive ↔
      event.isActiveAt now = false := by
    rw [hindrance?_of_found hfound (p := Participation.ofUser books.participations.nextId event
      userId verificationData additionalData 0 now) rfl]
    split_ifs with hclosed <;> simp_all
  rw [← hreasons]
  cases hhindrance : books.hindrance? eventId userId verificationData now with
  | some refusal =>
    rw [hhindrance] at hoperation
    rw [hoperation]
    simp [Failure.refuse]
  | none =>
    rw [hhindrance] at hoperation
    obtain ⟨_, -, hoperation⟩ := hoperation
    rw [hoperation]
    -- what is not refused may still break off
    cases (Participation.ofUser _ _ _ _ _ _ _).shown <;>
      simp [orBreakOff, Except.map, Failure.refuse, Failure.breakOff]

variable (userId verificationData) in
theorem admitRequest_eq_notActive_iff (hfound : books.events.find? eventId = some event)
    {spellings : List IdSpelling} {ids : List Id}
    (hids : spellings.map IdSpelling.resolve = ids.map .ok) (hsome : ids ≠ [])
    (hof : ∀ id ∈ ids, ∃ reward, books.rewards.find? id = some reward ∧ reward.eventId = eventId) :
    books.admitRequest eventId spellings userId verificationData now =
      Failure.refuse .eventNotActive ↔ event.isActiveAt now = false := by
  obtain rfl : event.id = eventId := Table.id_of_find?_eq_some hfound
  have hnamed : ids.eraseDups.isEmpty = false := by
    obtain ⟨id, rest, rfl⟩ := List.exists_cons_of_ne_nil hsome
    simp [List.eraseDups_cons]
  have howned : (ids.eraseDups.all fun id =>
      (books.rewards.find? id).any (·.eventId = event.id)) = true := by
    refine List.all_eq_true.mpr fun id hid => ?_
    obtain ⟨reward, hreward, hevent⟩ := hof id (List.mem_eraseDups.mp hid)
    simp [hreward, hevent]
  unfold admitRequest findEvent
  rw [hfound]
  dsimp only
  rw [Id.orderedUnique_eq_ok hids]
  simp only [hnamed, howned, Failure.refuse]
  split_ifs <;> simp_all

/-- What is filed can only be refused because it was requested before: an approval at once that is
refused is dropped. -/
theorem fileRequest_eq_refuse {rewards : List Id} {refusal : Refusal}
    (h : books.fileRequest s event rewards userId verificationData now = Failure.refuse refusal) :
    refusal = .alreadyRequested := by
  unfold fileRequest at h
  split at h
  next failure hwrite =>
    unfold writeRequest at hwrite
    dsimp only at hwrite
    split at hwrite
    · cases hwrite
      cases h
      rfl
    · cases hwrite
  next filed hfiled =>
    split_ifs at h
    · unfold approveAtOnce at h
      split at h <;> cases h
    · cases h

/-- **A request for rewards of an event is refused as not active** just if the event is
not active. -/
theorem createRequest_eq_notActive_iff (hfound : books.events.find? eventId = some event)
    {spellings : List IdSpelling} {ids : List Id}
    (hids : spellings.map IdSpelling.resolve = ids.map .ok) (hsome : ids ≠ [])
    (hof : ∀ id ∈ ids, ∃ reward, books.rewards.find? id = some reward ∧ reward.eventId = eventId)
    (rival : Option Claim) :
    books.createRequest s eventId spellings userId verificationData now rival =
      Failure.refuse .eventNotActive ↔ event.isActiveAt now = false := by
  rw [← admitRequest_eq_notActive_iff userId verificationData hfound hids hsome hof]
  unfold createRequest
  cases books.admitRequest eventId spellings userId verificationData now with
  | error failure => simp [Failure.refuse]
  | ok admitted =>
    refine ⟨fun h => ?_, fun h => by cases h⟩
    dsimp only at h
    split at h
    · cases h
    · cases fileRequest_eq_refuse h

end

end Books

theorem Action.settle_eq_refuse_iff {α : Type} {s : Session} {db : Database} {reply : α → Reply}
    {result : Except Failure (Outcome α)} {refusal : Refusal} :
    settle s db reply result = Failure.refuse refusal ↔ result = Failure.refuse refusal := by
  cases result <;> simp [settle, Failure.refuse]

/-- **The notions of being active agree.** Whatever the tables hold, the list of the events that are
active at a time is the rows of which the predicate holds, each once, by the end of their window
from the earliest, and in order of creation where windows end together. For an event that is found,
taking part is refused as not active just if the event is not in the list, and so is a request for
some of its rewards, in whatever spelling and whatever rival appears; no proof is taken for an event
that is not in the list. -/
theorem active_events_agree (s : Session) (db : Database) (now : Option Instant) :
    let time := now.getD s.clock
    let active := db.books.findActiveEvents time
    (Action.findActiveEvents now).perform s db = .ok (.events active, db) ∧
    db.books.IsAgenda time active ∧
    ((db.books.events.rows.map Event.id).Nodup → (active.map Event.id).Nodup) ∧
    (∀ event ∈ db.books.events.rows,
      (event ∈ active ↔ event.sketch.isActiveAt { reading := time } = .ok true) ∧
      (event ∈ active ↔
        event.status = .active ∧ event.startDate ≤ time ∧ time ≤ event.endDate)) ∧
    (∀ eventId event, db.books.events.find? eventId = some event → ∀ userId verificationData,
      (∀ additionalData,
        (Action.participate eventId userId verificationData additionalData now).perform s db =
          .error (.refused .eventNotActive) ↔ event ∉ active) ∧
      (∀ spellings ids, spellings.map IdSpelling.resolve = ids.map .ok → ids ≠ [] →
        (∀ id ∈ ids, ∃ reward,
          db.books.rewards.find? id = some reward ∧ reward.eventId = eventId) →
        ∀ rival,
          (Action.createRequest eventId spellings userId verificationData now rival).perform s db =
            .error (.refused .eventNotActive) ↔ event ∉ active) ∧
      (event ∉ active →
        event.sketch.admits verificationData { reading := time } = .ok false ∧
        (Action.verify eventId userId verificationData now).perform s db =
          .ok (.truth false, db))) ∧
    Refusal.eventNotActive.kind = .badRequest ∧
    Refusal.eventNotActive.message = "Event is not active" := by
  intro time active
  have hagenda : db.books.IsAgenda time active := Books.isAgenda_findActiveEvents db.books time
  refine ⟨rfl, hagenda, hagenda.nodup, fun event hrow => ⟨?_, ?_⟩,
    fun eventId event hfound userId verificationData => ?_, rfl, rfl⟩
  · rw [Event.isActiveAt_sketch, hagenda.mem_iff]
    simp [hrow]
  · rw [hagenda.mem_iff, Books.isActiveAt_iff]
    exact and_iff_right hrow
  · have hrow : event ∈ db.books.events.rows := Table.mem_of_find?_eq_some hfound
    have hclosed : event.isActiveAt time = false ↔ event ∉ active := by
      simp [hagenda.mem_iff, hrow]
    refine ⟨fun additionalData => ?_, fun spellings ids hids hsome hof rival => ?_, fun hout => ?_⟩
    · rw [← hclosed, ← Books.participate_eq_notActive_iff hfound additionalData]
      exact Action.settle_eq_refuse_iff
    · rw [← hclosed, ← Books.createRequest_eq_notActive_iff hfound hids hsome hof rival]
      exact Action.settle_eq_refuse_iff
    · have hadmits : event.admits verificationData time = false := by
        unfold Event.admits
        rw [hclosed.mpr hout, Bool.false_and]
      refine ⟨by rw [Event.admits_sketch, hadmits], ?_⟩
      have hverify : (Action.verify eventId userId verificationData now).perform s db =
          .ok (.truth (event.admits verificationData time), db) := by
        simp only [Action.perform, Books.findEvent, hfound]
        rfl
      rw [hverify, hadmits]

/-- Tables with three events that are active at the second of theirs, and a draft, which offers a
reward. The first and the third end together, and after the second. -/
def agendaTables : Database :=
  let lasting (id : Nat) (seconds : Int) (status : EventStatus) : Event :=
    { (default : Event) with
      id := ⟨id⟩, endDate := ⟨seconds * Instant.second⟩, status, conditionType := .attendance }
  { books :=
      { events :=
          { rows := [lasting 1 9 .active, lasting 2 1 .active, lasting 3 9 .active,
              lasting 4 9 .draft]
            added := 4 }
        rewards := { rows := [{ (default : Reward) with id := ⟨5⟩, eventId := ⟨4⟩ }], added := 1 } } }

/-- In the last moment of its window an event is active. The draft takes no participation, no
request for its reward, and no proof. -/
theorem active_events_agree_agendaTables :
    let s : Session := { clock := ⟨Instant.second⟩ }
    let listed := agendaTables.books.findActiveEvents s.clock
    listed.map Event.id = [⟨2⟩, ⟨1⟩, ⟨3⟩] ∧
    (Action.participate ⟨4⟩ "ann" .empty .empty none).perform s agendaTables =
      .error (.refused .eventNotActive) ∧
    (Action.createRequest ⟨4⟩ [.known ⟨5⟩] "ann" .empty none none).perform s agendaTables =
      .error (.refused .eventNotActive) ∧
    (Action.verify ⟨4⟩ "ann" .empty none).perform s agendaTables =
      .ok (.truth false, agendaTables) ∧
    (Action.participate ⟨2⟩ "ann" .empty .empty none).perform s agendaTables ≠
      .error (.refused .eventNotActive) := by
  intro s listed
  obtain ⟨-, hagenda, -, hnotions, hrefused, -⟩ := active_events_agree s agendaTables none
  have hids : (agendaTables.books.findActiveEvents ⟨Instant.second⟩).map Event.id =
      [⟨2⟩, ⟨1⟩, ⟨3⟩] := by
    have hopen : (agendaTables.books.events.filter fun event =>
        event.status = .active && event.startDate ≤ ⟨Instant.second⟩ &&
          ⟨Instant.second⟩ ≤ event.endDate) = agendaTables.books.events.rows.take 3 := rfl
    unfold Books.findActiveEvents earliestFirst
    rw [hopen]
    have hlater : ¬(⟨9 * Instant.second⟩ : Instant) ≤ ⟨Instant.second⟩ := by decide
    have hearlier : (⟨Instant.second⟩ : Instant) ≤ ⟨9 * Instant.second⟩ := by decide
    have hsame : (⟨9 * Instant.second⟩ : Instant) ≤ ⟨9 * Instant.second⟩ := by decide
    simp [agendaTables, notAfter, List.mergeSort, hlater, hearlier, hsame]
  obtain ⟨draft, hdraft, hid⟩ :
      ∃ e, agendaTables.books.events.find? ⟨4⟩ = some e ∧ e.id ∉ [(⟨2⟩ : Id), ⟨1⟩, ⟨3⟩] :=
    ⟨_, rfl, by decide⟩
  obtain ⟨ending, hending, hlisted⟩ :
      ∃ e, agendaTables.books.events.find? ⟨2⟩ = some e ∧ e ∈ listed :=
    ⟨_, rfl, (hnotions _ (by simp [agendaTables])).2.mpr (by decide)⟩
  have hout : draft ∉ listed := fun h => hid (hids ▸ List.mem_map_of_mem h)
  obtain ⟨hpart, hask, hproof⟩ := hrefused _ draft hdraft "ann" .empty
  obtain ⟨hpart', -, -⟩ := hrefused _ ending hending "ann" .empty
  refine ⟨hids, (hpart .empty).mpr hout, ?_, (hproof hout).2, fun h => ?_⟩
  · exact (hask [.known ⟨5⟩] [⟨5⟩] rfl (by decide) (by simp [agendaTables, Table.find?, Row.id])
      none).mpr hout
  · exact (hpart' .empty).mp h hlisted

end Promotions
