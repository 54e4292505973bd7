import Promotions.Proofs.Admission

/-!
# What taking part is refused for

Taking part in an event is refused for the first of six reasons that applies (`Books.hindrance?`).
Two of them are about the same event, one that admits nobody twice, but they look at different
things: a participation of the user that counts, and a participation of anybody, whatever its
status, that has the key of the user. In a database that can be reached they come to the same; here
the tables may hold anything.

Nothing else is refused, but the call may still break off: the participation is written out for the
journal, and a payload may be too high for that. The operation is followed step by step in the store
as well (`InPlace.participate`), where a participation that the unique key turns away must leave no
trace, and the counter of the event is written after it.
-/

namespace Promotions

/-- The key of the only participation that a user may have in an event. -/
def onlyKey (eventId : Id) (userId : String) : String := eventId.text ++ ":" ++ userId

namespace Participation

/-- The participation counts as one of a user in an event. -/
def CountsFor (p : Participation) (eventId : Id) (userId : String) : Prop :=
  p.eventId = eventId ∧ p.userId = userId ∧ p.status = .participated

instance (p : Participation) (eventId : Id) (userId : String) :
    Decidable (p.CountsFor eventId userId) := by
  unfold CountsFor
  infer_instance

end Participation

namespace Books

/-! ### The reasons -/

/-- **What taking part is refused for**: the first reason that applies. -/
def hindrance? (books : Books) (eventId : Id) (userId : String) (proof : Json) (now : Instant) :
    Option Refusal :=
  match books.events.find? eventId with
  | none => some (.eventNotFound eventId)
  | some event =>
    if ¬(event.status = .active ∧ event.startDate ≤ now ∧ now ≤ event.endDate) then
      some .eventNotActive
    else if event.conditionType.isMetBy proof = false then some .conditionsNotMet
    else if event.allowMultiple = false ∧
        ∃ p ∈ books.participations.rows, p.CountsFor eventId userId then
      some .alreadyParticipated
    else if ∃ limit ∈ event.maxParticipants, limit ≤ event.participantCount then
      some .participantLimitReached
    else if event.allowMultiple = false ∧
        ∃ p ∈ books.participations.rows, p.dedupeKey = some (onlyKey eventId userId) then
      some .alreadyParticipated
    else none

section
variable {books : Books} {event : Event} {userId : String}

theorem participationsOf_eq_filter (eventId : Id) :
    books.participationsOf eventId userId =
      books.participations.rows.filter fun p => p.CountsFor eventId userId := by
  unfold participationsOf Table.filter
  refine List.filter_congr fun p _ => Bool.eq_iff_iff.mpr ?_
  rw [decide_eq_true_eq]
  simp [Participation.CountsFor, and_assoc]

theorem length_participationsOf_ne_zero {eventId : Id} :
    (books.participationsOf eventId userId).length ≠ 0 ↔
      ∃ p ∈ books.participations.rows, p.CountsFor eventId userId := by
  rw [participationsOf_eq_filter, Ne, List.length_eq_zero_iff, List.filter_eq_nil_iff]
  simp

theorem addParticipation?_eq_none_iff {p : Participation}
    (hkey : p.dedupeKey = dedupeKey event userId) :
    books.addParticipation? p = none ↔ event.allowMultiple = false ∧
      ∃ q ∈ books.participations.rows, q.dedupeKey = some (onlyKey event.id userId) := by
  unfold addParticipation?
  rw [hkey, dedupeKey]
  cases event.allowMultiple <;> simp [Table.any, onlyKey]

theorem addParticipation?_eq_push {p : Participation} (h : books.addParticipation? p ≠ none) :
    books.addParticipation? p =
      some { books with participations := books.participations.push p } := by
  obtain ⟨after, hafter⟩ := Option.ne_none_iff_exists'.mp h
  rw [hafter, (addParticipation?_eq_some hafter).1]

/-- The reasons in the words of the operation, which checks for one after the other. -/
theorem hindrance?_of_found {eventId : Id} (hfound : books.events.find? eventId = some event)
    {proof : Json} {now : Instant} {p : Participation} (hkey : p.dedupeKey = dedupeKey event userId) :
    books.hindrance? eventId userId proof now =
      if !event.isActiveAt now then some .eventNotActive
      else if !event.admits proof now then some .conditionsNotMet
      else if (books.participationsOf event.id userId).length ≠ 0 ∧ !event.allowMultiple then
        some .alreadyParticipated
      else if event.maxParticipants.any (· ≤ event.participantCount) then
        some .participantLimitReached
      else if books.addParticipation? p = none then some .alreadyParticipated
      else none := by
  obtain rfl : event.id = eventId := Table.id_of_find?_eq_some hfound
  unfold hindrance?
  rw [hfound]
  by_cases hactive : event.isActiveAt now = true
  · have hadmits : event.admits proof now = event.conditionType.isMetBy proof := by
      unfold Event.admits
      rw [hactive, Bool.true_and]
    have hopen := isActiveAt_iff.mp hactive
    -- each check of the operation is the condition of the reason that it is made for
    have hcounted : ((books.participationsOf event.id userId).length ≠ 0 ∧
        event.allowMultiple = false) ↔ event.allowMultiple = false ∧
          ∃ q ∈ books.participations.rows, q.CountsFor event.id userId := by
      rw [length_participationsOf_ne_zero, and_comm]
    have hlimit : event.maxParticipants.any (· ≤ event.participantCount) = true ↔
        ∃ limit ∈ event.maxParticipants, limit ≤ event.participantCount := by
      simp [Option.any_eq_true]
    simp only [hopen, hactive, hadmits, hcounted, hlimit, addParticipation?_eq_none_iff hkey,
      Bool.not_eq_true', and_self, not_true_eq_false, Bool.true_eq_false, if_false]
  · have hclosed : ¬(event.status = .active ∧ event.startDate ≤ now ∧ now ≤ event.endDate) :=
      fun h => hactive (isActiveAt_iff.mpr h)
    rw [if_pos (by simpa using hactive)]
    exact if_pos hclosed

end

/-! ### The operation -/

/-- The books with one participation more, which its event counts. -/
def withParticipation (books : Books) (p : Participation) (stamp : Instant) : Books :=
  ({ books with participations := books.participations.push p } : Books).countParticipant p.eventId
    stamp

/-- **Taking part** is refused for the reason that there is; without one, the participation is
written, and it is left to write it out. -/
theorem participate_eq (books : Books) (s : Session) (eventId : Id) (userId : String)
    (verificationData additionalData : Json) (now : Instant) :
    match books.hindrance? eventId userId verificationData now with
    | some refusal =>
      books.participate s eventId userId verificationData additionalData now =
        Failure.refuse refusal
    | none => ∃ event, books.events.find? eventId = some event ∧
      let p := Participation.ofUser books.participations.nextId event userId verificationData
        additionalData (books.participationsOf event.id userId).length now
      books.participate s eventId userId verificationData additionalData now =
        (orBreakOff p.shown).map fun view =>
          { answer := p
            books := books.withParticipation p s.stamp
            notes := [eventParticipated event userId view] } := by
  unfold participate findEvent
  cases hfound : books.events.find? eventId with
  | none => simp [hindrance?, hfound, Failure.refuse]
  | some event =>
    let p := Participation.ofUser books.participations.nextId event userId verificationData
      additionalData (books.participationsOf event.id userId).length now
    have hkey : p.dedupeKey = dedupeKey event userId := rfl
    rw [hindrance?_of_found hfound hkey]
    dsimp only
    split_ifs with _ _ _ _ hnone
    · rfl
    · rfl
    · rfl
    · rfl
    · rw [hnone]
    · refine ⟨event, rfl, ?_⟩
      rw [addParticipation?_eq_push hnone]
      dsimp only
      cases orBreakOff p.shown <;> rfl

end Books

namespace InPlace

open Work Books

variable (s : Session) (wreck : Wreck)

/-- Adds the row of a participation, unless its key is taken. -/
def insertParticipation (event : Event) (userId : String) (verificationData additionalData : Json)
    (previous : Nat) (now : Instant) : Work Participation := apply fun books =>
  let p := Participation.ofUser books.participations.nextId event userId verificationData
    additionalData previous now
  match books.addParticipation? p with
  | none => Failure.refuse .alreadyParticipated
  | some after => .ok (p, after)

/-- Adds a participation: the row, the counter of its event, and the entry. -/
def enter (event : Event) (userId : String) (verificationData additionalData : Json)
    (previous : Nat) (now : Instant) : Work Participation := do
  let p ← savepoint (insertParticipation event userId verificationData additionalData previous now)
  write fun books => books.countParticipant event.id s.stamp
  let view ← check (orBreakOff p.shown)
  let _ ← record s wreck (eventParticipated event userId view)
  return p

/-- Takes part in an event. -/
def participate (eventId : Id) (userId : String) (verificationData additionalData : Json)
    (now : Instant) : Work Participation := do
  let event ← look fun books => books.findEvent eventId
  if !event.isActiveAt now then check (Failure.refuse .eventNotActive)
  else if !event.admits verificationData now then check (Failure.refuse .conditionsNotMet)
  else do
    let previous ← look fun books => .ok (books.participationsOf event.id userId).length
    if previous ≠ 0 ∧ !event.allowMultiple then check (Failure.refuse .alreadyParticipated)
    else if event.maxParticipants.any (· ≤ event.participantCount) then
      check (Failure.refuse .participantLimitReached)
    else enter s wreck event userId verificationData additionalData previous now

section
variable (sheet : Sheet) (eventId : Id) (userId : String) (verificationData additionalData : Json)
  (now : Instant)

theorem participate_of_found {event : Event} (hevent : sheet.books.findEvent eventId = .ok event) :
    participate s wreck eventId userId verificationData additionalData now sheet =
      if !event.isActiveAt now then (Failure.refuse .eventNotActive, sheet)
      else if !event.admits verificationData now then (Failure.refuse .conditionsNotMet, sheet)
      else if (sheet.books.participationsOf event.id userId).length ≠ 0 ∧ !event.allowMultiple then
        (Failure.refuse .alreadyParticipated, sheet)
      else if event.maxParticipants.any (· ≤ event.participantCount) then
        (Failure.refuse .participantLimitReached, sheet)
      else enter s wreck event userId verificationData additionalData
        (sheet.books.participationsOf event.id userId).length now sheet := by
  simp only [participate, bind_apply, look_apply, hevent, Work.ite_apply, check_apply]

/-- A participation that the unique key turns away leaves no trace, and its event does not
count it. -/
theorem enter_of_taken {event : Event} {previous : Nat}
    (hnone : sheet.books.addParticipation? (Participation.ofUser sheet.books.participations.nextId
      event userId verificationData additionalData previous now) = none) :
    enter s wreck event userId verificationData additionalData previous now sheet =
      (.error (.refused .alreadyParticipated), sheet) := by
  simp [enter, insertParticipation, hnone, Failure.refuse]

theorem enter_of_new {event : Event} {previous : Nat} {p : Participation}
    (hp : p = Participation.ofUser sheet.books.participations.nextId event userId verificationData
      additionalData previous now) (hsome : sheet.books.addParticipation? p ≠ none) :
    enter s wreck event userId verificationData additionalData previous now sheet =
      match orBreakOff p.shown with
      | .ok view => (.ok p, sheet.after s (sheet.books.withParticipation p s.stamp)
          [eventParticipated event userId view])
      | .error failure =>
        (.error failure, { sheet with books := sheet.books.withParticipation p s.stamp }) := by
  subst hp
  simp only [enter, insertParticipation, bind_apply, savepoint_apply, apply_apply, write_apply,
    check_apply, addParticipation?_eq_push hsome]
  cases orBreakOff (Participation.ofUser sheet.books.participations.nextId event userId
      verificationData additionalData previous now).shown with
  | error failure => rfl
  | ok view =>
    simp only [record_eq, pure_apply]
    rfl

/-- **Taking part in place**: what is refused has written nothing, and the counter is written only
once the participation is there. -/
theorem participate_eq :
    match sheet.books.hindrance? eventId userId verificationData now with
    | some refusal =>
      participate s wreck eventId userId verificationData additionalData now sheet =
        (.error (.refused refusal), sheet)
    | none => ∃ event, sheet.books.events.find? eventId = some event ∧
      let p := Participation.ofUser sheet.books.participations.nextId event userId verificationData
        additionalData (sheet.books.participationsOf event.id userId).length now
      participate s wreck eventId userId verificationData additionalData now sheet =
        match orBreakOff p.shown with
        | .ok view => (.ok p, sheet.after s (sheet.books.withParticipation p s.stamp)
            [eventParticipated event userId view])
        | .error failure =>
          (.error failure, { sheet with books := sheet.books.withParticipation p s.stamp }) := by
  cases hfound : sheet.books.events.find? eventId with
  | none => simp [participate, hindrance?, findEvent, hfound, Failure.refuse]
  | some event =>
    let p := Participation.ofUser sheet.books.participations.nextId event userId verificationData
      additionalData (sheet.books.participationsOf event.id userId).length now
    have hkey : p.dedupeKey = dedupeKey event userId := rfl
    have hevent : sheet.books.findEvent eventId = .ok event := by
      unfold findEvent
      rw [hfound]
    rw [hindrance?_of_found hfound hkey, participate_of_found s wreck sheet eventId userId
      verificationData additionalData now hevent]
    split_ifs with _ _ _ _ hnone
    · rfl
    · rfl
    · rfl
    · rfl
    · exact enter_of_taken s wreck sheet userId verificationData additionalData now hnone
    · exact ⟨event, rfl, enter_of_new s wreck sheet userId verificationData additionalData now rfl
        hnone⟩

theorem does_participate :
    (participate s wreck eventId userId verificationData additionalData now).Does s sheet
      (sheet.books.participate s eventId userId verificationData additionalData now) := by
  have hplace := participate_eq s wreck sheet eventId userId verificationData additionalData now
  have hoperation := sheet.books.participate_eq s eventId userId verificationData additionalData now
  cases hhindrance : sheet.books.hindrance? eventId userId verificationData now with
  | some refusal =>
    rw [hhindrance] at hplace hoperation
    rw [hoperation]
    exact ⟨sheet, hplace⟩
  | none =>
    rw [hhindrance] at hplace hoperation
    obtain ⟨event, hfound, hplace⟩ := hplace
    obtain ⟨event', hfound', hoperation⟩ := hoperation
    cases Option.some.inj (hfound.symm.trans hfound')
    dsimp only at hplace
    rw [hoperation]
    cases hview : orBreakOff (Participation.ofUser sheet.books.participations.nextId event userId
        verificationData additionalData (sheet.books.participationsOf event.id userId).length
        now).shown with
    | error failure =>
      rw [hview] at hplace
      exact ⟨_, hplace⟩
    | ok view =>
      rw [hview] at hplace
      exact hplace

end

end InPlace

/-! ### Writing a participation out -/

theorem Json.isShallow_orEmpty {payload : Json} (h : payload.isObjectOrNull = true) :
    payload.orEmpty.isShallow = payload.isShallow := by
  unfold orEmpty
  split_ifs with htruthy
  · rfl
  · -- an object that counts as no value has no members
    cases payload with
    | null => rfl
    | obj members =>
      have hnone : members = [] := by simpa [truthy] using htruthy
      rw [hnone]
      rfl
    | bool | int | double | str | arr => cases h

section Payloads
variable {verificationData additionalData : Json}
  (hproof : verificationData.isObjectOrNull = true) (hmore : additionalData.isObjectOrNull = true)
include hproof hmore

theorem Participation.issues_ofUser (id : Id) (event : Event) (userId : String) (previous : Nat)
    (now : Instant) :
    (ofUser id event userId verificationData additionalData previous now).issues = [] := by
  have hfirst : Json.payloadIssues "verification_data" verificationData.orEmpty = [] :=
    Json.payloadIssues_eq_nil_iff.mpr (Json.isObjectOrNull_orEmpty hproof)
  have hsecond : Json.payloadIssues "additional_data" additionalData.orEmpty = [] :=
    Json.payloadIssues_eq_nil_iff.mpr (Json.isObjectOrNull_orEmpty hmore)
  exact List.append_eq_nil_iff.mpr ⟨hfirst, hsecond⟩

/-- **A participation can be written out** unless one of its payloads is too high. -/
theorem Participation.shown_ofUser (id : Id) (event : Event) (userId : String) (previous : Nat)
    (now : Instant) :
    let p := ofUser id event userId verificationData additionalData previous now
    p.shown = if verificationData.isShallow = true ∧ additionalData.isShallow = true then .ok p.view
      else .error .unwritable := by
  intro p
  have hissues : p.issues = [] := issues_ofUser hproof hmore id event userId previous now
  have hverification : p.verificationData.isShallow = verificationData.isShallow :=
    Json.isShallow_orEmpty hproof
  have hadditional : p.additionalData.isShallow = additionalData.isShallow :=
    Json.isShallow_orEmpty hmore
  unfold shown showable
  simp [hissues, hverification, hadditional]

/-- **A payload that is too high** breaks off a call that nothing else stands in the way of. -/
theorem Action.participate_eq_unwritable {s : Session} {db : Database} {eventId : Id}
    {userId : String} {now : Option Instant}
    (hnone : db.books.hindrance? eventId userId verificationData (now.getD s.clock) = none)
    (hhigh : ¬(verificationData.isShallow = true ∧ additionalData.isShallow = true)) :
    (Action.participate eventId userId verificationData additionalData now).perform s db =
      .error (.fault .unwritable) := by
  have hoperation := db.books.participate_eq s eventId userId verificationData additionalData
    (now.getD s.clock)
  rw [hnone] at hoperation
  obtain ⟨event, -, hoperation⟩ := hoperation
  have hshown := Participation.shown_ofUser hproof hmore db.books.participations.nextId event userId
    (db.books.participationsOf event.id userId).length (now.getD s.clock)
  dsimp only at hoperation hshown
  rw [hshown, if_neg hhigh] at hoperation
  exact congrArg (Action.settle s db (.participation ∘ some)) hoperation

end Payloads

/-- **The database gains a participation**, which its event counts. -/
structure Database.Gains (s : Session) (db : Database) (event : Event) (p : Participation)
    (after : Database) : Prop where
  participations_eq : after.books.participations = db.books.participations.push p
  /-- Nothing else changes of the event, and no other event. -/
  events_eq : after.books.events = db.books.events.modify event.id fun e =>
    { e with participantCount := e.participantCount + 1, updatedAt := some s.stamp }
  /-- One note tells of the participation, in an entry of the journal if that accepts it. -/
  journal_eq : after.journal =
    if s.journalAccepts 0 then
      db.journal.record s.clock
        { logType := .eventParticipated, actor := p.userId, eventId := some event.id
          details := .obj [("participation", p.view),
            ("conditionType", .str event.conditionType.name)] }
    else db.journal
  rewards_eq : after.books.rewards = db.books.rewards
  requests_eq : after.books.requests = db.books.requests
  claims_eq : after.books.claims = db.books.claims
  grants_eq : after.books.grants = db.books.grants

/-- **What becomes of taking part.** In every database, whatever its tables hold, taking part in an
event is refused for the first reason that applies: the event is not found, it is not active, its
condition is not met, it admits nobody twice and has a participation of the user that counts, it has
reached its limit, or it admits nobody twice and some participation, whatever its status, has the
key of the event and the user. A refusal leaves everything as it is, in the store itself too. If
there is no such reason, the participation is gained with the next number of its user, and a key if
its event admits nobody twice; but if a payload is too high to be written out, the call breaks off
and all that was written is taken back. Step by step in the store, it comes to the same. -/
theorem participation_outcome (s : Session) (db : Database) (eventId : Id) (userId : String)
    {verificationData additionalData : Json} (hproof : verificationData.isObjectOrNull = true)
    (hmore : additionalData.isObjectOrNull = true) (now : Option Instant) :
    let action := Action.participate eventId userId verificationData additionalData now
    let time := now.getD s.clock
    let hindrance? := db.books.hindrance? eventId userId verificationData time
    (∀ refusal, hindrance? = some refusal →
      action.perform s db = .error (.refused refusal) ∧
      (⟨s, .call action⟩ : Moment).after db = db ∧
      ∀ (wreck : Wreck) (sheet : Sheet), sheet.books = db.books →
        InPlace.participate s wreck eventId userId verificationData additionalData time sheet =
          (.error (.refused refusal), sheet)) ∧
    (hindrance? = none → ∃ event, db.books.events.find? eventId = some event ∧
      (verificationData.isShallow = true ∧ additionalData.isShallow = true →
        let participation : Participation :=
          { id := db.books.participations.nextId
            userId, eventId
            status := .participated
            participatedAt := time
            verificationData := verificationData.orEmpty
            additionalData := additionalData.orEmpty
            isRewardRequested := false
            rewardRequestedAt := none, rewardRequestId := none, rewardedAt := none
            participationCount :=
              (db.books.participations.rows.filter (·.CountsFor eventId userId)).length + 1
            dedupeKey := if event.allowMultiple then none else some (onlyKey eventId userId) }
        ∃ after, action.perform s db = .ok (.participation (some participation), after) ∧
          db.Gains s event participation after) ∧
      (¬(verificationData.isShallow = true ∧ additionalData.isShallow = true) →
        action.perform s db = .error (.fault .unwritable) ∧
        (⟨s, .call action⟩ : Moment).after db = db)) ∧
    (∀ wreck : Wreck, ((Reply.participation ∘ some) <$> InPlace.participate s wreck eventId userId
      verificationData additionalData time).transact db = action.perform s db) ∧
    [Refusal.eventNotFound eventId, .eventNotActive, .conditionsNotMet, .alreadyParticipated,
      .participantLimitReached].map Refusal.kind =
        [.notFound, .badRequest, .badRequest, .conflict, .badRequest] ∧
    [Refusal.eventNotActive, .conditionsNotMet, .participantLimitReached].map Refusal.message =
      ["Event is not active", "Event conditions not met",
        "Event has reached its participant limit"] := by
  intro action time hindrance?
  have hoperation := db.books.participate_eq s eventId userId verificationData additionalData time
  refine ⟨fun refusal hrefusal => ?_, fun hnone => ?_, fun wreck => ?_, rfl, rfl⟩
  · rw [show db.books.hindrance? eventId userId verificationData time = some refusal
      from hrefusal] at hoperation
    have hperform : action.perform s db = .error (.refused refusal) :=
      congrArg (Action.settle s db (.participation ∘ some)) hoperation
    refine ⟨hperform, Moment.after_call_eq_self hperform, fun wreck sheet hsheet => ?_⟩
    have hplace :=
      InPlace.participate_eq s wreck sheet eventId userId verificationData additionalData time
    rw [hsheet, show db.books.hindrance? eventId userId verificationData time = some refusal
      from hrefusal] at hplace
    exact hplace
  · rw [show db.books.hindrance? eventId userId verificationData time = none
      from hnone] at hoperation
    obtain ⟨event, hfound, hoperation⟩ := hoperation
    refine ⟨event, hfound, fun hshallow => ?_, fun hhigh => ?_⟩
    · obtain rfl : event.id = eventId := Table.id_of_find?_eq_some hfound
      have hshown := Participation.shown_ofUser hproof hmore db.books.participations.nextId event
        userId (db.books.participationsOf event.id userId).length time
      dsimp only at hoperation hshown
      rw [hshown, if_pos hshallow] at hoperation
      have hsettled : action.perform s db = _ :=
        congrArg (Action.settle s db (.participation ∘ some)) hoperation
      rw [Books.participationsOf_eq_filter] at hsettled
      exact ⟨_, hsettled, rfl, rfl, rfl, rfl, rfl, rfl, rfl⟩
    · have hperform := Action.participate_eq_unwritable hproof hmore hnone hhigh
      exact ⟨hperform, Moment.after_call_eq_self hperform⟩
  · have hdoes := InPlace.does_participate s wreck { books := db.books, journal := db.journal }
      eventId userId verificationData additionalData time
    exact hdoes.ends.transact_eq (.participation ∘ some)

/-- Tables with an event that admits nobody twice and has one seat left, and with a participation of
a user in it that has failed. -/
def failedTables : Database :=
  let event : Event :=
    { (default : Event) with
      id := ⟨1⟩, endDate := ⟨9000000⟩, status := .active, conditionType := .attendance
      participantCount := 4, maxParticipants := some 5 }
  let participation : Participation :=
    { (default : Participation) with
      id := ⟨1⟩, eventId := ⟨1⟩, userId := "ann", status := .failed
      dedupeKey := some (onlyKey ⟨1⟩ "ann") }
  { books :=
      { events := { rows := [event], added := 1 }
        participations := { rows := [participation], added := 1 } } }

/-- A participation that has failed does not count, but its key is taken; the last seat is left to
somebody else. -/
theorem participation_outcome_failedTables :
    let s : Session := { clock := ⟨1000000⟩ }
    let taking (userId : String) := Action.participate ⟨1⟩ userId .null .empty none
    (∀ p ∈ failedTables.books.participations.rows, ¬p.CountsFor ⟨1⟩ "ann") ∧
    (taking "ann").perform s failedTables = .error (.refused .alreadyParticipated) ∧
    ∃ p after, (taking "bob").perform s failedTables = .ok (.participation (some p), after) ∧
      p.participationCount = 1 ∧ p.dedupeKey = some (onlyKey ⟨1⟩ "bob") ∧
      after.books.events.rows.map Event.participantCount = [5] := by
  intro s taking
  have htaken : failedTables.books.hindrance? ⟨1⟩ "ann" .null s.clock = some .alreadyParticipated := by
    decide +kernel
  have hfree : failedTables.books.hindrance? ⟨1⟩ "bob" .null s.clock = none := by decide +kernel
  obtain ⟨hrefused, -⟩ := participation_outcome s failedTables ⟨1⟩ "ann"
    (rfl : Json.null.isObjectOrNull = true) (rfl : Json.empty.isObjectOrNull = true) none
  obtain ⟨-, hgained, -⟩ := participation_outcome s failedTables ⟨1⟩ "bob"
    (rfl : Json.null.isObjectOrNull = true) (rfl : Json.empty.isObjectOrNull = true) none
  obtain ⟨event, hevent, hshallow, -⟩ := hgained hfree
  cases Option.some.inj hevent
  obtain ⟨after, hperform, hgains⟩ := hshallow ⟨rfl, rfl⟩
  refine ⟨by decide +kernel, (hrefused _ htaken).1, _, after, hperform, by decide +kernel, rfl, ?_⟩
  rw [hgains.events_eq]
  rfl

/-- **Taking part with a proof that is too high** breaks off, although no reason to refuse it
applies. -/
theorem towering_proof_is_not_taken :
    let proof := Json.obj [("deep", towering 255)]
    proof.isObject = true ∧ failedTables.books.hindrance? ⟨1⟩ "bob" proof ⟨1000000⟩ = none ∧
      (Action.participate ⟨1⟩ "bob" proof .null none).perform { clock := ⟨1000000⟩ } failedTables =
        .error (.fault .unwritable) := by
  intro proof
  have hnone : failedTables.books.hindrance? ⟨1⟩ "bob" proof ⟨1000000⟩ = none := by decide +kernel
  have hhigh : ¬proof.isShallow = true := by
    simp [proof, Json.isShallow, height_towering, Json.greatestHeight]
  exact ⟨rfl, hnone, Action.participate_eq_unwritable rfl rfl hnone fun h => hhigh h.1⟩

end Promotions
