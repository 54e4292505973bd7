import Promotions.Proofs.Windows

/-!
# Edits that are read back

A patch is read from the body of a web request or from the payload of a command (`Moment.Brings`),
and says of each field whether it is left, cleared or set. `EventPatch.applied` and
`RewardPatch.applied` are the rows that patches describe. A success is followed by a row of this
kind, and everybody is shown it who asks for it next (`edits_read_back`).

There are two exceptions, both about free-form columns. Such a column is written only if the new
value differs from the old one, and values that are loosely the same do not differ (`Json.written`).
So a count that is replaced by a flag may still be read as a count
(`loosely_equal_edit_is_not_read_back`). And of what is written, doubles that are no numbers are
shown as null (`Json.finite`).
-/

namespace Promotions

open FormField

/-! ### Free-form columns -/

namespace Json

/-- What is stored in a free-form column once a new value is written over the old one. -/
def written (old new : Json) : Json := if looselyEq old new then old else new

mutual

/-- **A value is loosely the same as itself**, whatever doubles and names there are in it. -/
theorem looselyEq_self : ∀ value : Json, looselyEq value value = true
  | .null => rfl
  | .bool _ | .int _ => by simp [looselyEq, sameNumber, toRat?]
  | .double value => by
    cases hnumber : value.toRat? <;> simp [looselyEq, sameNumber, toRat?, hnumber]
  | .str _ => by simp [looselyEq]
  | .arr items => by simp only [looselyEq, itemsLooselyEq_self items]
  | .obj members => by
    simp only [looselyEq, beq_self_eq_true, Bool.true_and]
    exact membersLooselyEq_self [] members members fun _ _ _ hmember => hmember

theorem itemsLooselyEq_self : ∀ items : List Json, itemsLooselyEq items items = true
  | [] => rfl
  | item :: rest => by
    rw [itemsLooselyEq, looselyEq_self item, itemsLooselyEq_self rest]
    rfl

/-- Members are loosely the same as those of an object to which they belong, but for those behind
another one of their name. -/
theorem membersLooselyEq_self : ∀ (passed : List String) (members all : List (String × Json)),
    (∀ name value, name ∉ passed → lookup name members = some value →
      lookup name all = some value) → membersLooselyEq passed members all = true
  | _, [], _, _ => rfl
  | passed, (name, value) :: rest, all, h => by
    have hrest : ∀ other found, other ∉ name :: passed → lookup other rest = some found →
        lookup other all = some found := by
      intro other found hother hfound
      have hne : name ≠ other := fun heq => hother (heq ▸ List.mem_cons_self)
      exact h other found (fun hpassed => hother (List.mem_cons_of_mem name hpassed))
        (by rw [lookup, if_neg hne, hfound])
    rw [membersLooselyEq, membersLooselyEq_self (name :: passed) rest all hrest, Bool.and_true]
    by_cases hpassed : name ∈ passed
    · rw [List.contains_iff_mem.mpr hpassed, Bool.true_or]
    · simp only [h name value hpassed (by simp [lookup]), looselyEq_self value, Bool.or_true]

end

theorem written_empty {old : Json} (hobject : old.isObject = true) : written old empty = empty := by
  unfold written
  split
  · next hsame =>
    cases old with
    | obj members =>
      cases members with
      | nil => rfl
      | cons member rest => simp [looselyEq, empty] at hsame
    | _ => cases hobject
  · rfl

theorem written_null {old : Json} (hshape : old.isObjectOrNull = true) :
    written old null = null := by
  unfold written
  split
  · next hsame =>
    cases old with
    | null => rfl
    | obj members => simp [looselyEq, sameNumber, toRat?] at hsame
    | _ => cases hshape
  · rfl

end Json

/-! ### The rows that patches describe -/

/-- The event that a patch describes: a field that is set is as it is given, one that is cleared is
empty if it may be, and the others are as they were. -/
def EventPatch.applied (patch : EventPatch) (actor : String) (old : Event) : Event :=
  { old with
    title := patch.title.getD old.title
    description := patch.description.getD old.description
    startDate := patch.startDate.instant old.startDate
    endDate := patch.endDate.instant old.endDate
    status := patch.status.getD old.status
    conditionType := patch.conditionType.getD old.conditionType
    conditionValue := (patch.conditionValue.apply (some old.conditionValue)).getD .empty
    autoReward := patch.autoReward.getD old.autoReward
    allowMultiple := patch.allowMultiple.getD old.allowMultiple
    maxParticipants := patch.maxParticipants.apply old.maxParticipants
    updatedBy := some actor }

/-- The reward that a patch describes. -/
def RewardPatch.applied (patch : RewardPatch) (actor : String) (old : Reward) : Reward :=
  { old with
    name := patch.name.getD old.name
    description := patch.description.apply old.description
    type := patch.type.getD old.type
    value := patch.value.getD old.value
    metadata := (patch.metadata.apply (some old.metadata)).getD .null
    totalQuantity := patch.totalQuantity.getD old.totalQuantity
    expiryDate := (patch.expiryDate.map Timestamp.instant).apply old.expiryDate
    updatedBy := some actor }

/-- No column is cleared that may not be empty. -/
def EventPatch.ClearsNothing (patch : EventPatch) : Prop :=
  patch.clearsColumn = false ∧ patch.startDate ≠ .clear ∧ patch.endDate ≠ .clear

/-- No column is cleared that may not be empty. -/
def RewardPatch.ClearsNothing (patch : RewardPatch) : Prop :=
  patch.clearsColumn = false ∧ patch.totalQuantity ≠ .clear

/-- **An event after an edit** is the one that the patch describes, but for a condition value that
is loosely the old one, and for the time of the change. -/
structure Event.EditedBy (patch : EventPatch) (actor : String) (old new : Event) : Prop where
  clearsNothing : patch.ClearsNothing
  eq_applied : new =
    { patch.applied actor old with
      conditionValue := Json.written old.conditionValue (patch.applied actor old).conditionValue
      updatedAt := new.updatedAt }

/-- **A reward after an edit** is the one that the patch describes, but for metadata that are
loosely the old ones, and for the time of the change. -/
structure Reward.EditedBy (patch : RewardPatch) (actor : String) (old new : Reward) : Prop where
  clearsNothing : patch.ClearsNothing
  eq_applied : new =
    { patch.applied actor old with
      metadata := Json.written old.metadata (patch.applied actor old).metadata
      updatedAt := new.updatedAt }

theorem Event.patched_eq {old : Event} {patch : EventPatch} {startDate endDate : Instant}
    (hstart : Books.editDate "start_date" old.startDate patch.startDate = .ok startDate)
    (hend : Books.editDate "end_date" old.endDate patch.endDate = .ok endDate) (actor : String) :
    old.patched patch startDate endDate actor = patch.applied actor old := by
  unfold patched EventPatch.applied
  rw [Books.eq_instant_of_editDate hstart, Books.eq_instant_of_editDate hend]
  cases patch.conditionValue <;> rfl

theorem Books.eq_apply_of_editExpiry {old expiryDate : Option Instant} {edit : Edit Timestamp}
    (h : editExpiry old edit = .ok expiryDate) :
    expiryDate = (edit.map Timestamp.instant).apply old := by
  cases edit with
  | keep => exact (Except.ok.inj h).symm
  | clear => exact (Except.ok.inj h).symm
  | set date =>
    cases hstored : date.stored with
    | error failure => simp [editExpiry, hstored, Except.map] at h
    | ok utc =>
      simp only [editExpiry, hstored, Except.map, Except.ok.injEq] at h
      rw [← h, Timestamp.eq_instant_of_stored hstored]
      rfl

theorem Reward.patched_eq {old : Reward} {patch : RewardPatch} {expiryDate : Option Instant}
    (hexpiry : Books.editExpiry old.expiryDate patch.expiryDate = .ok expiryDate) (actor : String) :
    old.patched patch expiryDate actor = patch.applied actor old := by
  unfold patched RewardPatch.applied
  rw [Books.eq_apply_of_editExpiry hexpiry]
  cases patch.metadata <;> rfl

namespace Books

variable {s : Session} {books : Books} {id : Id} {actor : String}

/-- **An event that is edited** can be shown, and is stored as the patch describes it. -/
theorem updateEvent_edited {patch : EventPatch} {o : Outcome Event} (hbooks : books.events.Numbered)
    (hshaped : ∀ e ∈ books.events.rows, e.IsShaped)
    (h : books.updateEvent s id patch actor = .ok o) :
    ∃ old row, books.events.find? id = some old ∧ o.books.events.find? id = some row ∧
      Event.EditedBy patch actor old row ∧ row.shown = .ok row.view := by
  obtain ⟨old, startDate, endDate, view, hold, hstart, hend, -, hclear, hnew, hview, hafter, -⟩ :=
    Action.updateEvent_eq_ok h
  have hmem := Table.mem_of_find?_eq_some hold
  have hfound := hbooks.find?_put_of_find? hold
    (show Row.id (old.stored o.answer) = Row.id old by rw [hnew]; rfl)
  refine ⟨old, old.stored o.answer, hold, by rw [hafter]; exact hfound, ⟨⟨hclear, ?_, ?_⟩, ?_⟩, ?_⟩
  · rintro heq
    rw [heq] at hstart
    cases hstart
  · rintro heq
    rw [heq] at hend
    cases hend
  · rw [hnew, Event.patched_eq hstart hend]
    rfl
  · obtain ⟨hissues, -, -⟩ := showable_eq_ok_iff.mp hview
    exact ((hshaped old hmem).stored (Event.isShaped_of_shown hview)).shown_eq
      (Event.issues_eq_nil_iff.mp hissues).2

/-- **A reward that is edited** can be shown, and is stored as the patch describes it. -/
theorem updateReward_edited {patch : RewardPatch} {o : Outcome Reward}
    (hbooks : books.rewards.Numbered) (hshaped : ∀ r ∈ books.rewards.rows, r.IsShaped)
    (h : books.updateReward s id patch actor = .ok o) :
    ∃ old row, books.rewards.find? id = some old ∧ o.books.rewards.find? id = some row ∧
      Reward.EditedBy patch actor old row ∧ row.shown = .ok row.view := by
  obtain ⟨old, expiryDate, view, hold, htotal, hexpiry, hclear, hnew, hview, hafter, -⟩ :=
    Action.updateReward_eq_ok h
  have hmem := Table.mem_of_find?_eq_some hold
  have hfound := hbooks.find?_put_of_find? hold
    (show Row.id (old.stored o.answer) = Row.id old by rw [hnew]; rfl)
  refine ⟨old, old.stored o.answer, hold, by rw [hafter]; exact hfound, ⟨⟨hclear, ?_⟩, ?_⟩, ?_⟩
  · rintro heq
    rw [heq] at htotal
    cases htotal
  · rw [hnew, Reward.patched_eq hexpiry]
    rfl
  · exact ((hshaped old hmem).stored (Reward.isShaped_of_shown hview)).shown_eq

end Books

/-! ### What is brought -/

/-- The caller of a verb and the row, if there is one, are among the members of a payload. -/
def WritingVerb.NamedIn (verb : WritingVerb) (caller : String) (payload : List (String × Json)) :
    Prop :=
  Json.lookup verb.callerField payload = some (.str caller) ∧
    ∀ id, verb.id? = some id → Json.lookup "id" payload = some (.str id)

namespace WritingVerb

variable {verb : WritingVerb} {caller text : String} {payload : List (String × Json)}
  (hcaller : Json.lookup verb.callerField payload = some (.str caller))
include hcaller

theorem namedIn_of_none (hnone : verb.id? = none) : verb.NamedIn caller payload := by
  refine ⟨hcaller, fun id hid => ?_⟩
  rw [hnone] at hid
  cases hid

theorem namedIn_of_some (hsome : verb.id? = some text)
    (htext : Json.lookup "id" payload = some (.str text)) : verb.NamedIn caller payload := by
  refine ⟨hcaller, fun id hid => ?_⟩
  rw [hsome] at hid
  rwa [← Option.some.inj hid]

end WritingVerb

/-- **A verb is brought** by a caller: the body is that of a web request with the caller in its
header and the row in its path, or it is the payload of a command, with both of them among its
members. -/
inductive Moment.Brings (verb : WritingVerb) (caller : String) (body : List (String × Json)) :
    Moment → Prop where
  | request {s : Session} {r : Web.Request}
      (hfind : Endpoint.find r.method r.path = .ok verb.endpoint)
      (hcaller : Web.caller? r.user = some caller) (hbody : r.body = some (.obj body)) :
    Brings verb caller body ⟨s, .request r⟩
  | command {s : Session} {name : String} (hnames : verb.NamedIn caller body) :
    Brings verb caller body ⟨s, .command name body⟩
  | commandRequest {s : Session} {r : Web.Request} {members : List (String × Json)} {name : String}
      (hfind : Endpoint.find r.method r.path = .ok .command) (hbody : r.body = some (.obj members))
      (hread : Web.readCommand members = .ok (name, body)) (hnames : verb.NamedIn caller body) :
    Brings verb caller body ⟨s, .request r⟩

theorem FormField.required_someText_eq_ok {name text : String} {form : List (String × Json)}
    (h : required name someText form = .ok text) : Json.lookup name form = some (.str text) := by
  unfold required at h
  split at h
  · next value hvalue =>
    rw [hvalue]
    cases value with
    | str found =>
      simp only [someText, Checked.under_eq_ok_iff] at h
      split at h
      · cases h
      · cases Except.ok.inj h
        rfl
    | _ => cases h
  · cases h

theorem FormField.required_identifier_eq_ok {name : String} {id : Id} {form : List (String × Json)}
    (h : required name identifier form = .ok id) :
    ∃ text, Json.lookup name form = some (.str text) ∧ Id.read? text = some id := by
  unfold required at h
  split at h
  · next value hvalue =>
    cases value with
    | str text =>
      simp only [identifier, Checked.under_eq_ok_iff] at h
      split at h
      · next found hfound =>
        cases Except.ok.inj h
        exact ⟨text, hvalue, hfound⟩
      · cases h
    | _ => cases h
  · cases h

namespace Command

variable {α : Type} {read : List (String × Json) → Checked α} {payload : List (String × Json)}
  {a : α}

theorem lookup_of_withUser {user : String} (h : withUser read payload = .ok (a, user)) :
    Json.lookup "user_id" payload = some (.str user) :=
  required_someText_eq_ok (Checked.both_eq_ok_iff.mp h).2

theorem lookup_of_withCaller {field caller : String} {id : Id}
    (h : withCaller field read payload = .ok (a, id, caller)) :
    Json.lookup field payload = some (.str caller) ∧
      ∃ text, Json.lookup "id" payload = some (.str text) ∧ Id.read? text = some id := by
  obtain ⟨-, hrest⟩ := Checked.both_eq_ok_iff.mp h
  obtain ⟨hid, hcaller⟩ := Checked.both_eq_ok_iff.mp hrest
  exact ⟨required_someText_eq_ok hcaller, required_identifier_eq_ok hid⟩

end Command

/-- **A verb of commands that writes** names its caller and its row in its payload, and asks for
what it reads from there. -/
theorem Command.brings_of_verb {named : String × (List (String × Json) → Checked Action)}
    (hverb : named ∈ verbs) {payload : List (String × Json)} {action : Action}
    (h : named.2 payload = .ok action) (hwriting : action.Writing) :
    ∃ (verb : WritingVerb) (caller : String), verb.NamedIn caller payload ∧
      verb.Asks caller payload action := by
  simp only [verbs, List.mem_cons, List.not_mem_nil, or_false] at hverb
  rcases hverb with rfl | rfl | rfl | rfl | rfl | rfl | rfl | rfl | rfl | rfl | rfl | rfl | rfl |
    rfl | rfl | rfl | rfl | rfl | rfl
  all_goals
    try
      obtain ⟨_, -, rfl⟩ := Checked.map_eq_ok_iff.mp h
      exact hwriting.elim
  -- active events, and the verbs that write, remain in their order
  · obtain ⟨⟨draft, user⟩, hread, rfl⟩ := Checked.map_eq_ok_iff.mp h
    rw [handedOn_withUser EventDraft.refilled_eq_ok] at hread
    exact ⟨.createEvent, user, WritingVerb.namedIn_of_none (lookup_of_withUser hread) rfl,
      draft, eq_ok_of_withUser hread, rfl⟩
  · obtain ⟨⟨patch, id, user⟩, hread, rfl⟩ := Checked.map_eq_ok_iff.mp h
    rw [handedOn_withCaller EventPatch.refilled_eq_ok] at hread
    obtain ⟨huser, text, htext, hid⟩ := lookup_of_withCaller hread
    exact ⟨.updateEvent text, user, WritingVerb.namedIn_of_some huser rfl htext,
      id, patch, hid, eq_ok_of_withCaller hread, rfl⟩
  · cases Except.ok.inj h
    exact hwriting.elim
  · obtain ⟨⟨draft, user⟩, hread, rfl⟩ := Checked.map_eq_ok_iff.mp h
    rw [handedOn_withUser RewardDraft.refilled_eq_ok] at hread
    exact ⟨.createReward, user, WritingVerb.namedIn_of_none (lookup_of_withUser hread) rfl,
      draft, eq_ok_of_withUser hread, rfl⟩
  · obtain ⟨⟨patch, id, user⟩, hread, rfl⟩ := Checked.map_eq_ok_iff.mp h
    rw [handedOn_withCaller RewardPatch.refilled_eq_ok] at hread
    obtain ⟨huser, text, htext, hid⟩ := lookup_of_withCaller hread
    exact ⟨.updateReward text, user, WritingVerb.namedIn_of_some huser rfl htext,
      id, patch, hid, eq_ok_of_withCaller hread, rfl⟩
  · obtain ⟨⟨form, user⟩, hread, rfl⟩ := Checked.map_eq_ok_iff.mp h
    exact ⟨.createParticipation, user, WritingVerb.namedIn_of_none (lookup_of_withUser hread) rfl,
      form, eq_ok_of_withUser hread, rfl⟩
  · obtain ⟨⟨form, user⟩, hread, rfl⟩ := Checked.map_eq_ok_iff.mp h
    exact ⟨.createRequest, user, WritingVerb.namedIn_of_none (lookup_of_withUser hread) rfl,
      form, eq_ok_of_withUser hread, rfl⟩
  · obtain ⟨⟨decision, id, operator⟩, hread, rfl⟩ := Checked.map_eq_ok_iff.mp h
    obtain ⟨hoperator, text, htext, hid⟩ := lookup_of_withCaller hread
    exact ⟨.updateRequest text, operator, WritingVerb.namedIn_of_some hoperator rfl htext,
      id, decision, hid, eq_ok_of_withCaller hread, rfl⟩

namespace Web

theorem readBody_eq_ok_iff {α : Type} {read : List (String × Json) → Checked α} {r : Request}
    {a : α} : readBody read r = .ok a ↔ ∃ body, r.body = some (.obj body) ∧ read body = .ok a := by
  unfold readBody
  split
  · next hbody => simp [hbody]
  · next form hbody => simp [hbody, Checked.under_eq_ok_iff]
  · next value hother hbody =>
    simp only [hbody, Option.some.injEq, reduceCtorEq, false_iff]
    rintro ⟨body, rfl, -⟩
    exact hother body rfl

theorem pathId_eq_ok {name text : String} {id : Id} (h : pathId name text = .ok id) :
    Id.read? text = some id := by
  simp only [pathId, identifier, Checked.under_eq_ok_iff] at h
  split at h
  · next found hfound => rw [hfound, Except.ok.inj h]
  · cases h

section
variable {α : Type} {read : List (String × Json) → Checked α} {r : Request} {status code : Nat}
  {action : Action}

theorem eq_make_of_creation {make : α → String → Action}
    (h : (asCaller r fun caller => (readBody read r).map fun a => .action code (make a caller)) =
      .ok (.action status action)) :
    ∃ caller body a, caller? r.user = some caller ∧ r.body = some (.obj body) ∧
      read body = .ok a ∧ action = make a caller := by
  obtain ⟨caller, hcaller, h⟩ := asCaller_eq_ok_iff.mp h
  obtain ⟨a, ha, heq⟩ := Checked.map_eq_ok_iff.mp h
  obtain ⟨body, hbody, hread⟩ := readBody_eq_ok_iff.mp ha
  cases heq
  exact ⟨caller, body, a, hcaller, hbody, hread, rfl⟩

theorem eq_make_of_change {place text : String} (make : Id → α → String → Action)
    (h : (asCaller r fun caller => ((pathId place text).both (readBody read r)).map fun (id, a) =>
      .action code (make id a caller)) = .ok (.action status action)) :
    ∃ caller body id a, caller? r.user = some caller ∧ r.body = some (.obj body) ∧
      Id.read? text = some id ∧ read body = .ok a ∧ action = make id a caller := by
  obtain ⟨caller, hcaller, h⟩ := asCaller_eq_ok_iff.mp h
  obtain ⟨⟨id, a⟩, hboth, heq⟩ := Checked.map_eq_ok_iff.mp h
  obtain ⟨hid, ha⟩ := Checked.both_eq_ok_iff.mp hboth
  obtain ⟨body, hbody, hread⟩ := readBody_eq_ok_iff.mp ha
  cases heq
  exact ⟨caller, body, id, a, hcaller, hbody, pathId_eq_ok hid, hread, rfl⟩

end

/-- **An endpoint that writes** is that of a verb, and asks for what it reads from the body. -/
theorem brings_of_task {r : Request} {endpoint : Endpoint} {status : Nat} {action : Action}
    (h : task r endpoint = .ok (.action status action)) (hwriting : action.Writing) :
    ∃ (verb : WritingVerb) (caller : String) (body : List (String × Json)),
      endpoint = verb.endpoint ∧ caller? r.user = some caller ∧ r.body = some (.obj body) ∧
        verb.Asks caller body action := by
  cases endpoint with
  | createEvent =>
    obtain ⟨caller, body, draft, hcaller, hbody, hread, rfl⟩ := eq_make_of_creation h
    exact ⟨.createEvent, caller, body, rfl, hcaller, hbody, draft, hread, rfl⟩
  | createReward =>
    obtain ⟨caller, body, draft, hcaller, hbody, hread, rfl⟩ := eq_make_of_creation h
    exact ⟨.createReward, caller, body, rfl, hcaller, hbody, draft, hread, rfl⟩
  | createParticipation =>
    obtain ⟨caller, body, form, hcaller, hbody, hread, rfl⟩ := eq_make_of_creation h
    exact ⟨.createParticipation, caller, body, rfl, hcaller, hbody, form, hread, rfl⟩
  | createRequest =>
    obtain ⟨caller, body, form, hcaller, hbody, hread, rfl⟩ := eq_make_of_creation h
    exact ⟨.createRequest, caller, body, rfl, hcaller, hbody, form, hread, rfl⟩
  | patchEvent text =>
    obtain ⟨caller, body, id, patch, hcaller, hbody, hid, hread, rfl⟩ :=
      eq_make_of_change .updateEvent h
    exact ⟨.updateEvent text, caller, body, rfl, hcaller, hbody, id, patch, hid, hread, rfl⟩
  | patchReward text =>
    obtain ⟨caller, body, id, patch, hcaller, hbody, hid, hread, rfl⟩ :=
      eq_make_of_change .updateReward h
    exact ⟨.updateReward text, caller, body, rfl, hcaller, hbody, id, patch, hid, hread, rfl⟩
  | patchRequest text =>
    obtain ⟨caller, body, id, decision, hcaller, hbody, hid, hread, rfl⟩ :=
      eq_make_of_change (fun id (decision : RequestDecision) caller =>
        .transition id decision.status (some caller) decision.rejectedReason none) h
    exact ⟨.updateRequest text, caller, body, rfl, hcaller, hbody, id, decision, hid, hread, rfl⟩
  | cancelRequest | useGrant =>
    obtain ⟨caller, -, h⟩ := asCaller_eq_ok_iff.mp h
    obtain ⟨id, -, heq⟩ := Checked.map_eq_ok_iff.mp h
    cases heq
    exact hwriting.elim
  | listActiveEvents | listUserGrants | expireGrants =>
    cases h
    exact hwriting.elim
  | listMyParticipations | listMyRequests | listMyGrants =>
    simp only [task] at h
    obtain ⟨caller, h⟩ := asCaller_eq_ok h
    cases h
    exact hwriting.elim
  | listEvents | getEvent | listEventRewards | listEventParticipations | getStatistics | getReward
  | listRequests | getRequest | listRequestGrants | listLogs =>
    obtain ⟨_, -, heq⟩ := Checked.map_eq_ok_iff.mp (asAnyone_eq_ok h)
    cases heq
    exact hwriting.elim
  | command =>
    obtain ⟨_, -, heq⟩ := Checked.map_eq_ok_iff.mp (asAnyone_eq_ok h)
    cases heq

theorem eq_command_of_task {r : Request} {endpoint : Endpoint} {name : String}
    {payload : List (String × Json)} (h : task r endpoint = .ok (.command name payload)) :
    endpoint = .command ∧
      ∃ members, r.body = some (.obj members) ∧ readCommand members = .ok (name, payload) := by
  cases endpoint with
  | command =>
    obtain ⟨⟨found, members⟩, hread, heq⟩ := Checked.map_eq_ok_iff.mp (asAnyone_eq_ok h)
    cases heq
    exact ⟨rfl, readBody_eq_ok_iff.mp hread⟩
  | listActiveEvents | listUserGrants | expireGrants => cases h
  | listMyParticipations | listMyRequests | listMyGrants =>
    simp only [task] at h
    obtain ⟨caller, h⟩ := asCaller_eq_ok h
    cases h
  | createEvent | patchEvent | createReward | patchReward | createParticipation | createRequest
  | patchRequest | cancelRequest | useGrant =>
    obtain ⟨caller, h⟩ := asCaller_eq_ok h
    obtain ⟨_, -, heq⟩ := Checked.map_eq_ok_iff.mp h
    cases heq
  | listEvents | getEvent | listEventRewards | listEventParticipations | getStatistics | getReward
  | listRequests | getRequest | listRequestGrants | listLogs =>
    obtain ⟨_, -, heq⟩ := Checked.map_eq_ok_iff.mp (asAnyone_eq_ok h)
    cases heq

end Web

/-- **What is asked for without being called** is brought by a verb, if it writes. -/
theorem Moment.brings_of_asked? {m : Moment} {action : Action} (h : m.asked? = some action)
    (hwriting : action.Writing) (hcall : ∀ called, m.step ≠ .call called) :
    ∃ (verb : WritingVerb) (caller : String) (body : List (String × Json)),
      m.Brings verb caller body ∧ verb.Asks caller body action := by
  have hcommand {name payload} (h : Command.asked? name payload = some action) :
      ∃ (verb : WritingVerb) (caller : String), verb.NamedIn caller payload ∧
        verb.Asks caller payload action := by
    obtain ⟨named, hnamed, hread⟩ := Command.exists_verb_of_asked? h
    exact Command.brings_of_verb hnamed hread hwriting
  obtain ⟨s, step⟩ := m
  cases step with
  | request r =>
    replace h : Web.asked? r = some action := h
    unfold Web.asked? at h
    split at h
    · cases h
    · next endpoint hfind =>
      split at h
      · cases h
      · next status found htask =>
        cases Option.some.inj h
        obtain ⟨verb, caller, body, rfl, hcaller, hbody, hasks⟩ :=
          Web.brings_of_task htask hwriting
        exact ⟨verb, caller, body, .request hfind hcaller hbody, hasks⟩
      · next name payload htask =>
        obtain ⟨verb, caller, hnamed, hasks⟩ := hcommand h
        obtain ⟨rfl, members, hbody, hread⟩ := Web.eq_command_of_task htask
        exact ⟨verb, caller, payload, .commandRequest hfind hbody hread hnamed, hasks⟩
  | command name payload =>
    obtain ⟨verb, caller, hnamed, hasks⟩ := hcommand h
    exact ⟨verb, caller, payload, .command hnamed, hasks⟩
  | run works =>
    simp only [asked?] at h
    split at h
    · cases Option.some.inj h
      exact hwriting.elim
    · cases h
  | call called => exact absurd rfl (hcall called)

namespace WritingVerb

variable {verb : WritingVerb} {caller actor : String} {body : List (String × Json)} {id : Id}

theorem Asks.eq_updateEvent {patch : EventPatch}
    (h : verb.Asks caller body (.updateEvent id patch actor)) :
    ∃ text, verb = .updateEvent text ∧ Id.read? text = some id ∧ EventPatch.read body = .ok patch ∧
      actor = caller := by
  cases verb with
  | updateEvent text =>
    obtain ⟨_, _, hid, hread, heq⟩ := h
    cases heq
    exact ⟨text, rfl, hid, hread, rfl⟩
  | createEvent | createReward | createParticipation | createRequest =>
    obtain ⟨_, -, heq⟩ := h
    cases heq
  | updateReward | updateRequest =>
    obtain ⟨_, _, -, -, heq⟩ := h
    cases heq

theorem Asks.eq_updateReward {patch : RewardPatch}
    (h : verb.Asks caller body (.updateReward id patch actor)) :
    ∃ text, verb = .updateReward text ∧ Id.read? text = some id ∧
      RewardPatch.read body = .ok patch ∧ actor = caller := by
  cases verb with
  | updateReward text =>
    obtain ⟨_, _, hid, hread, heq⟩ := h
    cases heq
    exact ⟨text, rfl, hid, hread, rfl⟩
  | createEvent | createReward | createParticipation | createRequest =>
    obtain ⟨_, -, heq⟩ := h
    cases heq
  | updateEvent | updateRequest =>
    obtain ⟨_, _, -, -, heq⟩ := h
    cases heq

end WritingVerb

/-! ### Reading a row -/

namespace Endpoint

/-- What can be read is found by its identifier, unless the path is also that of a word. -/
theorem find_get {kind text : String} (hkind : kind ≠ "") (htext : text ≠ "")
    (hword : endingInWord (unbroken [kind, text]) = []) {first patch : Endpoint}
    (h : endingInId [kind, text] = [("GET", first), ("PATCH", patch)]) :
    find "GET" [kind, text] = .ok first := by
  have hpath : ofPath [kind, text] = [("GET", first), ("PATCH", patch)] := by
    unfold ofPath
    rw [if_neg (by simp [hkind.symm, htext.symm]), h, hword]
    rfl
  unfold find
  rw [hpath]
  rfl

theorem eq_or_eq_of_withoutBreak {text word : String} (h : withoutBreak text = word) :
    text = word ∨ text = String.ofList (word.toList ++ ['\n']) := by
  unfold withoutBreak at h
  split at h
  · next hlast =>
    refine Or.inr (String.toList_inj.mp ?_)
    rw [← h, String.toList_ofList, String.toList_ofList]
    exact (List.dropLast_append_getLast? '\n' hlast).symm
  · exact Or.inl h

section
variable {text : String} {id : Id} (hid : Id.read? text = some id)
include hid

theorem ne_empty_of_read? : text ≠ "" := by
  rintro rfl
  exact nomatch hid.symm.trans (show Id.read? "" = none by decide)

theorem withoutBreak_ne_active : withoutBreak text ≠ "active" := by
  intro hactive
  rcases eq_or_eq_of_withoutBreak hactive with rfl | rfl
  · exact nomatch hid.symm.trans (show Id.read? "active" = none by decide)
  · exact nomatch hid.symm.trans
      (show Id.read? (String.ofList ("active".toList ++ ['\n'])) = none by decide)

theorem find_getEvent : find "GET" ["events", text] = .ok (.getEvent text) := by
  have hword : endingInWord ["events", withoutBreak text] = [] := by
    simp [endingInWord, withoutBreak_ne_active hid]
  exact find_get (by decide) (ne_empty_of_read? hid) hword rfl

theorem find_getReward : find "GET" ["rewards", text] = .ok (.getReward text) :=
  find_get (by decide) (ne_empty_of_read? hid) rfl rfl

end

end Endpoint

namespace Web

variable {s : Session} {db : Database} {r : Request} {text : String} {id : Id}
  (hmethod : r.method = "GET") (hid : Id.read? text = some id)
include hmethod hid

/-- **An event that can be shown is answered** to whoever asks for it. -/
theorem handle_getEvent (hpath : r.path = ["events", text]) {row : Event} {view : Json}
    (hfound : db.books.events.find? id = some row) (hshown : row.shown = .ok view) :
    handle s db r = (.reply 200 view, db) := by
  have htask : task r (.getEvent text) = .ok (ok (.findEvent id)) := by
    simp only [task, asAnyone, pathId, identifier, hid, Checked.under, Checked.map]
  have hperform : (Action.findEvent id).perform s db = .ok (.event row, db) := by
    simp only [Action.perform, Books.findEvent, hfound, Action.found]
  have hbody : bodyOf ((Reply.event row).reread db) = .ok view := by
    show ((db.books.events.find? (Row.id row)).getD row).shown = _
    rw [Table.id_of_find?_eq_some hfound, hfound]
    exact hshown
  simp only [handle, hmethod, hpath, Endpoint.find_getEvent hid, htask, ok, answerAction, hperform,
    hbody]

theorem handle_getReward (hpath : r.path = ["rewards", text]) {row : Reward} {view : Json}
    (hfound : db.books.rewards.find? id = some row) (hshown : row.shown = .ok view) :
    handle s db r = (.reply 200 view, db) := by
  have htask : task r (.getReward text) = .ok (ok (.findReward id)) := by
    simp only [task, asAnyone, pathId, identifier, hid, Checked.under, Checked.map]
  have hperform : (Action.findReward id).perform s db = .ok (.reward row, db) := by
    simp only [Action.perform, Books.findReward, hfound, Action.found]
  have hbody : bodyOf ((Reply.reward row).reread db) = .ok view := by
    show ((db.books.rewards.find? (Row.id row)).getD row).shown = _
    rw [Table.id_of_find?_eq_some hfound, hfound]
    exact hshown
  simp only [handle, hmethod, hpath, Endpoint.find_getReward hid, htask, ok, answerAction, hperform,
    hbody]

end Web

/-! ### Edits and what is read after them -/

/-- **The event of an identifier is read as a row**: so is everybody answered who asks for it. -/
def Event.IsReadAs (row : Event) (id : Id) (db : Database) : Prop :=
  ∀ (s : Session) (r : Web.Request) (text : String), r.method = "GET" → r.path = ["events", text] →
    Id.read? text = some id → Web.handle s db r = (.reply 200 row.view, db)

/-- **The reward of an identifier is read as a row**. -/
def Reward.IsReadAs (row : Reward) (id : Id) (db : Database) : Prop :=
  ∀ (s : Session) (r : Web.Request) (text : String), r.method = "GET" → r.path = ["rewards", text] →
    Id.read? text = some id → Web.handle s db r = (.reply 200 row.view, db)

theorem FormField.lookup_of_edit_object {name : String} {form : List (String × Json)} {value : Json}
    (h : edit name object form = .ok (.set value)) : Json.lookup name form = some value := by
  unfold edit at h
  split at h
  · cases h
  · cases h
  · next given _ hgiven =>
    obtain ⟨found, hfound, hset⟩ := Checked.map_eq_ok_iff.mp h
    cases hset
    have hobject := Checked.under_eq_ok_iff.mp hfound
    unfold object at hobject
    split at hobject
    · rw [hgiven, Except.ok.inj hobject]
    · cases hobject

theorem Moment.step_ne_call {m : Moment} {db : Database} {code : Nat}
    (hcode : m.status? db = some code) (hlt : code < 400) (called : Action) :
    m.step ≠ .call called := by
  obtain ⟨s, step⟩ := m
  rintro rfl
  simp only [status?] at hcode
  split at hcode
  · next refusal _ =>
    rw [← Option.some.inj hcode] at hlt
    exact absurd refusal.kind.le_status (Nat.not_le.mpr hlt)
  · cases hcode

/-- **Edits are read back.** Whenever an edit of an event or a reward is answered with success, by
an endpoint or a command, the row had been found, and whoever asks for it next is shown the row that
the patch describes, in the name of the caller; the patch is read from the members that were
brought, and clears no column that may not be empty. Of the free-form column, this is what was
given, and nothing where null was given, unless what was given is loosely what had been there; then
that is still shown. Doubles in it that are no numbers are shown as null. -/
theorem edits_read_back {db : Database} (h : db.Reachable Action.IsFormed) {m : Moment} {code : Nat}
    (hcode : m.status? db = some code) (hlt : code < 400) :
    (∀ id patch actor, m.asked? = some (.updateEvent id patch actor) →
      ∃ text body old row, m.Brings (.updateEvent text) actor body ∧ Id.read? text = some id ∧
        patch.ReadFrom body ∧ db.books.events.find? id = some old ∧
        Event.EditedBy patch actor old row ∧
        (∀ value, patch.conditionValue = .set value →
          Json.lookup "condition_value" body = some value ∧
            row.conditionValue = Json.written old.conditionValue value) ∧
        (patch.conditionValue = .clear → row.conditionValue = .empty) ∧
        row.view.get? "condition_value" = some row.conditionValue.finite ∧
        row.IsReadAs id (m.after db)) ∧
    ∀ id patch actor, m.asked? = some (.updateReward id patch actor) →
      ∃ text body old row, m.Brings (.updateReward text) actor body ∧ Id.read? text = some id ∧
        patch.ReadFrom body ∧ db.books.rewards.find? id = some old ∧
        Reward.EditedBy patch actor old row ∧
        (∀ value, patch.metadata = .set value →
          Json.lookup "metadata" body = some value ∧
            row.metadata = Json.written old.metadata value) ∧
        (patch.metadata = .clear → row.metadata = .null) ∧
        row.view.get? "metadata" = some row.metadata.finite ∧
        row.IsReadAs id (m.after db) := by
  have hcall := Moment.step_ne_call hcode hlt
  refine ⟨fun id patch actor hasked => ?_, fun id patch actor hasked => ?_⟩
  · obtain ⟨reply, hperform⟩ := Moment.succeeded hasked hcode hlt
    obtain ⟨o, ho, -, hafter⟩ := Action.settle_eq_ok hperform
    obtain ⟨old, row, hold, hrow, hedited, hshown⟩ :=
      Books.updateEvent_edited h.numbered.events h.shaped.events ho
    obtain ⟨verb, caller, body, hbrings, hasks⟩ := Moment.brings_of_asked? hasked trivial hcall
    obtain ⟨text, rfl, hid, hread, rfl⟩ := hasks.eq_updateEvent
    have hfields := EventPatch.readFrom_of_read hread
    have hvalue := congrArg Event.conditionValue hedited.eq_applied
    refine ⟨text, body, old, row, hbrings, hid, hfields, hold, hedited, fun value hset => ?_,
      fun hclear => ?_, rfl, fun s r spelled hmethod hpath hspelled => ?_⟩
    · refine ⟨FormField.lookup_of_edit_object (hset ▸ hfields.conditionValue), hvalue.trans ?_⟩
      simp only [EventPatch.applied, hset, Edit.apply, Option.getD_some]
    · refine hvalue.trans ?_
      simp only [EventPatch.applied, hclear, Edit.apply, Option.getD_none]
      exact Json.written_empty (h.shaped.events old (Table.mem_of_find?_eq_some hold)).isObject
    · rw [← hafter] at hrow
      exact Web.handle_getEvent hmethod hspelled hpath hrow hshown
  · obtain ⟨reply, hperform⟩ := Moment.succeeded hasked hcode hlt
    obtain ⟨o, ho, -, hafter⟩ := Action.settle_eq_ok hperform
    obtain ⟨old, row, hold, hrow, hedited, hshown⟩ :=
      Books.updateReward_edited h.numbered.rewards h.shaped.rewards ho
    obtain ⟨verb, caller, body, hbrings, hasks⟩ := Moment.brings_of_asked? hasked trivial hcall
    obtain ⟨text, rfl, hid, hread, rfl⟩ := hasks.eq_updateReward
    have hfields := RewardPatch.readFrom_of_read hread
    have hvalue := congrArg Reward.metadata hedited.eq_applied
    refine ⟨text, body, old, row, hbrings, hid, hfields, hold, hedited, fun value hset => ?_,
      fun hclear => ?_, rfl, fun s r spelled hmethod hpath hspelled => ?_⟩
    · refine ⟨FormField.lookup_of_edit_object (hset ▸ hfields.metadata), hvalue.trans ?_⟩
      simp only [RewardPatch.applied, hset, Edit.apply, Option.getD_some]
    · refine hvalue.trans ?_
      simp only [RewardPatch.applied, hclear, Edit.apply, Option.getD_none]
      exact Json.written_null
        (h.shaped.rewards old (Table.mem_of_find?_eq_some hold)).isObjectOrNull
    · rw [← hafter] at hrow
      exact Web.handle_getReward hmethod hspelled hpath hrow hshown

/-- The free-form column of the reward of `offeringRun` is edited. -/
def rating (micros : Int) (rate : Json) : Moment :=
  ⟨{ clock := ⟨micros⟩ },
    .request ((WritingVerb.updateReward ({} : Table Reward).nextId.text).request "admin"
      [("metadata", .obj [("rate", rate)])])⟩

theorem asked?_rating (micros : Int) (rate : Json) : (rating micros rate).asked? =
    some (.updateReward ({} : Table Reward).nextId { metadata := .set (.obj [("rate", rate)]) }
      "admin") := by
  have hfind := WritingVerb.find_endpoint
    (by decide : (WritingVerb.updateReward ({} : Table Reward).nextId.text).id? ≠ some "")
  have hcaller : Web.caller? (some "admin") = some "admin" :=
    Web.caller?_of_isTrimmed ⟨by decide, by decide⟩
  have hid := Id.read?_text_of_lt (show ({} : Table Reward).nextId.val < 16 ^ 32 by decide)
  have hread : RewardPatch.read [("metadata", .obj [("rate", rate)])] =
    .ok { metadata := .set (.obj [("rate", rate)]) } := rfl
  simp only [rating, Moment.asked?, Web.asked?, WritingVerb.request, hfind, WritingVerb.endpoint,
    Web.task, Web.asCaller, hcaller, Web.pathId, identifier, hid, Web.readBody, hread, Checked.both,
    Checked.under, Checked.map, Checked.ap, Web.ok]

/-- A run after which the reward of `offeringRun` has a rate of one. -/
def ratedRun : List Moment := offeringRun ++ [rating 3000000 (.int 1)]

theorem reachable_ratedRun {P : Action → Prop} : (Database.empty.after ratedRun).Reachable P := by
  refine ⟨ratedRun, fun m hm action hcall => ?_, rfl⟩
  simp only [ratedRun, offeringRun, List.cons_append, List.nil_append, List.mem_cons,
    List.not_mem_nil, or_false] at hm
  rcases hm with rfl | rfl | rfl <;> cases hcall

/-- The count of a name in an object. -/
def Json.count? (name : String) : Json → Option Int
  | .obj members =>
    match lookup name members with
    | some (.int n) => some n
    | _ => none
  | _ => none

/-- A rate of one that is set to a flag is still read as one, although the edit is answered with
success. -/
theorem edits_read_back_ratedRun :
    let db := Database.empty.after ratedRun
    let edit := rating 4000000 (.bool true)
    db.Reachable Action.IsFormed ∧ edit.status? db = some 200 ∧
      ∃ row : Reward, row.metadata.count? "rate" = some 1 ∧ row.updatedBy = some "admin" ∧
        row.IsReadAs ({} : Table Reward).nextId (edit.after db) := by
  intro db edit
  have hreachable : db.Reachable Action.IsFormed := reachable_ratedRun
  have hcode : edit.status? db = some 200 := by decide +kernel
  have hasked : edit.asked? = _ := asked?_rating _ _
  obtain ⟨_, _, old, row, -, -, -, hold, hedited, hset, -, -, hreads⟩ :=
    (edits_read_back hreachable hcode (by decide)).2 _ _ _ hasked
  have hrun : ((db.books.rewards.find? ({} : Table Reward).nextId).map fun old =>
      (old.metadata.count? "rate", old.metadata.looselyEq (.obj [("rate", .bool true)]))) =
        some (some 1, true) := by
    decide +kernel
  rw [hold, Option.map_some, Option.some.injEq, Prod.mk.injEq] at hrun
  obtain ⟨-, hmetadata⟩ := hset _ rfl
  refine ⟨hreachable, hcode, row, ?_, congrArg Reward.updatedBy hedited.eq_applied, hreads⟩
  rw [hmetadata, Json.written, if_pos hrun.2]
  exact hrun.1

/-- The member of a name in the body of an answer. -/
def Web.Answer.member? (name : String) : Web.Answer → Option Json
  | .reply _ (.obj members) => Json.lookup name members
  | _ => none

/-- **An edit is not always read back**: the free-form column is not written if what is given is
loosely what is there. -/
theorem loosely_equal_edit_is_not_read_back :
    ¬∀ db : Database, db.Reachable (fun _ => False) → ∀ (m : Moment) (code : Nat),
      m.status? db = some code → code < 400 → ∀ id patch actor value,
        m.asked? = some (.updateReward id patch actor) → patch.metadata = .set value →
          ∀ (s : Session) (r : Web.Request), r.method = "GET" → r.path = ["rewards", id.text] →
            (Web.handle s (m.after db) r).1.member? "metadata" = some value := by
  intro h
  let db := Database.empty.after ratedRun
  let edit := rating 4000000 (.bool true)
  let r : Web.Request := { method := "GET", path := ["rewards", ({} : Table Reward).nextId.text] }
  have hasked : edit.asked? = _ := asked?_rating _ _
  have hread : (Web.handle { clock := ⟨5000000⟩ } (edit.after db) r).1.member? "metadata" =
      some (.obj [("rate", .bool true)]) :=
    h db reachable_ratedRun edit 200 (by decide +kernel) (by decide) _ _ _ _ hasked rfl _ r rfl rfl
  have hcount : ((Web.handle { clock := ⟨5000000⟩ } (edit.after db) r).1.member? "metadata").bind
      (Json.count? "rate") = some 1 := by
    decide +kernel
  rw [hread] at hcount
  cases hcount

end Promotions
