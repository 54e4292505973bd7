import Promotions.Proofs.Asking

/-!
# What the forms have checked

What a web request or a command asks for was read from a form. `Action.IsFormed` says what that
means for the actions that write: a draft or a patch is what reading some form gives, a caller has a
name, a payload is an object where one is given, and rewards are spelled by their identifiers
(`Action.IsAsked.isFormed`). What the single fields are like then follows from how they are read,
for instance that no event is limited to less than one participant (`EventDraft.one_le_limit`), or
that its status is a listed one.
-/

namespace Promotions

open FormField

namespace EventDraft

variable {draft : EventDraft}

theorem one_le_limit (h : IsRead read draft) {limit : Int}
    (hlimit : draft.maxParticipants = some limit) : 1 ≤ limit := by
  obtain ⟨form, hform⟩ := h
  have hread := (readFrom_of_read hform).maxParticipants
  rw [hlimit] at hread
  obtain ⟨value, hvalue⟩ := optional_eq_ok hread
  exact le_of_integerFrom hvalue

theorem status_mem_listed (h : IsRead read draft) : draft.status ∈ EventStatus.listed := by
  obtain ⟨form, hform⟩ := h
  rcases withDefault_eq_ok (readFrom_of_read hform).status with heq | ⟨value, hvalue⟩
  · rw [heq]
    exact List.mem_cons_self
  · exact mem_listed_of_word hvalue

theorem isObject_conditionValue (h : IsRead read draft) :
    draft.conditionValue.isObject = true := by
  obtain ⟨form, hform⟩ := h
  rcases withDefault_eq_ok (readFrom_of_read hform).conditionValue with heq | ⟨value, hvalue⟩
  · rw [heq]
    rfl
  · exact isObject_of_object hvalue

end EventDraft

namespace EventPatch

variable {patch : EventPatch}

theorem status_mem_listed (h : IsRead read patch) {status : EventStatus}
    (hstatus : patch.status = .set status) : status ∈ EventStatus.listed := by
  obtain ⟨form, hform⟩ := h
  have hread := (readFrom_of_read hform).status
  rw [hstatus] at hread
  obtain ⟨value, hvalue⟩ := edit_eq_ok hread
  exact mem_listed_of_word hvalue

theorem isObject_conditionValue (h : IsRead read patch) (value : Json)
    (hset : patch.conditionValue = .set value) : value.isObject = true := by
  obtain ⟨form, hform⟩ := h
  have hread := (readFrom_of_read hform).conditionValue
  rw [hset] at hread
  obtain ⟨given, hgiven⟩ := edit_eq_ok hread
  exact isObject_of_object hgiven

end EventPatch

theorem RewardDraft.isObjectOrNull_metadata {draft : RewardDraft}
    (h : IsRead RewardDraft.read draft) : (draft.metadata.getD .null).isObjectOrNull = true := by
  obtain ⟨form, hform⟩ := h
  exact isObjectOrNull_of_optional (readFrom_of_read hform).metadata

theorem RewardPatch.isObject_metadata {patch : RewardPatch} (h : IsRead RewardPatch.read patch)
    (value : Json) (hset : patch.metadata = .set value) : value.isObject = true := by
  obtain ⟨form, hform⟩ := h
  have hread := (readFrom_of_read hform).metadata
  rw [hset] at hread
  obtain ⟨given, hgiven⟩ := edit_eq_ok hread
  exact isObject_of_object hgiven

/-! ### What is asked for -/

/-- **What the forms have checked** of an action that writes. -/
def Action.IsFormed : Action → Prop
  | .createEvent draft actor => IsRead EventDraft.read draft ∧ actor ≠ ""
  | .updateEvent _ patch actor => IsRead EventPatch.read patch ∧ actor ≠ ""
  | .createReward draft actor => IsRead RewardDraft.read draft ∧ actor ≠ ""
  | .updateReward _ patch actor => IsRead RewardPatch.read patch ∧ actor ≠ ""
  | .participate _ userId verificationData additionalData _ =>
    userId ≠ "" ∧ verificationData.isObjectOrNull = true ∧ additionalData.isObjectOrNull = true
  | .createRequest _ spellings userId verificationData _ _ =>
    userId ≠ "" ∧ verificationData.isObjectOrNull = true ∧
      ∃ ids : List Id, spellings = ids.map .known ∧ ∀ id ∈ ids, id.IsSpelled
  | .transition _ _ operator _ _ => ∃ name, operator = some name ∧ name ≠ ""
  | .cancelRequest _ userId | .useGrant _ userId _ => userId ≠ ""
  | _ => True

theorem ParticipationForm.isObjectOrNull {form : List (String × Json)} {read : ParticipationForm}
    (h : ParticipationForm.read form = .ok read) :
    (read.verificationData.getD .null).isObjectOrNull = true ∧
      (read.additionalData.getD .null).isObjectOrNull = true := by
  simp only [ParticipationForm.read, Checked.ap_eq_ok_iff, Checked.map_eq_ok_iff] at h
  obtain ⟨_, _, ⟨_, _, ⟨_, -, rfl⟩, hverification, rfl⟩, hadditional, rfl⟩ := h
  exact ⟨isObjectOrNull_of_optional hverification, isObjectOrNull_of_optional hadditional⟩

theorem RequestForm.wellFormed {form : List (String × Json)} {read : RequestForm}
    (h : RequestForm.read form = .ok read) :
    (read.verificationData.getD .null).isObjectOrNull = true ∧
      ∀ id ∈ read.rewardIds, id.IsSpelled := by
  simp only [RequestForm.read, Checked.ap_eq_ok_iff, Checked.map_eq_ok_iff] at h
  obtain ⟨_, _, ⟨_, _, ⟨_, -, rfl⟩, hids, rfl⟩, hverification, rfl⟩ := h
  refine ⟨isObjectOrNull_of_optional hverification, fun id hid => ?_⟩
  obtain ⟨value, hvalue⟩ := required_eq_ok hids
  obtain ⟨item, hitem⟩ := list_eq_ok hvalue id hid
  exact isSpelled_of_identifier hitem

namespace Command

theorem withUser_eq_ok {α : Type} {read : List (String × Json) → Checked α}
    {payload : List (String × Json)} {a : α} {user : String}
    (h : withUser read payload = .ok (a, user)) : read payload = .ok a ∧ user ≠ "" := by
  obtain ⟨hread, huser⟩ := Checked.both_eq_ok_iff.mp h
  obtain ⟨value, hvalue⟩ := required_eq_ok huser
  exact ⟨hread, ne_empty_of_someText hvalue⟩

theorem withCaller_eq_ok {α : Type} {field : String} {read : List (String × Json) → Checked α}
    {payload : List (String × Json)} {a : α} {id : Id} {caller : String}
    (h : withCaller field read payload = .ok (a, id, caller)) :
    read payload = .ok a ∧ caller ≠ "" := by
  obtain ⟨hread, hrest⟩ := Checked.both_eq_ok_iff.mp h
  obtain ⟨value, hvalue⟩ := required_eq_ok (Checked.both_eq_ok_iff.mp hrest).2
  exact ⟨hread, ne_empty_of_someText hvalue⟩

theorem isFormed_of_verb {verb : String × (List (String × Json) → Checked Action)}
    (hverb : verb ∈ verbs) {payload : List (String × Json)} {action : Action}
    (h : verb.2 payload = .ok action) : action.IsFormed := by
  simp only [verbs, List.mem_cons, List.not_mem_nil, or_false] at hverb
  rcases hverb with rfl | rfl | rfl | rfl | rfl | rfl | rfl | rfl | rfl | rfl | rfl | rfl | rfl |
    rfl | rfl | rfl | rfl | rfl | rfl
  any_goals
    obtain ⟨_, -, rfl⟩ := Checked.map_eq_ok_iff.mp h
    trivial
  -- active events, and the verbs that write, remain in their order
  · obtain ⟨⟨draft, user⟩, hread, rfl⟩ := Checked.map_eq_ok_iff.mp h
    rw [handedOn_withUser EventDraft.refilled_eq_ok] at hread
    exact ⟨⟨payload, (withUser_eq_ok hread).1⟩, (withUser_eq_ok hread).2⟩
  · obtain ⟨⟨patch, id, user⟩, hread, rfl⟩ := Checked.map_eq_ok_iff.mp h
    rw [handedOn_withCaller EventPatch.refilled_eq_ok] at hread
    exact ⟨⟨payload, (withCaller_eq_ok hread).1⟩, (withCaller_eq_ok hread).2⟩
  · cases Except.ok.inj h
    trivial
  · obtain ⟨⟨draft, user⟩, hread, rfl⟩ := Checked.map_eq_ok_iff.mp h
    rw [handedOn_withUser RewardDraft.refilled_eq_ok] at hread
    exact ⟨⟨payload, (withUser_eq_ok hread).1⟩, (withUser_eq_ok hread).2⟩
  · obtain ⟨⟨patch, id, user⟩, hread, rfl⟩ := Checked.map_eq_ok_iff.mp h
    rw [handedOn_withCaller RewardPatch.refilled_eq_ok] at hread
    exact ⟨⟨payload, (withCaller_eq_ok hread).1⟩, (withCaller_eq_ok hread).2⟩
  · obtain ⟨⟨form, user⟩, hread, rfl⟩ := Checked.map_eq_ok_iff.mp h
    obtain ⟨hform, huser⟩ := withUser_eq_ok hread
    exact ⟨huser, ParticipationForm.isObjectOrNull hform⟩
  · obtain ⟨⟨form, user⟩, hread, rfl⟩ := Checked.map_eq_ok_iff.mp h
    obtain ⟨hform, huser⟩ := withUser_eq_ok hread
    obtain ⟨hpayload, hids⟩ := RequestForm.wellFormed hform
    exact ⟨huser, hpayload, form.rewardIds, rfl, hids⟩
  · obtain ⟨⟨decision, id, operator⟩, hread, rfl⟩ := Checked.map_eq_ok_iff.mp h
    exact ⟨operator, rfl, (withCaller_eq_ok hread).2⟩

end Command

namespace Web

theorem ne_empty_of_caller? {header : Option String} {caller : String}
    (h : caller? header = some caller) : caller ≠ "" := by
  unfold caller? at h
  obtain ⟨text, -, hname⟩ := Option.bind_eq_some_iff.mp h
  dsimp only at hname
  split at hname
  · cases hname
  · next hne =>
    rw [← Option.some.inj hname]
    intro hempty
    exact hne (by rw [← String.toList_ofList (l := Text.stripped _ _), hempty]; rfl)

/-- **An endpoint asks for what its form has checked.** -/
theorem isFormed_of_task {r : Request} {endpoint : Endpoint} {status : Nat} {action : Action}
    (h : task r endpoint = .ok (.action status action)) : action.IsFormed := by
  cases endpoint with
  | createEvent | createReward =>
    obtain ⟨caller, hcaller, h⟩ := asCaller_eq_ok_iff.mp h
    obtain ⟨draft, hdraft, heq⟩ := Checked.map_eq_ok_iff.mp h
    cases heq
    exact ⟨readBody_eq_ok hdraft, ne_empty_of_caller? hcaller⟩
  | patchEvent | patchReward =>
    obtain ⟨caller, hcaller, h⟩ := asCaller_eq_ok_iff.mp h
    obtain ⟨⟨id, patch⟩, hread, heq⟩ := Checked.map_eq_ok_iff.mp h
    cases heq
    exact ⟨readBody_eq_ok (Checked.both_eq_ok_iff.mp hread).2, ne_empty_of_caller? hcaller⟩
  | createParticipation =>
    obtain ⟨caller, hcaller, h⟩ := asCaller_eq_ok_iff.mp h
    obtain ⟨read, hread, heq⟩ := Checked.map_eq_ok_iff.mp h
    cases heq
    obtain ⟨form, hform⟩ := readBody_eq_ok hread
    exact ⟨ne_empty_of_caller? hcaller, ParticipationForm.isObjectOrNull hform⟩
  | createRequest =>
    obtain ⟨caller, hcaller, h⟩ := asCaller_eq_ok_iff.mp h
    obtain ⟨read, hread, heq⟩ := Checked.map_eq_ok_iff.mp h
    cases heq
    obtain ⟨form, hform⟩ := readBody_eq_ok hread
    obtain ⟨hpayload, hids⟩ := RequestForm.wellFormed hform
    exact ⟨ne_empty_of_caller? hcaller, hpayload, read.rewardIds, rfl, hids⟩
  | patchRequest =>
    obtain ⟨caller, hcaller, h⟩ := asCaller_eq_ok_iff.mp h
    obtain ⟨⟨id, decision⟩, -, heq⟩ := Checked.map_eq_ok_iff.mp h
    cases heq
    exact ⟨caller, rfl, ne_empty_of_caller? hcaller⟩
  | cancelRequest | useGrant =>
    obtain ⟨caller, hcaller, h⟩ := asCaller_eq_ok_iff.mp h
    obtain ⟨id, -, heq⟩ := Checked.map_eq_ok_iff.mp h
    cases heq
    exact ne_empty_of_caller? hcaller
  | listActiveEvents | listUserGrants | expireGrants =>
    cases h
    trivial
  | listMyParticipations | listMyRequests | listMyGrants =>
    simp only [task] at h
    obtain ⟨caller, h⟩ := asCaller_eq_ok h
    cases h
    trivial
  | listEvents | getEvent | listEventRewards | listEventParticipations | getStatistics | getReward
  | listRequests | getRequest | listRequestGrants | listLogs =>
    obtain ⟨_, -, heq⟩ := Checked.map_eq_ok_iff.mp (asAnyone_eq_ok h)
    cases heq
    trivial
  | command =>
    obtain ⟨_, -, heq⟩ := Checked.map_eq_ok_iff.mp (asAnyone_eq_ok h)
    cases heq

end Web

/-- **Whatever is asked for without being called** is as the forms have checked it. -/
theorem Action.IsAsked.isFormed {action : Action} (h : action.IsAsked) : action.IsFormed := by
  have hcommand {name payload} (h : Command.asked? name payload = some action) :
      action.IsFormed := by
    obtain ⟨verb, hverb, hread⟩ := Command.exists_verb_of_asked? h
    exact Command.isFormed_of_verb hverb hread
  rcases h with ⟨r, hr⟩ | ⟨name, payload, h⟩ | ⟨now, rfl⟩
  · rcases Web.task_or_command_of_asked? hr with ⟨endpoint, status, htask⟩ | ⟨name, payload, h⟩
    · exact Web.isFormed_of_task htask
    · exact hcommand h
  · exact hcommand h
  · trivial

end Promotions
