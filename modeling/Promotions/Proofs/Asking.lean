import Promotions.Web.Server
import Promotions.Proofs.Reading

/-!
# What can be asked for over the web

A web request and a command come down to at most one action each (`Web.asked?`, `Command.asked?`).
Only some actions can be asked for in this way, and those with what their forms have checked:
`Action.IsPublic`. So no total of a new reward is negative, no time is given from outside, every
change of a request's status has an operator and a listed target, and nothing is issued but by
approval (`Web.asked?_isPublic`).
-/

namespace Promotions

open FormField

theorem RequestDecision.status_mem_listed {form : List (String × Json)} {decision : RequestDecision}
    (h : RequestDecision.read form = .ok decision) : decision.status ∈ RequestStatus.listed := by
  simp only [RequestDecision.read, Checked.ap_eq_ok_iff, Checked.map_eq_ok_iff] at h
  obtain ⟨_, _, ⟨status, hstatus, rfl⟩, -, rfl⟩ := h
  obtain ⟨value, hvalue⟩ := required_eq_ok hstatus
  exact mem_listed_of_word hvalue

/-! ### Actions that can be asked for -/

/-- **The action can be asked for over the web**, with what its form has checked. -/
def Action.IsPublic : Action → Prop
  | .createReward draft _ => 0 ≤ draft.totalQuantity
  | .participate _ _ _ _ now => now = none
  | .createRequest _ spellings _ _ now rival =>
    (∃ ids : List Id, spellings = ids.map .known) ∧ now = none ∧ rival = none
  | .transition _ target operator _ now =>
    target ∈ RequestStatus.listed ∧ operator.isSome = true ∧ now = none
  | .useGrant _ _ now => now = none
  | .issue _ _ _ | .record _ | .verify _ _ _ _ | .findLatestParticipation _ _ => False
  | .findGrantsNaming _ => False
  | _ => True

/-- The action that a command asks for, if its payload can be read. -/
def Command.asked? (name : String) (payload : List (String × Json)) : Option Action :=
  match Command.action? name payload with
  | some (.ok action) => some action
  | _ => none

/-- The action that a web request asks for, if it has an endpoint and can be read. -/
def Web.asked? (r : Web.Request) : Option Action :=
  match Endpoint.find r.method r.path with
  | .error _ => none
  | .ok endpoint =>
    match Web.task r endpoint with
    | .error _ => none
    | .ok (.action _ action) => some action
    | .ok (.command name payload) => Command.asked? name payload

namespace Command

theorem eq_ok_of_withUser {α : Type} {read : List (String × Json) → Checked α}
    {payload : List (String × Json)} {a : α} {user : String}
    (h : withUser read payload = .ok (a, user)) : read payload = .ok a :=
  (Checked.both_eq_ok_iff.mp h).1

theorem eq_ok_of_withCaller {α : Type} {field : String} {read : List (String × Json) → Checked α}
    {payload : List (String × Json)} {a : α} {id : Id} {caller : String}
    (h : withCaller field read payload = .ok (a, id, caller)) : read payload = .ok a :=
  (Checked.both_eq_ok_iff.mp h).1

theorem isPublic_of_verb {verb : String × (List (String × Json) → Checked Action)}
    (hverb : verb ∈ verbs) {payload : List (String × Json)} {action : Action}
    (h : verb.2 payload = .ok action) : action.IsPublic := by
  simp only [verbs, List.mem_cons, List.not_mem_nil, or_false] at hverb
  rcases hverb with rfl | rfl | rfl | rfl | rfl | rfl | rfl | rfl | rfl | rfl | rfl | rfl | rfl |
    rfl | rfl | rfl | rfl | rfl | rfl
  any_goals
    obtain ⟨_, -, rfl⟩ := Checked.map_eq_ok_iff.mp h
    trivial
  -- active events, a new reward, a new request, and a decision remain
  · cases Except.ok.inj h
    trivial
  · obtain ⟨⟨draft, user⟩, hdraft, rfl⟩ := Checked.map_eq_ok_iff.mp h
    rw [handedOn_withUser RewardDraft.refilled_eq_ok] at hdraft
    exact RewardDraft.totalQuantity_nonneg (eq_ok_of_withUser hdraft)
  · obtain ⟨⟨form, user⟩, -, rfl⟩ := Checked.map_eq_ok_iff.mp h
    exact ⟨⟨form.rewardIds, rfl⟩, rfl, rfl⟩
  · obtain ⟨⟨decision, id, operator⟩, hdecision, rfl⟩ := Checked.map_eq_ok_iff.mp h
    exact ⟨RequestDecision.status_mem_listed (eq_ok_of_withCaller hdecision), rfl, rfl⟩

theorem exists_verb_of_asked? {name : String} {payload : List (String × Json)} {action : Action}
    (h : asked? name payload = some action) : ∃ verb ∈ verbs, verb.2 payload = .ok action := by
  unfold asked? action? at h
  cases hfind : verbs.find? fun verb => verb.1 = name with
  | none => simp [hfind] at h
  | some verb =>
    simp only [hfind, Option.map_some] at h
    split at h
    · next found hfound =>
      cases Option.some.inj h
      exact ⟨verb, List.mem_of_find?_eq_some hfind, Option.some.inj hfound⟩
    · cases h

theorem asked?_isPublic {name : String} {payload : List (String × Json)} {action : Action}
    (h : asked? name payload = some action) : action.IsPublic := by
  obtain ⟨verb, hverb, hread⟩ := exists_verb_of_asked? h
  exact isPublic_of_verb hverb hread

end Command

namespace Web

theorem asCaller_eq_ok_iff {r : Request} {read : String → Checked Task} {task : Task} :
    asCaller r read = .ok task ↔ ∃ caller, caller? r.user = some caller ∧ read caller = .ok task := by
  unfold asCaller
  cases caller? r.user with
  | none => simp
  | some caller => cases hread : read caller <;> simp [hread]

theorem asCaller_eq_ok {r : Request} {read : String → Checked Task} {task : Task}
    (h : asCaller r read = .ok task) : ∃ caller, read caller = .ok task := by
  obtain ⟨caller, -, hread⟩ := asCaller_eq_ok_iff.mp h
  exact ⟨caller, hread⟩

theorem asAnyone_eq_ok {read : Checked Task} {task : Task} (h : asAnyone read = .ok task) :
    read = .ok task := by
  unfold asAnyone at h
  split at h
  · cases Except.ok.inj h; rfl
  · cases h

theorem readBody_eq_ok {α : Type} {read : List (String × Json) → Checked α} {r : Request} {a : α}
    (h : readBody read r = .ok a) : ∃ form, read form = .ok a := by
  unfold readBody at h
  split at h
  · cases h
  · next form _ => exact ⟨form, Checked.under_eq_ok_iff.mp h⟩
  · cases h

/-- **An endpoint asks for a public action.** -/
theorem isPublic_of_task {r : Request} {endpoint : Endpoint} {status : Nat} {action : Action}
    (h : task r endpoint = .ok (.action status action)) : action.IsPublic := by
  cases endpoint with
  | createReward =>
    obtain ⟨caller, h⟩ := asCaller_eq_ok h
    obtain ⟨draft, hdraft, heq⟩ := Checked.map_eq_ok_iff.mp h
    cases heq
    obtain ⟨form, hform⟩ := readBody_eq_ok hdraft
    exact RewardDraft.totalQuantity_nonneg hform
  | createRequest =>
    obtain ⟨caller, h⟩ := asCaller_eq_ok h
    obtain ⟨form, -, heq⟩ := Checked.map_eq_ok_iff.mp h
    cases heq
    exact ⟨⟨form.rewardIds, rfl⟩, rfl, rfl⟩
  | patchRequest =>
    obtain ⟨caller, h⟩ := asCaller_eq_ok h
    obtain ⟨⟨id, decision⟩, hread, heq⟩ := Checked.map_eq_ok_iff.mp h
    cases heq
    obtain ⟨form, hform⟩ := readBody_eq_ok (Checked.both_eq_ok_iff.mp hread).2
    exact ⟨RequestDecision.status_mem_listed hform, rfl, rfl⟩
  | listActiveEvents | listUserGrants | expireGrants =>
    cases h
    trivial
  | listMyParticipations | listMyRequests | listMyGrants =>
    simp only [task] at h
    obtain ⟨caller, h⟩ := asCaller_eq_ok h
    cases h
    trivial
  | createEvent | patchEvent | patchReward | createParticipation | cancelRequest | useGrant =>
    obtain ⟨caller, h⟩ := asCaller_eq_ok h
    obtain ⟨_, -, heq⟩ := Checked.map_eq_ok_iff.mp h
    cases heq
    trivial
  | listEvents | getEvent | listEventRewards | listEventParticipations | getStatistics | getReward
  | listRequests | getRequest | listRequestGrants | listLogs =>
    obtain ⟨_, -, heq⟩ := Checked.map_eq_ok_iff.mp (asAnyone_eq_ok h)
    cases heq
    trivial
  | command =>
    obtain ⟨_, -, heq⟩ := Checked.map_eq_ok_iff.mp (asAnyone_eq_ok h)
    cases heq

theorem task_or_command_of_asked? {r : Request} {action : Action} (h : asked? r = some action) :
    (∃ endpoint status, task r endpoint = .ok (.action status action)) ∨
      ∃ name payload, Command.asked? name payload = some action := by
  unfold asked? at h
  split at h
  · cases h
  · next endpoint _ =>
    split at h
    · cases h
    · next status _ htask =>
      cases Option.some.inj h
      exact Or.inl ⟨endpoint, status, htask⟩
    · next name payload _ => exact Or.inr ⟨name, payload, h⟩

/-- **Whatever is asked for over the web is public.** -/
theorem asked?_isPublic {r : Request} {action : Action} (h : asked? r = some action) :
    action.IsPublic := by
  rcases task_or_command_of_asked? h with ⟨endpoint, status, htask⟩ | ⟨name, payload, hcommand⟩
  · exact isPublic_of_task htask
  · exact Command.asked?_isPublic hcommand

end Web

/-- **The action can be asked for without being called**: by a web request, by a command, or by the
scheduler. -/
def Action.IsAsked (action : Action) : Prop :=
  (∃ r, Web.asked? r = some action) ∨
    (∃ name payload, Command.asked? name payload = some action) ∨ ∃ now, action = .expireGrants now

theorem Action.IsAsked.isPublic {action : Action} (h : action.IsAsked) : action.IsPublic := by
  rcases h with ⟨r, hr⟩ | ⟨name, payload, hcommand⟩ | ⟨now, rfl⟩
  · exact Web.asked?_isPublic hr
  · exact Command.asked?_isPublic hcommand
  · trivial

end Promotions
