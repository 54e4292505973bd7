import Promotions.Proofs.Runs

/-!
# How moments are answered

An action that is refused is answered with the status of its refusal, whichever way it is asked for,
and leaves the whole database as it was (`Moment.refused`). So does one that succeeds without
writing anything (`Moment.unchanged`). The other way round, a status below 400 tells of an action
that took place (`Moment.succeeded`), and any other one of a refusal, unless a command finds issues
in what it would show (`Moment.failed`).
-/

namespace Promotions

/-- The status code of an answer, if the server did not break. -/
def Web.Answer.status? : Web.Answer → Option Nat
  | .reply status _ => some status
  | .broken _ | .unshowable | .unwritable => none

/-- The status code with which a moment is answered on a database; an operation that is called by
itself answers with one only if it is refused. -/
def Moment.status? (m : Moment) (db : Database) : Option Nat :=
  match m.step with
  | .request r => (Web.handle m.session db r).1.status?
  | .command name payload => (Web.answerCommand (Command.run m.session db name payload).1).status?
  | .run _ => none
  | .call action =>
    match action.perform m.session db with
    | .error (.refused refusal) => some refusal.kind.status
    | _ => none

theorem RefusalKind.le_status (kind : RefusalKind) : 400 ≤ kind.status := by
  cases kind <;> decide

/-- **An action finds issues** in what it would answer with: a row does not have its shape. -/
def Action.FindsIssues (s : Session) (db : Database) (action : Action) : Prop :=
  (∃ issues, action.perform s db = .error (.fault (.unshowable issues))) ∨
    ∃ reply after issues, action.perform s db = .ok (reply, after) ∧
      reply.shown = .error (.unshowable issues)

namespace Command

section
variable {s : Session} {db after : Database} {name : String} {payload : List (String × Json)}
  {action : Action}

theorem action?_of_asked? (h : asked? name payload = some action) :
    action? name payload = some (.ok action) := by
  unfold asked? at h
  split at h
  · next found hfound => rw [hfound, Option.some.inj h]
  · cases h

theorem run_of_refused (h : asked? name payload = some action) {refusal : Refusal}
    (hperform : action.perform s db = .error (.refused refusal)) :
    run s db name payload = (.refused refusal, db) := by
  simp only [run, action?_of_asked? h, hperform]

theorem run_of_unchanged (h : asked? name payload = some action) {reply : Reply}
    (hperform : action.perform s db = .ok (reply, db)) : (run s db name payload).2 = db := by
  simp only [run, action?_of_asked? h, hperform]
  split <;> rfl

theorem run_succeeded (h : asked? name payload = some action) {code : Nat}
    (hcode : (Web.answerCommand (run s db name payload).1).status? = some code) (hlt : code < 400) :
    ∃ reply, action.perform s db = .ok (reply, (run s db name payload).2) := by
  simp only [run, action?_of_asked? h] at hcode ⊢
  split at hcode
  · next refusal _ =>
    cases hcode
    exact absurd hlt (Nat.not_lt.mpr refusal.kind.le_status)
  · cases hcode
    exact absurd hlt (by decide)
  · cases hcode
  · next reply after hperform =>
    split at hcode
    · next data hdata => exact ⟨reply, hperform⟩
    · cases hcode
      exact absurd hlt (by decide)
    · cases hcode

theorem run_failed (h : asked? name payload = some action) {code : Nat}
    (hcode : (Web.answerCommand (run s db name payload).1).status? = some code)
    (hle : 400 ≤ code) :
    (∃ refusal, action.perform s db = .error (.refused refusal) ∧ code = refusal.kind.status) ∨
      action.FindsIssues s db := by
  simp only [run, action?_of_asked? h] at hcode
  split at hcode
  · next refusal hperform =>
    cases hcode
    exact Or.inl ⟨refusal, hperform, rfl⟩
  · next issues hperform => exact Or.inr (Or.inl ⟨issues, hperform⟩)
  · cases hcode
  · next reply after hperform =>
    split at hcode
    · cases hcode
      exact absurd hle (by decide)
    · next issues hissues => exact Or.inr (Or.inr ⟨reply, after, issues, hperform, hissues⟩)
    · cases hcode

end

end Command

namespace Web

theorem status_lt_of_task {r : Request} {endpoint : Endpoint} {status : Nat} {action : Action}
    (h : task r endpoint = .ok (.action status action)) : status < 400 := by
  cases endpoint with
  | listActiveEvents | listUserGrants | expireGrants =>
    cases h
    decide
  | listMyParticipations | listMyRequests | listMyGrants =>
    simp only [task] at h
    obtain ⟨caller, h⟩ := asCaller_eq_ok h
    cases h
    decide
  | createEvent | patchEvent | createReward | patchReward | createParticipation | createRequest
  | patchRequest | cancelRequest | useGrant =>
    obtain ⟨caller, h⟩ := asCaller_eq_ok h
    obtain ⟨_, -, heq⟩ := Checked.map_eq_ok_iff.mp h
    cases heq
    decide
  | listEvents | getEvent | listEventRewards | listEventParticipations | getStatistics | getReward
  | listRequests | getRequest | listRequestGrants | listLogs =>
    obtain ⟨_, -, heq⟩ := Checked.map_eq_ok_iff.mp (asAnyone_eq_ok h)
    cases heq
    decide
  | command =>
    obtain ⟨_, -, heq⟩ := Checked.map_eq_ok_iff.mp (asAnyone_eq_ok h)
    cases heq

section
variable {s : Session} {db : Database} {r : Request} {action : Action}

theorem handle_of_asked? (s : Session) (db : Database) (h : asked? r = some action) :
    (∃ status < 400, handle s db r = answerAction s db status action) ∨
      ∃ name payload, Command.asked? name payload = some action ∧
        handle s db r =
          (answerCommand (Command.run s db name payload).1,
            (Command.run s db name payload).2) := by
  cases hendpoint : Endpoint.find r.method r.path with
  | error fault =>
    simp only [asked?, hendpoint] at h
    cases h
  | ok endpoint =>
    cases htask : task r endpoint with
    | error answer =>
      simp only [asked?, hendpoint, htask] at h
      cases h
    | ok task =>
      cases task with
      | action status found =>
        simp only [asked?, hendpoint, htask] at h
        cases Option.some.inj h
        exact Or.inl ⟨status, status_lt_of_task htask, by simp only [handle, hendpoint, htask]⟩
      | command name payload =>
        simp only [asked?, hendpoint, htask] at h
        exact Or.inr ⟨name, payload, h, by simp only [handle, hendpoint, htask]⟩

theorem answerAction_of_refused {status : Nat} {refusal : Refusal}
    (hperform : action.perform s db = .error (.refused refusal)) :
    answerAction s db status action = (failure refusal.kind.status refusal.message, db) := by
  simp only [answerAction, hperform]

theorem answerAction_of_unchanged {status : Nat} {reply : Reply}
    (hperform : action.perform s db = .ok (reply, db)) :
    (answerAction s db status action).2 = db := by
  simp only [answerAction, hperform]
  split <;> rfl

theorem answerAction_succeeded {status code : Nat}
    (hcode : (answerAction s db status action).1.status? = some code) (hlt : code < 400) :
    ∃ reply, action.perform s db = .ok (reply, (answerAction s db status action).2) := by
  unfold answerAction at hcode ⊢
  split at hcode
  · next refusal _ =>
    cases hcode
    exact absurd hlt (Nat.not_lt.mpr refusal.kind.le_status)
  · cases hcode
  · next reply after hperform =>
    refine ⟨reply, ?_⟩
    rw [hperform]
    split <;> rfl

theorem answerAction_failed {status code : Nat} (hstatus : status < 400)
    (hcode : (answerAction s db status action).1.status? = some code) (hle : 400 ≤ code) :
    ∃ refusal, action.perform s db = .error (.refused refusal) ∧ code = refusal.kind.status := by
  unfold answerAction at hcode
  split at hcode
  · next refusal hperform =>
    cases hcode
    exact ⟨refusal, hperform, rfl⟩
  · cases hcode
  · split at hcode
    · cases hcode
      exact absurd hle (Nat.not_le.mpr hstatus)
    · cases hcode
    · cases hcode
    · cases hcode

end

end Web

namespace Moment

theorem perform_of_asked?_run {s : Session} {works : Bool} {action : Action}
    (h : asked? ⟨s, .run works⟩ = some action) (db : Database) :
    ∃ outcome, action.perform (acting ⟨s, .run works⟩) db = .ok outcome := by
  simp only [asked?] at h
  split at h
  · cases Option.some.inj h
    exact ⟨_, rfl⟩
  · cases h

/-- **A refused action** is answered with the status of its refusal and changes nothing. -/
theorem refused {m : Moment} {db : Database} {action : Action} (h : m.asked? = some action)
    {refusal : Refusal} (hperform : action.perform m.acting db = .error (.refused refusal)) :
    m.after db = db ∧ m.status? db = some refusal.kind.status := by
  obtain ⟨s, step⟩ := m
  cases step with
  | request r =>
    replace hperform : action.perform s db = .error (.refused refusal) := hperform
    simp only [after, status?]
    rcases Web.handle_of_asked? s db h with
      ⟨status, -, heq⟩ | ⟨name, payload, hasked, heq⟩
    · rw [heq, Web.answerAction_of_refused hperform]
      exact ⟨rfl, rfl⟩
    · rw [heq, Command.run_of_refused hasked hperform]
      exact ⟨rfl, rfl⟩
  | command name payload =>
    replace hperform : action.perform s db = .error (.refused refusal) := hperform
    simp only [after, status?]
    rw [Command.run_of_refused h hperform]
    exact ⟨rfl, rfl⟩
  | run works =>
    obtain ⟨outcome, hok⟩ := perform_of_asked?_run h db
    rw [hok] at hperform
    cases hperform
  | call found =>
    cases Option.some.inj h
    replace hperform : action.perform s db = .error (.refused refusal) := hperform
    simp only [after, status?, hperform, and_self]

/-- **A success** tells that the action took place. -/
theorem succeeded {m : Moment} {db : Database} {action : Action} (h : m.asked? = some action)
    {code : Nat} (hcode : m.status? db = some code) (hlt : code < 400) :
    ∃ reply, action.perform m.acting db = .ok (reply, m.after db) := by
  obtain ⟨s, step⟩ := m
  cases step with
  | request r =>
    simp only [status?] at hcode
    simp only [after]
    rcases Web.handle_of_asked? s db h with ⟨status, -, heq⟩ | ⟨name, payload, hasked, heq⟩
    · rw [heq] at hcode ⊢
      exact Web.answerAction_succeeded hcode hlt
    · rw [heq] at hcode ⊢
      exact Command.run_succeeded hasked hcode hlt
  | command name payload => exact Command.run_succeeded h hcode hlt
  | run works => cases hcode
  | call found =>
    simp only [status?] at hcode
    split at hcode
    · next refusal _ =>
      cases hcode
      exact absurd hlt (Nat.not_lt.mpr refusal.kind.le_status)
    · cases hcode

/-- **Any other status** tells that the action is refused, or that a command finds issues. -/
theorem failed {m : Moment} {db : Database} {action : Action} (h : m.asked? = some action)
    {code : Nat} (hcode : m.status? db = some code) (hle : 400 ≤ code) :
    (∃ refusal, action.perform m.acting db = .error (.refused refusal) ∧
      code = refusal.kind.status) ∨ action.FindsIssues m.acting db := by
  obtain ⟨s, step⟩ := m
  cases step with
  | request r =>
    simp only [status?] at hcode
    rcases Web.handle_of_asked? s db h with ⟨status, hstatus, heq⟩ | ⟨name, payload, hasked, heq⟩
    · rw [heq] at hcode
      exact Or.inl (Web.answerAction_failed hstatus hcode hle)
    · rw [heq] at hcode
      exact Command.run_failed hasked hcode hle
  | command name payload => exact Command.run_failed h hcode hle
  | run works => cases hcode
  | call found =>
    cases Option.some.inj h
    simp only [status?] at hcode
    split at hcode
    · next refusal hperform =>
      cases hcode
      exact Or.inl ⟨refusal, hperform, rfl⟩
    · cases hcode

/-- **An action that writes nothing** leaves the whole database as it was. -/
theorem unchanged {m : Moment} {db : Database} {action : Action} (h : m.asked? = some action)
    {reply : Reply} (hperform : action.perform m.acting db = .ok (reply, db)) :
    m.after db = db := by
  obtain ⟨s, step⟩ := m
  cases step with
  | request r =>
    replace hperform : action.perform s db = .ok (reply, db) := hperform
    simp only [after]
    rcases Web.handle_of_asked? s db h with
      ⟨status, -, heq⟩ | ⟨name, payload, hasked, heq⟩
    · rw [heq]
      exact Web.answerAction_of_unchanged hperform
    · rw [heq]
      exact Command.run_of_unchanged hasked hperform
  | command name payload => exact Command.run_of_unchanged h hperform
  | run works =>
    simp only [asked?] at h
    split at h
    · next hworks =>
      cases Option.some.inj h
      simp only [after, Scheduler.runOnce, hworks, if_true]
      split
      · next hran =>
        rw [show acting ⟨s, .run works⟩ = { clock := s.clock } from rfl] at hperform
        rw [hperform] at hran
        cases hran
        rfl
      · rfl
    · cases h
  | call found =>
    cases Option.some.inj h
    replace hperform : action.perform s db = .ok (reply, db) := hperform
    simp only [after, hperform]

end Moment

end Promotions
