import Mathlib.Data.List.Induction
import Promotions.Scheduler
import Promotions.Proofs.Asking
import Promotions.Proofs.Changes

/-!
# Runs

A run is a list of moments. At each `Moment` one `Step` is taken, under the clock and in the
surroundings of a session: a web request, a command, a run of the scheduler, or the call of an
operation by itself. `Database.after` is the database that a run leads to.

A moment either leaves the database as it is or writes what the action writes that it asks for
(`Moment.after_eq_or_writes`), and what it asks for is public unless it is a call. So what every
change keeps holds after every run (`Database.keeps_after`, and `Database.keeps_until` where the
clock matters). What the scheduler does over time is a run, too (`Scheduler.exists_run_of_start`).
-/

namespace Promotions

/-- One thing that may happen. -/
inductive Step where
  /-- A web request is answered. -/
  | request (r : Web.Request)
  /-- A command is carried out, without a web request around it. -/
  | command (name : String) (payload : List (String × Json))
  /-- The scheduler makes a run, while the store works or does not. -/
  | run (works : Bool)
  /-- An operation is called, without a form around it. -/
  | call (action : Action)

/-- A step and its surroundings. -/
structure Moment where
  session : Session
  step : Step

namespace Moment

/-- The database after a moment. -/
def after (m : Moment) (db : Database) : Database :=
  match m.step with
  | .request r => (Web.handle m.session db r).2
  | .command name payload => (Command.run m.session db name payload).2
  | .run works => (Scheduler.runOnce works db m.session.clock).2
  | .call action =>
    match action.perform m.session db with
    | .ok (_, after) => after
    | .error _ => db

theorem after_call_eq_self {s : Session} {action : Action} {db : Database} {failure : Failure}
    (h : action.perform s db = .error failure) : (⟨s, .call action⟩ : Moment).after db = db := by
  unfold after
  dsimp only
  rw [h]

/-- The action that a moment asks for. -/
def asked? (m : Moment) : Option Action :=
  match m.step with
  | .request r => Web.asked? r
  | .command name payload => Command.asked? name payload
  | .run works => if works then some (.expireGrants (some m.session.clock)) else none
  | .call action => some action

/-- The session in which a moment acts; the scheduler has only the clock of its own. -/
def acting (m : Moment) : Session :=
  match m.step with
  | .run _ => { clock := m.session.clock }
  | _ => m.session

theorem clock_acting (m : Moment) : m.acting.clock = m.session.clock := by
  unfold acting
  split <;> rfl

/-- An operation that is called by itself is called only as a condition says. -/
def CallsOnly (P : Action → Prop) (m : Moment) : Prop := ∀ action, m.step = .call action → P action

@[simp]
theorem callsOnly_call {P : Action → Prop} {s : Session} {action : Action} :
    CallsOnly P ⟨s, .call action⟩ ↔ P action := by
  constructor
  · intro h
    exact h action rfl
  · intro h found hfound
    cases hfound
    exact h

end Moment

/-- The database after a run. -/
def Database.after (db : Database) (ms : List Moment) : Database :=
  ms.foldl (fun db m => m.after db) db

namespace Database

@[simp]
theorem after_nil (db : Database) : db.after [] = db := rfl

@[simp]
theorem after_cons (db : Database) (m : Moment) (ms : List Moment) :
    db.after (m :: ms) = (m.after db).after ms := rfl

@[simp]
theorem after_append (db : Database) (ms ms' : List Moment) :
    db.after (ms ++ ms') = (db.after ms).after ms' := List.foldl_append

end Database

/-! ### What a moment writes -/

theorem Command.run_eq_or_writes (s : Session) (db : Database) (name : String)
    (payload : List (String × Json)) :
    (Command.run s db name payload).2 = db ∨ ∃ action,
      Command.asked? name payload = some action ∧
        action.Writes s db (Command.run s db name payload).2 := by
  unfold Command.run
  split
  · exact Or.inl rfl
  · exact Or.inl rfl
  · next action haction =>
    have hasked : Command.asked? name payload = some action := by
      simp only [Command.asked?, haction]
    split
    · exact Or.inl rfl
    · exact Or.inl rfl
    · exact Or.inl rfl
    · next hperform =>
      have hwrites := Action.perform_eq_ok hperform
      split
      · exact Or.inr ⟨action, hasked, hwrites⟩
      · exact Or.inl rfl
      · exact Or.inr ⟨action, hasked, hwrites⟩

theorem Web.answerAction_eq_or_writes (s : Session) (db : Database) (status : Nat)
    (action : Action) :
    (Web.answerAction s db status action).2 = db ∨
      action.Writes s db (Web.answerAction s db status action).2 := by
  unfold Web.answerAction
  split
  · exact Or.inl rfl
  · exact Or.inl rfl
  · next hperform =>
    refine Or.inr ?_
    have hwrites := Action.perform_eq_ok hperform
    split <;> exact hwrites

theorem Web.handle_eq_or_writes (s : Session) (db : Database) (r : Web.Request) :
    (Web.handle s db r).2 = db ∨ ∃ action,
      Web.asked? r = some action ∧ action.Writes s db (Web.handle s db r).2 := by
  cases hendpoint : Endpoint.find r.method r.path with
  | error fault =>
    refine Or.inl ?_
    simp only [Web.handle, hendpoint]
  | ok endpoint =>
    cases htask : Web.task r endpoint with
    | error answer =>
      refine Or.inl ?_
      simp only [Web.handle, hendpoint, htask]
    | ok task =>
      cases task with
      | action status action =>
        simp only [Web.handle, Web.asked?, hendpoint, htask]
        rcases Web.answerAction_eq_or_writes s db status action with heq | hwrites
        · exact Or.inl heq
        · exact Or.inr ⟨action, rfl, hwrites⟩
      | command name payload =>
        simp only [Web.handle, Web.asked?, hendpoint, htask]
        exact Command.run_eq_or_writes s db name payload

theorem Scheduler.runOnce_eq_or_writes (works : Bool) (db : Database) (now : Instant) :
    (Scheduler.runOnce works db now).2 = db ∨ works = true ∧
      (Action.expireGrants (some now)).Writes { clock := now } db
        (Scheduler.runOnce works db now).2 := by
  unfold Scheduler.runOnce
  split
  · next hworks =>
    split
    · next hperform => exact Or.inr ⟨hworks, Action.perform_eq_ok hperform⟩
    · exact Or.inl rfl
  · exact Or.inl rfl

namespace Moment

/-- **What a moment does**: nothing, or what the action writes that it asks for. -/
theorem after_eq_or_writes (m : Moment) (db : Database) :
    m.after db = db ∨ ∃ action, m.asked? = some action ∧
      action.Writes m.acting db (m.after db) := by
  obtain ⟨s, step⟩ := m
  cases step with
  | request r => exact Web.handle_eq_or_writes s db r
  | command name payload => exact Command.run_eq_or_writes s db name payload
  | run works =>
    rcases Scheduler.runOnce_eq_or_writes works db s.clock with heq | ⟨rfl, hwrites⟩
    · exact Or.inl heq
    · exact Or.inr ⟨_, rfl, hwrites⟩
  | call action =>
    simp only [after]
    split
    · next hperform => exact Or.inr ⟨action, rfl, Action.perform_eq_ok hperform⟩
    · exact Or.inl rfl

theorem isAsked_or_call {m : Moment} {action : Action} (h : m.asked? = some action) :
    action.IsAsked ∨ m.step = .call action := by
  obtain ⟨s, step⟩ := m
  cases step with
  | request r => exact Or.inl (Or.inl ⟨r, h⟩)
  | command name payload => exact Or.inl (Or.inr (Or.inl ⟨name, payload, h⟩))
  | run works =>
    simp only [asked?] at h
    split at h
    · cases Option.some.inj h
      exact Or.inl (Or.inr (Or.inr ⟨_, rfl⟩))
    · cases h
  | call found =>
    cases Option.some.inj h
    exact Or.inr rfl

theorem asked?_satisfies {P : Action → Prop} (hpublic : ∀ action : Action, action.IsPublic → P action)
    {m : Moment} (hm : m.CallsOnly P) {action : Action} (h : m.asked? = some action) : P action := by
  rcases isAsked_or_call h with hasked | hcall
  · exact hpublic action hasked.isPublic
  · exact hm action hcall

/-- **A moment changes the books** as an action does that satisfies the condition on calls. -/
theorem books_eq_or_change {P : Action → Prop}
    (hpublic : ∀ action : Action, action.IsPublic → P action) {m : Moment} (hm : m.CallsOnly P)
    (db : Database) :
    (m.after db).books = db.books ∨ ∃ action notes, m.asked? = some action ∧ P action ∧
      Change m.acting db.books action (m.after db).books notes := by
  rcases m.after_eq_or_writes db with heq | ⟨action, hasked, notes, hchange, -⟩
  · exact Or.inl (by rw [heq])
  · exact Or.inr ⟨action, notes, hasked, asked?_satisfies hpublic hm hasked, hchange⟩

end Moment

/-! ### What holds after every run -/

namespace Database

/-- **What every action keeps that a run can ask for** holds after the run. It may speak of the
journal, and depend on what the sessions of the run are like. -/
theorem keeps_writes {P : Action → Prop} {Q : Session → Prop}
    (hasked : ∀ action : Action, action.IsAsked → P action) {I : Database → Prop}
    (hstep : ∀ {s db action after}, P action → Q s → I db → action.Writes s db after → I after)
    {db : Database} (hdb : I db) {ms : List Moment}
    (hms : ∀ m ∈ ms, m.CallsOnly P ∧ Q m.acting) : I (db.after ms) := by
  induction ms generalizing db with
  | nil => exact hdb
  | cons m ms ih =>
    obtain ⟨⟨hm, hQ⟩, hms⟩ := List.forall_mem_cons.mp hms
    suffices hafter : I (m.after db) from ih hafter hms
    rcases m.after_eq_or_writes db with heq | ⟨action, haction, hwrites⟩
    · rwa [heq]
    · refine hstep ?_ hQ hdb hwrites
      rcases Moment.isAsked_or_call haction with h | hcall
      · exact hasked action h
      · exact hm action hcall

section Runs
variable {P : Action → Prop} (hpublic : ∀ action : Action, action.IsPublic → P action)
include hpublic

/-- **What every change keeps** holds after every run that begins where it holds. -/
theorem keeps_after {I : Books → Prop}
    (hstep : ∀ {s books action after notes}, P action → I books →
      Change s books action after notes → I after)
    {db : Database} (hdb : I db.books) {ms : List Moment} (hms : ∀ m ∈ ms, m.CallsOnly P) :
    I (db.after ms).books := by
  refine keeps_writes (Q := fun _ => True) (I := fun db => I db.books)
    (fun action hasked => hpublic action hasked.isPublic) ?_ hdb fun m hm => ⟨hms m hm, trivial⟩
  rintro s db action after hP - hdb ⟨notes, hchange, -⟩
  exact hstep hP hdb hchange

/-- The same under a clock that never goes back: what holds of the books may speak of a time that
has come. -/
theorem keeps_until {I : Instant → Books → Prop}
    (hmono : ∀ {t t' books}, t ≤ t' → I t books → I t' books)
    (hstep : ∀ {s : Session} {books action after notes}, P action → I s.clock books →
      Change s books action after notes → I s.clock after)
    {db : Database} (hdb : ∀ t, I t db.books) {ms : List Moment}
    (hms : ∀ m ∈ ms, m.CallsOnly P)
    (hclock : ms.Pairwise fun m m' => m.session.clock ≤ m'.session.clock) {t : Instant}
    (ht : ∀ m ∈ ms, m.session.clock ≤ t) : I t (db.after ms).books := by
  induction ms using List.reverseRecOn generalizing t with
  | nil => exact hdb t
  | append_singleton ms m ih =>
    obtain ⟨hfirst, -, hlast⟩ := List.pairwise_append.mp hclock
    have hms' : ∀ m' ∈ ms, m'.CallsOnly P := fun m' hm' => hms m' (by simp [hm'])
    have hbefore : I m.session.clock (db.after ms).books :=
      ih hms' hfirst fun m' hm' => hlast m' hm' m (by simp)
    refine hmono (ht m (by simp)) ?_
    rw [after_append]
    rcases m.books_eq_or_change hpublic (hms m (by simp)) (db.after ms) with
      heq | ⟨action, notes, -, hP, hchange⟩
    · simp only [after_cons, after_nil]
      rwa [heq]
    · rw [← m.clock_acting] at hbefore ⊢
      exact hstep hP hbefore hchange

theorem exists_keeps_until {I : Instant → Books → Prop}
    (hmono : ∀ {t t' books}, t ≤ t' → I t books → I t' books)
    (hstep : ∀ {s : Session} {books action after notes}, P action → I s.clock books →
      Change s books action after notes → I s.clock after)
    {db : Database} (hdb : ∀ t, I t db.books) {ms : List Moment}
    (hms : ∀ m ∈ ms, m.CallsOnly P)
    (hclock : ms.Pairwise fun m m' => m.session.clock ≤ m'.session.clock) :
    ∃ t, I t (db.after ms).books := by
  rcases List.eq_nil_or_concat ms with rfl | ⟨first, m, rfl⟩
  · exact ⟨Instant.first, hdb _⟩
  · refine ⟨m.session.clock, keeps_until (I := I) hpublic hmono hstep hdb hms hclock ?_⟩
    intro m' hm'
    rw [List.concat_eq_append] at hclock hm'
    rcases List.mem_append.mp hm' with hm' | hm'
    · exact (List.pairwise_append.mp hclock).2.2 m' hm' m (by simp)
    · rw [List.mem_singleton.mp hm']
      exact Instant.le_refl _

end Runs

/-- **A database that a run leads to** which begins without rows, and in which operations are called
by themselves only as a condition says. -/
def Reachable (P : Action → Prop) (db : Database) : Prop :=
  ∃ ms : List Moment, (∀ m ∈ ms, m.CallsOnly P) ∧ db = empty.after ms

theorem Reachable.after {P : Action → Prop} {db : Database} (h : db.Reachable P)
    (ms : List Moment) (hms : ∀ m ∈ ms, m.CallsOnly P) : (db.after ms).Reachable P := by
  obtain ⟨before, hbefore, rfl⟩ := h
  refine ⟨before ++ ms, fun m hm => ?_, (after_append _ _ _).symm⟩
  rcases List.mem_append.mp hm with hm | hm
  · exact hbefore m hm
  · exact hms m hm

theorem Reachable.mono {P Q : Action → Prop} (hPQ : ∀ action, P action → Q action) {db : Database}
    (h : db.Reachable P) : db.Reachable Q := by
  obtain ⟨ms, hms, rfl⟩ := h
  exact ⟨ms, fun m hm action hstep => hPQ action (hms m hm action hstep), rfl⟩

theorem Reachable.keeps {P : Action → Prop}
    (hpublic : ∀ action : Action, action.IsPublic → P action) {I : Books → Prop} (hempty : I {})
    (hstep : ∀ {s books action after notes}, P action → I books →
      Change s books action after notes → I after)
    {db : Database} (h : db.Reachable P) : I db.books := by
  obtain ⟨ms, hms, rfl⟩ := h
  exact keeps_after hpublic hstep hempty hms

end Database

/-! ### A short run -/

/-- A run that makes an event and one piece of a reward of it, for which a user then asks. -/
def pendingRun : List Moment :=
  let event : EventDraft :=
    { title := "Spring", description := "", startDate := ⟨⟨0⟩, none⟩, endDate := ⟨⟨9000000⟩, none⟩
      status := .active, conditionType := .attendance, conditionValue := .empty
      autoReward := false, allowMultiple := false, maxParticipants := none }
  let reward : RewardDraft :=
    { eventId := ({} : Table Event).nextId, name := "Badge", description := none, type := .badge
      value := "gold", metadata := none, totalQuantity := 1, expiryDate := none }
  [⟨{ clock := ⟨1000000⟩ }, .call (.createEvent event "admin")⟩,
    ⟨{ clock := ⟨2000000⟩ }, .call (.createReward reward "admin")⟩,
    ⟨{ clock := ⟨3000000⟩ }, .call (.createRequest ({} : Table Event).nextId
      [.known ({} : Table Reward).nextId] "ann" .empty none none)⟩]

/-- The request of `pendingRun` is approved. -/
def approval : Moment :=
  ⟨{ clock := ⟨4000000⟩ },
    .call (.transition ({} : Table RewardRequest).nextId .approved (some "admin") none none)⟩

/-! ### The scheduler over time -/

namespace Scheduler

theorem exists_run_of_turn (plan : SchedulerPlan) (works : Bool) (clock next : Instant)
    (db : Database) :
    ∃ ms : List Moment, (∀ m ∈ ms, ∃ works, m.step = .run works) ∧
      (turn plan works clock next db).db = db.after ms := by
  unfold turn
  split
  · exact ⟨[], by simp, rfl⟩
  · exact ⟨[⟨{ clock }, .run works⟩], by simp, rfl⟩

theorem exists_run_of_follow (plan : SchedulerPlan) (world : Surroundings) (turns : Nat)
    (clock next : Instant) (db : Database) :
    ∃ ms : List Moment, (∀ m ∈ ms, ∃ works, m.step = .run works) ∧
      (follow plan world turns clock next db).db = db.after ms := by
  induction turns generalizing clock next db with
  | zero =>
    obtain ⟨ms, hms, hdb⟩ := exists_run_of_turn plan (world.works clock) clock next db
    refine ⟨ms, hms, ?_⟩
    rw [follow]
    dsimp only
    split <;> exact hdb
  | succ turns ih =>
    obtain ⟨ms, hms, hdb⟩ := exists_run_of_turn plan (world.works clock) clock next db
    rw [follow]
    dsimp only
    split
    · exact ⟨ms, hms, hdb⟩
    · next later _ =>
      let wake := if clock < later then
          clock.later (sleepSeconds plan clock later * Instant.second + world.oversleep clock)
        else clock
      obtain ⟨ms', hms', hdb'⟩ := ih wake later (turn plan (world.works clock) clock next db).db
      refine ⟨ms ++ ms', ?_, ?_⟩
      · intro m hm
        rcases List.mem_append.mp hm with hm | hm
        · exact hms m hm
        · exact hms' m hm
      · rw [Database.after_append, ← hdb]
        exact hdb'

/-- **What the scheduler does over time** is a run of its single runs. -/
theorem exists_run_of_start (plan : SchedulerPlan) (world : Surroundings) (sleeps : Nat)
    (clock : Instant) (db : Database) :
    ∃ ms : List Moment, (∀ m ∈ ms, ∃ works, m.step = .run works) ∧
      (start plan world sleeps clock db).db = db.after ms := by
  unfold start
  split
  · exact ⟨[], by simp, rfl⟩
  · exact exists_run_of_follow plan world sleeps clock _ db

end Scheduler

end Promotions
