import Mathlib.Data.List.Chain
import Promotions.Scheduler
import Promotions.Proofs.Timetables

/-!
# Every slot is served once

The scheduler sleeps in whole seconds, while the clock counts microseconds and each next run is
worked out from the time of a run and not from the slot that the run serves. Still, if sleeps take
as long as they should, every due instant is served once, within its second: the last sleep before
it ends less than a second after it (`Awaits.wake`), and a base within the second of a due instant
has the same next run as that instant (`Cron.isNextAfter_of_nextRun_in`). `Awaits` is what a turn
finds, `Rests` what it leaves, and both are carried along a `Trail`, which says what the scheduler
does from one sleep to the next. However long sleeps take, the times of runs only increase, and a
due instant lies before each of them that none before has served.
-/

namespace Promotions

namespace SchedulerEvent

/-- The time of a run, whether it succeeds or not. -/
def runTime? : SchedulerEvent → Option Instant
  | ran _ now | failed now => some now
  | started _ | sleeping _ _ => none

/-- The record tells of a sleep. -/
def isSleep : SchedulerEvent → Bool
  | sleeping _ _ => true
  | started _ | ran _ _ | failed _ => false

/-- The record as it is if runs fail. -/
def failing : SchedulerEvent → SchedulerEvent
  | ran _ now => failed now
  | event => event

/-- The time after a record: a sleep takes its time. -/
def clockAfter (world : Surroundings) (clock : Instant) : SchedulerEvent → Instant
  | sleeping seconds _ => clock.later (seconds * Instant.second + world.oversleep clock)
  | started _ | ran _ _ | failed _ => clock

/-- **A record is made in time**: a run at its own time, and a sleep within the limits of the plan,
before the next run is due. -/
def IsMadeAt (plan : SchedulerPlan) (cron : Cron) (t : Instant) : SchedulerEvent → Prop
  | started _ => True
  | sleeping seconds next => 1 ≤ seconds ∧ seconds ≤ plan.maxSleep ∧ t < next ∧ cron.IsDue next
  | ran _ now | failed now => now = t

end SchedulerEvent

open SchedulerEvent

namespace SchedulerState

/-- The times of the runs. -/
def runTimes (state : SchedulerState) : List Instant := state.trace.filterMap runTime?

/-- The number of sleeps. -/
def sleepCount (state : SchedulerState) : Nat := state.trace.countP isSleep

end SchedulerState

namespace Scheduler

/-- The records of a trace with the times at which they are made. -/
def timeline (world : Surroundings) : Instant → List SchedulerEvent → List (Instant × SchedulerEvent)
  | _, [] => []
  | clock, event :: rest => (clock, event) :: timeline world (event.clockAfter world clock) rest

/-! ### Trails -/

/-- **A turn that goes on**: it waits for the next run, or makes it and finds the one after it. -/
inductive Turns (plan : SchedulerPlan) (clock next : Instant) :
    List SchedulerEvent → Instant → Prop
  | waits (hearly : clock < next) : Turns plan clock next [] next
  | runs {event : SchedulerEvent} {later : Instant} (hdue : next ≤ clock)
      (hrun : event.runTime? = some clock)
      (hlater : nextRun clock plan.cron plan.zone = .ok later) : Turns plan clock next [event] later

/-- The time at which the scheduler wakes that goes to sleep until a run. -/
def wake (plan : SchedulerPlan) (world : Surroundings) (clock later : Instant) : Instant :=
  clock.later (sleepSeconds plan clock later * Instant.second + world.oversleep clock)

/-- The record of the sleep until a run. -/
def sleepUntil (plan : SchedulerPlan) (clock later : Instant) : SchedulerEvent :=
  .sleeping (sleepSeconds plan clock later) later

/-- **What the scheduler does** in a number of sleeps, from a clock and the time of a next
run on. -/
inductive Trail (plan : SchedulerPlan) (world : Surroundings) :
    Nat → Instant → Instant → SchedulerState → Prop
  | stopped {sleeps : Nat} {clock next : Instant} {db : Database} {event : SchedulerEvent}
      {fault : TimetableFault} (hdue : next ≤ clock) (hrun : event.runTime? = some clock)
      (hfault : nextRun clock plan.cron plan.zone = .error fault) :
      Trail plan world sleeps clock next { clock, db, trace := [event], fault := some fault }
  | rests {clock next later : Instant} {db : Database} {ran : List SchedulerEvent}
      (hturn : Turns plan clock next ran later) :
      Trail plan world 0 clock next
        { clock, db, trace := ran ++ [sleepUntil plan clock later] }
  | sleeps {sleeps : Nat} {clock next later : Instant} {ran : List SchedulerEvent}
      {state : SchedulerState} (hturn : Turns plan clock next ran later)
      (hrest : Trail plan world sleeps (wake plan world clock later) later state) :
      Trail plan world (sleeps + 1) clock next
        (state.after (ran ++ [sleepUntil plan clock later]))

theorem runTime?_runOnce (works : Bool) (db : Database) (now : Instant) :
    (runOnce works db now).1.runTime? = some now := by
  unfold runOnce
  split
  · split <;> rfl
  · rfl

theorem turn_cases (plan : SchedulerPlan) (works : Bool) (clock next : Instant) (db : Database) :
    let done := turn plan works clock next db
    (∃ later, done.next = .ok later ∧ Turns plan clock next done.ran later) ∨
      ∃ fault event, done.next = .error fault ∧ done.ran = [event] ∧
        event.runTime? = some clock ∧ next ≤ clock ∧
        nextRun clock plan.cron plan.zone = .error fault := by
  intro done
  by_cases hearly : clock < next
  · have hdone : done = { ran := [], db, next := .ok next } := if_pos hearly
    rw [hdone]
    exact .inl ⟨next, rfl, .waits hearly⟩
  · have hdone : done = ⟨[(runOnce works db clock).1], (runOnce works db clock).2,
        nextRun clock plan.cron plan.zone⟩ := if_neg hearly
    have hdue : next ≤ clock := Int.not_lt.mp hearly
    have hrun := runTime?_runOnce works db clock
    rw [hdone]
    cases hnext : nextRun clock plan.cron plan.zone with
    | ok later => exact .inl ⟨later, rfl, .runs hdue hrun hnext⟩
    | error fault => exact .inr ⟨fault, _, rfl, rfl, hrun, hdue, rfl⟩

/-- **After a turn the next run is still to come**: the scheduler never makes two runs in a row. -/
theorem Turns.lt {plan : SchedulerPlan} {cron : Cron} {clock next later : Instant}
    {ran : List SchedulerEvent} (hcron : Cron.read? plan.cron = some cron)
    (hzone : Zone.find? plan.zone = some .utc) (h : Turns plan clock next ran later) :
    clock < later := by
  cases h with
  | waits hearly => exact hearly
  | runs hdue hrun hlater => exact Cron.lt_of_nextRun hcron hzone hlater

/-- **Following the scheduler** leaves a trail: each of its turns ends in a sleep. -/
theorem trail_follow (plan : SchedulerPlan) (world : Surroundings) (sleeps : Nat)
    (clock next : Instant) (db : Database) {cron : Cron} (hcron : Cron.read? plan.cron = some cron)
    (hzone : Zone.find? plan.zone = some .utc) :
    Trail plan world sleeps clock next (follow plan world sleeps clock next db) := by
  induction sleeps generalizing clock next db with
  | zero =>
    rw [follow]
    rcases turn_cases plan (world.works clock) clock next db with
      ⟨later, hnext, hturn⟩ | ⟨fault, event, hnext, hran, hrun, hdue, hfault⟩
    · simp only [hnext, if_pos (hturn.lt hcron hzone)]
      exact .rests hturn
    · simp only [hnext, hran]
      exact .stopped hdue hrun hfault
  | succ sleeps ih =>
    rw [follow]
    rcases turn_cases plan (world.works clock) clock next db with
      ⟨later, hnext, hturn⟩ | ⟨fault, event, hnext, hran, hrun, hdue, hfault⟩
    · simp only [hnext, if_pos (hturn.lt hcron hzone)]
      exact .sleeps hturn (ih _ _ _)
    · simp only [hnext, hran]
      exact .stopped hdue hrun hfault

section Records
variable {plan : SchedulerPlan} {world : Surroundings} {sleeps : Nat} {clock next later : Instant}
  {ran : List SchedulerEvent} {state : SchedulerState}

/-! ### What a trail records -/

@[simp] theorem runTimes_after (state : SchedulerState) (events : List SchedulerEvent) :
    (state.after events).runTimes = events.filterMap runTime? ++ state.runTimes :=
  List.filterMap_append

@[simp] theorem sleepCount_after (state : SchedulerState) (events : List SchedulerEvent) :
    (state.after events).sleepCount = events.countP isSleep + state.sleepCount :=
  List.countP_append

theorem eq_of_runTime? {event : SchedulerEvent} {t : Instant} (h : event.runTime? = some t) :
    (∃ n, event = .ran n t) ∨ event = .failed t := by
  cases event with
  | ran n now => exact .inl ⟨n, by rw [Option.some.inj h]⟩
  | failed now => exact .inr (by rw [Option.some.inj h])
  | started | sleeping => cases h

theorem failing_of_runTime? {event : SchedulerEvent} {t : Instant} (h : event.runTime? = some t) :
    event.failing = .failed t := by
  rcases eq_of_runTime? h with ⟨n, rfl⟩ | rfl <;> rfl

theorem Turns.countP_isSleep (h : Turns plan clock next ran later) :
    (ran ++ [sleepUntil plan clock later]).countP isSleep = 1 := by
  cases h with
  | waits => rfl
  | runs hdue hrun hlater => rcases eq_of_runTime? hrun with ⟨n, rfl⟩ | rfl <;> rfl

/-- **A trail is over** with its last sleep, if no run before finds that there is no next one. -/
theorem Trail.ends (h : Trail plan world sleeps clock next state) :
    (∀ fault, state.fault = some fault →
      nextRun state.clock plan.cron plan.zone = .error fault) ∧
    (state.fault = none → state.sleepCount = sleeps + 1) := by
  induction h with
  | stopped hdue hrun hfault =>
    refine ⟨fun fault h => ?_, nofun⟩
    rw [← Option.some.inj h]
    exact hfault
  | rests hturn => exact ⟨nofun, fun _ => hturn.countP_isSleep⟩
  | sleeps hturn hrest ih =>
    refine ⟨ih.1, fun hnone => ?_⟩
    rw [sleepCount_after, hturn.countP_isSleep, ih.2 hnone]
    omega

/-- **A sleep follows each run.** -/
theorem Trail.isChain_trace (h : Trail plan world sleeps clock next state) :
    state.trace.IsChain fun event after => event.runTime? ≠ none → after.isSleep = true := by
  induction h with
  | stopped => exact .singleton _
  | rests hturn =>
    cases hturn with
    | waits => exact .singleton _
    | runs => exact .cons_cons (fun _ => rfl) (.singleton _)
  | @sleeps _ clock _ later _ state hturn hrest ih =>
    have hsleep : (sleepUntil plan clock later :: state.trace).IsChain
        fun event after => event.runTime? ≠ none → after.isSleep = true :=
      List.isChain_cons.mpr ⟨fun _ _ hrun => absurd rfl hrun, ih⟩
    cases hturn with
    | waits => exact hsleep
    | runs => exact .cons_cons (fun _ => rfl) hsleep

/-! ### Failing runs -/

theorem timeline_failing {world' : Surroundings}
    (hsame : ∀ t, world'.oversleep t = world.oversleep t) (clock : Instant)
    (trace : List SchedulerEvent) :
    (timeline world clock trace).map (Prod.map id failing) =
      timeline world' clock (trace.map failing) := by
  induction trace generalizing clock with
  | nil => rfl
  | cons event rest ih =>
    have hclock : (failing event).clockAfter world' clock = event.clockAfter world clock := by
      cases event with
      | sleeping seconds next =>
        show clock.later (seconds * Instant.second + world'.oversleep clock) = _
        rw [hsame clock]
        rfl
      | started | ran | failed => rfl
    rw [List.map_cons, timeline, timeline, List.map_cons, ih, hclock]
    rfl

theorem Turns.failing_eq {ran' : List SchedulerEvent} {later' : Instant}
    (h : Turns plan clock next ran later) (h' : Turns plan clock next ran' later') :
    ran.map failing = ran'.map failing ∧ later = later' := by
  cases h with
  | waits hearly =>
    cases h' with
    | waits => exact ⟨rfl, rfl⟩
    | runs hdue => exact absurd hearly (Int.not_lt.mpr hdue)
  | runs hdue hrun hlater =>
    cases h' with
    | waits hearly => exact absurd hearly (Int.not_lt.mpr hdue)
    | runs _ hrun' hlater' =>
      refine ⟨?_, Except.ok.inj (hlater.symm.trans hlater')⟩
      rw [List.map_singleton, List.map_singleton, failing_of_runTime? hrun, failing_of_runTime? hrun']

theorem Turns.not_fault {fault : TimetableFault} (h : Turns plan clock next ran later)
    (hdue : next ≤ clock) : nextRun clock plan.cron plan.zone ≠ .error fault := by
  cases h with
  | waits hearly => exact absurd hearly (Int.not_lt.mpr hdue)
  | runs _ _ hlater =>
    rw [hlater]
    nofun

/-- **What runs come to decides nothing** about what the scheduler does. -/
theorem Trail.failing_eq {world' : Surroundings}
    (hsame : ∀ t, world'.oversleep t = world.oversleep t) {state' : SchedulerState}
    (h : Trail plan world sleeps clock next state)
    (h' : Trail plan world' sleeps clock next state') :
    state.trace.map failing = state'.trace.map failing := by
  induction h generalizing state' with
  | stopped hdue hrun hfault =>
    cases h' with
    | stopped _ hrun' _ =>
      rw [List.map_singleton, List.map_singleton, failing_of_runTime? hrun, failing_of_runTime? hrun']
    | rests hturn' => exact absurd hfault (hturn'.not_fault hdue)
    | sleeps hturn' => exact absurd hfault (hturn'.not_fault hdue)
  | rests hturn =>
    cases h' with
    | stopped hdue hrun' hfault => exact absurd hfault (hturn.not_fault hdue)
    | rests hturn' =>
      obtain ⟨hran, rfl⟩ := hturn.failing_eq hturn'
      rw [List.map_append, List.map_append, hran]
  | @sleeps sleeps clock next later ran state hturn hrest ih =>
    cases h' with
    | stopped hdue hrun' hfault => exact absurd hfault (hturn.not_fault hdue)
    | sleeps hturn' hrest' =>
      obtain ⟨hran, rfl⟩ := hturn.failing_eq hturn'
      have hwake : wake plan world' clock later = wake plan world clock later := by
        unfold wake
        rw [hsame clock]
      rw [hwake] at hrest'
      show (ran ++ _ ++ state.trace).map failing = _
      rw [List.map_append, List.map_append, hran, ih hrest', SchedulerState.after, List.map_append,
        List.map_append]

/-! ### Records are made in time -/

theorem Turns.timeline_eq (h : Turns plan clock next ran later) (rest : List SchedulerEvent) :
    timeline world clock (ran ++ [sleepUntil plan clock later] ++ rest) =
      ran.map (clock, ·) ++ (clock, sleepUntil plan clock later) ::
        timeline world (wake plan world clock later) rest := by
  cases h with
  | waits => rfl
  | runs hdue hrun hlater => rcases eq_of_runTime? hrun with ⟨n, rfl⟩ | rfl <;> rfl

theorem sleepSeconds_bounds (hsleep : 1 ≤ plan.maxSleep) (clock later : Instant) :
    1 ≤ sleepSeconds plan clock later ∧ sleepSeconds plan clock later ≤ plan.maxSleep := by
  unfold sleepSeconds
  omega

section Timetable
variable {cron : Cron} (hcron : Cron.read? plan.cron = some cron)
  (hzone : Zone.find? plan.zone = some .utc)
include hcron hzone

/-- **A turn** finds a due instant that is still to come. -/
theorem Turns.isDue (h : Turns plan clock next ran later) (hnext : cron.IsDue next) :
    clock < later ∧ cron.IsDue later := by
  refine ⟨h.lt hcron hzone, ?_⟩
  cases h with
  | waits hearly => exact hnext
  | runs hdue hrun hlater => exact (Cron.isNextAfter_of_nextRun hcron hzone hlater).isDue

theorem Turns.isMadeAt (hsleep : 1 ≤ plan.maxSleep) (h : Turns plan clock next ran later)
    (hnext : cron.IsDue next) {record : Instant × SchedulerEvent}
    (hrecord : record ∈ ran.map (clock, ·) ∨ record = (clock, sleepUntil plan clock later)) :
    record.2.IsMadeAt plan cron record.1 := by
  obtain ⟨hlater, hdue⟩ := h.isDue hcron hzone hnext
  rcases hrecord with hran | rfl
  · obtain ⟨event, hevent, rfl⟩ := List.mem_map.mp hran
    cases h with
    | waits => cases hevent
    | runs _ hrun _ =>
      rw [List.mem_singleton.mp hevent]
      rcases eq_of_runTime? hrun with ⟨n, rfl⟩ | rfl <;> rfl
  · obtain ⟨hleast, hmost⟩ := sleepSeconds_bounds hsleep clock later
    exact ⟨hleast, hmost, hlater, hdue⟩

/-- **All records are made in time**, by induction on the trail. -/
theorem Trail.isMadeAt (hsleep : 1 ≤ plan.maxSleep) (h : Trail plan world sleeps clock next state)
    (hnext : cron.IsDue next) :
    ∀ record ∈ timeline world clock state.trace, record.2.IsMadeAt plan cron record.1 := by
  induction h with
  | stopped hdue hrun hfault =>
    intro record hrecord
    rw [List.mem_singleton.mp hrecord]
    rcases eq_of_runTime? hrun with ⟨n, rfl⟩ | rfl <;> rfl
  | rests hturn =>
    intro record hrecord
    rw [← List.append_nil (_ ++ _), hturn.timeline_eq, List.mem_append, List.mem_cons] at hrecord
    rcases hrecord with hran | hslept | hlater
    · exact hturn.isMadeAt hcron hzone hsleep hnext (.inl hran)
    · exact hturn.isMadeAt hcron hzone hsleep hnext (.inr hslept)
    · cases hlater
  | sleeps hturn hrest ih =>
    intro record hrecord
    rw [SchedulerState.after, hturn.timeline_eq, List.mem_append, List.mem_cons] at hrecord
    rcases hrecord with hran | hslept | hlater
    · exact hturn.isMadeAt hcron hzone hsleep hnext (.inl hran)
    · exact hturn.isMadeAt hcron hzone hsleep hnext (.inr hslept)
    · exact ih (hturn.isDue hcron hzone hnext).2 record hlater

/-- **Runs follow one another** with a due instant before each that none before has served. -/
theorem Trail.isChain_runTimes {last : Instant} (h : Trail plan world sleeps clock next state)
    (hnext : cron.IsDue next) (hlast : last < next) :
    (last :: state.runTimes).IsChain
      fun t u => t < u ∧ ∃ slot, cron.IsDue slot ∧ t < slot ∧ slot ≤ u := by
  have hserves {t u slot : Instant} (hslot : cron.IsDue slot) (ht : t < slot) (hu : slot ≤ u) :
      t < u ∧ ∃ slot, cron.IsDue slot ∧ t < slot ∧ slot ≤ u :=
    ⟨Int.lt_of_lt_of_le ht hu, slot, hslot, ht, hu⟩
  induction h generalizing last with
  | stopped hdue hrun hfault =>
    rw [SchedulerState.runTimes, List.filterMap_cons_some hrun]
    exact .cons_cons (hserves hnext hlast hdue) (.singleton _)
  | rests hturn =>
    cases hturn with
    | waits => exact .singleton _
    | runs hdue hrun hlater =>
      rw [SchedulerState.runTimes, List.cons_append, List.filterMap_cons_some hrun]
      exact .cons_cons (hserves hnext hlast hdue) (.singleton _)
  | sleeps hturn hrest ih =>
    obtain ⟨hlater, hdue⟩ := hturn.isDue hcron hzone hnext
    cases hturn with
    | waits => exact ih hdue hlast
    | runs hcome hrun _ =>
      rw [runTimes_after, List.cons_append, List.filterMap_cons_some hrun]
      exact .cons_cons (hserves hnext hlast hcome) (ih hdue hlater)

end Timetable

/-! ### Sleeps that are exact -/

/-- **What a turn finds**: the next run has been due for less than a second, if it is due. -/
structure Awaits (cron : Cron) (last clock next : Instant) : Prop where
  isNextAfter : cron.IsNextAfter last next
  last_le : last ≤ clock
  in_time : clock < next.later Instant.second

/-- **What a turn leaves**: nothing is due that has not been served. -/
structure Rests (cron : Cron) (last clock next : Instant) : Prop where
  isNextAfter : cron.IsNextAfter last next
  last_le : last ≤ clock
  not_due : clock < next

theorem micros_wake (plan : SchedulerPlan) (hexact : ∀ t, world.oversleep t = 0)
    (clock later : Instant) :
    (wake plan world clock later).micros =
      clock.micros + sleepSeconds plan clock later * Instant.second := by
  show clock.micros + (_ + world.oversleep clock) = _
  rw [hexact clock, Int.add_zero]

/-- **A sleep takes a second at least**, and ends within the second of the next run at the latest:
it is for the whole seconds until then, and for one if there is none. -/
theorem Rests.wake {cron : Cron} {last : Instant} (hsleep : 1 ≤ plan.maxSleep)
    (hexact : ∀ t, world.oversleep t = 0) (h : Rests cron last clock later) :
    clock.later Instant.second ≤ wake plan world clock later ∧
      Awaits cron last (wake plan world clock later) later := by
  have hnot : clock.micros < later.micros := h.not_due
  have hlast : last.micros ≤ clock.micros := h.last_le
  have hwake := micros_wake plan hexact clock later
  have hseconds : 1 ≤ sleepSeconds plan clock later :=
    (sleepSeconds_bounds hsleep clock later).1
  have hmost : sleepSeconds plan clock later ≤ max 1 ((later.micros - clock.micros) / 1000000) :=
    Int.min_le_right _ _
  unfold Instant.second at hwake
  refine ⟨?_, h.isNextAfter, ?_, ?_⟩
  · show clock.micros + 1000000 ≤ _
    omega
  · show last.micros ≤ _
    omega
  · show _ < later.micros + 1000000
    omega

end Records

end Scheduler

namespace Cron

/-- **Slots are served** by runs, from after an instant until another one: they are the due instants
in their order, each has one run, which is within its second, and none is left out. -/
structure Serves (cron : Cron) (last ending : Instant) (slots runTimes : List Instant) : Prop where
  isChain : (last :: slots).IsChain cron.IsNextAfter
  in_time : List.Forall₂ (fun slot t => slot ≤ t ∧ t < slot.later Instant.second) slots runTimes
  mem : ∀ t, cron.IsDue t → last < t → t ≤ ending → t ∈ slots

namespace Serves

variable {cron : Cron} {last slot t ending : Instant} {slots runTimes : List Instant}

theorem nothing (hnone : ∀ t, cron.IsDue t → last < t → ending < t) :
    cron.Serves last ending [] [] where
  isChain := .singleton _
  in_time := .nil
  mem t ht hlast hending := absurd (hnone t ht hlast) (Int.not_lt.mpr hending)

theorem cons (hslot : cron.IsNextAfter last slot) (hfrom : slot ≤ t)
    (hto : t < slot.later Instant.second) (h : cron.Serves slot ending slots runTimes) :
    cron.Serves last ending (slot :: slots) (t :: runTimes) where
  isChain := .cons_cons hslot h.isChain
  in_time := .cons ⟨hfrom, hto⟩ h.in_time
  mem u hu hlast hending := by
    have hle : slot.micros ≤ u.micros := hslot.least u hu hlast
    by_cases heq : u.micros = slot.micros
    · have heq : u = slot := by
        cases u
        cases slot
        exact congrArg Instant.mk heq
      rw [heq]
      exact List.mem_cons_self
    · have hafter : slot.micros < u.micros := by omega
      exact List.mem_cons_of_mem _ (h.mem u hu hafter hending)

end Serves

/-- No instant within the second of a due one is due after it. -/
theorem IsDue.nothing_in_second {cron : Cron} {slot t : Instant} (hslot : cron.IsDue slot)
    (ht : t < slot.later Instant.second) : cron.Serves slot t [] [] := by
  refine .nothing fun u hu hafter => ?_
  have hapart := hslot.minute_le hu hafter
  have ht : t.micros < slot.micros + 1000000 := ht
  show t.micros < u.micros
  unfold Instant.minute at hapart
  omega

end Cron

namespace Scheduler

section Exact
variable {plan : SchedulerPlan} {world : Surroundings} {sleeps : Nat} {clock next last : Instant}
  {state : SchedulerState} {cron : Cron} (hcron : Cron.read? plan.cron = some cron)
  (hzone : Zone.find? plan.zone = some .utc) (hsleep : 1 ≤ plan.maxSleep)
  (hexact : ∀ t, world.oversleep t = 0)

theorem Rests.serves {later : Instant} (h : Rests cron last clock later) :
    cron.Serves last clock [] [] := by
  refine .nothing fun t ht hlast => ?_
  have hle : later.micros ≤ t.micros := h.isNextAfter.least t ht hlast
  have hnot : clock.micros < later.micros := h.not_due
  exact Int.lt_of_lt_of_le hnot hle

include hcron hzone in
/-- **A turn serves the slot that is due**, if one is. What it leaves is what comes after that slot,
though the next run is worked out from the time of the run. -/
theorem Turns.serves {later : Instant} {ran : List SchedulerEvent}
    (h : Turns plan clock next ran later) (hawaits : Awaits cron last clock next) :
    ∃ served, Rests cron served clock later ∧
      ∀ {ending slots times}, cron.Serves served ending slots times →
        ∃ slots, cron.Serves last ending slots (ran.filterMap runTime? ++ times) := by
  have hlt := h.lt hcron hzone
  cases h with
  | waits hearly =>
    exact ⟨last, ⟨hawaits.isNextAfter, hawaits.last_le, hlt⟩, fun h => ⟨_, h⟩⟩
  | runs hdue hrun hlater =>
    have hnext := Cron.isNextAfter_of_nextRun_in hcron hzone hlater hawaits.isNextAfter.isDue hdue
      hawaits.in_time
    have hrests : Rests cron next clock later := ⟨hnext, hdue, hlt⟩
    refine ⟨next, hrests, fun {_ slots _} h => ⟨next :: slots, ?_⟩⟩
    rw [List.filterMap_cons_some hrun]
    exact .cons hawaits.isNextAfter hdue hawaits.in_time h

include hcron hzone hsleep hexact in
/-- **Every slot is served** along a trail, by induction on it, and time goes by. -/
theorem Trail.serves (h : Trail plan world sleeps clock next state)
    (hawaits : Awaits cron last clock next) :
    (state.fault = none → clock.micros + sleeps * Instant.second ≤ state.clock.micros) ∧
    ∃ slots, cron.Serves last state.clock slots state.runTimes := by
  induction h generalizing last with
  | @stopped _ clock next _ _ _ hdue hrun hfault =>
    refine ⟨nofun, [next], ?_⟩
    rw [SchedulerState.runTimes, List.filterMap_cons_some hrun]
    exact .cons hawaits.isNextAfter hdue hawaits.in_time
      (hawaits.isNextAfter.isDue.nothing_in_second hawaits.in_time)
  | rests hturn =>
    obtain ⟨served, hrests, hserves⟩ := hturn.serves hcron hzone hawaits
    refine ⟨fun _ => by simp, ?_⟩
    rw [SchedulerState.runTimes, List.filterMap_append]
    exact hserves hrests.serves
  | @sleeps sleeps clock next later ran state hturn hrest ih =>
    obtain ⟨served, hrests, hserves⟩ := hturn.serves hcron hzone hawaits
    obtain ⟨hsecond, hwaits⟩ := hrests.wake hsleep hexact
    obtain ⟨hclock, slots, hslots⟩ := ih hwaits
    refine ⟨fun hnone => ?_, ?_⟩
    · have hsecond : clock.micros + Instant.second ≤ (wake plan world clock later).micros := hsecond
      have hclock := hclock hnone
      show clock.micros + ((sleeps + 1 : Nat) : Int) * Instant.second ≤ state.clock.micros
      unfold Instant.second at hsecond hclock ⊢
      omega
    · rw [runTimes_after, List.filterMap_append, List.append_assoc]
      exact hserves hslots

end Exact

/-! ### The scheduler -/

theorem start_of_error {plan : SchedulerPlan} {clock : Instant} {fault : TimetableFault}
    (h : nextRun clock plan.cron plan.zone = .error fault) (world : Surroundings) (sleeps : Nat)
    (db : Database) :
    start plan world sleeps clock db =
      { clock, db, trace := [.started plan], fault := some fault } := by
  unfold start
  rw [h]

theorem start_of_ok {plan : SchedulerPlan} {clock first : Instant}
    (h : nextRun clock plan.cron plan.zone = .ok first) (world : Surroundings) (sleeps : Nat)
    (db : Database) :
    start plan world sleeps clock db =
      (follow plan world sleeps clock first db).after [.started plan] := by
  unfold start
  rw [h]

section Start
variable (plan : SchedulerPlan) (world : Surroundings) (sleeps : Nat) (clock : Instant)
  (db : Database) {cron : Cron} (hcron : Cron.read? plan.cron = some cron)
  (hzone : Zone.find? plan.zone = some .utc)
include hcron hzone

theorem failing_start (world' : Surroundings) (hsame : ∀ t, world'.oversleep t = world.oversleep t)
    (db' : Database) :
    (timeline world' clock (start plan world' sleeps clock db').trace).map (Prod.map id failing) =
      (timeline world clock (start plan world sleeps clock db).trace).map (Prod.map id failing) := by
  have hsame' (t : Instant) : world.oversleep t = world'.oversleep t := (hsame t).symm
  have hself (t : Instant) : world.oversleep t = world.oversleep t := rfl
  have htraces : (start plan world' sleeps clock db').trace.map failing =
      (start plan world sleeps clock db).trace.map failing := by
    cases hfirst : nextRun clock plan.cron plan.zone with
    | error fault => rw [start_of_error hfirst, start_of_error hfirst]
    | ok first =>
      have hfollow := (trail_follow plan world' sleeps clock first db' hcron hzone).failing_eq
        hsame' (trail_follow plan world sleeps clock first db hcron hzone)
      rw [start_of_ok hfirst, start_of_ok hfirst]
      exact congrArg (SchedulerEvent.started plan :: ·) hfollow
  rw [timeline_failing hsame', timeline_failing hself, htraces]

/-- **The scheduler goes on** until there is no next run. -/
theorem ends_start :
    let state := start plan world sleeps clock db
    (∀ fault, state.fault = some fault →
        nextRun state.clock plan.cron plan.zone = .error fault) ∧
      (state.fault = none → state.sleepCount = sleeps + 1) := by
  cases hfirst : nextRun clock plan.cron plan.zone with
  | error fault =>
    rw [start_of_error hfirst]
    refine ⟨fun other hother => ?_, nofun⟩
    rw [← Option.some.inj hother]
    exact hfirst
  | ok first =>
    rw [start_of_ok hfirst]
    have hends := (trail_follow plan world sleeps clock first db hcron hzone).ends
    refine ⟨hends.1, fun hnone => ?_⟩
    rw [sleepCount_after, hends.2 hnone]
    exact Nat.zero_add _

theorem isChain_trace_start :
    (start plan world sleeps clock db).trace.IsChain
      fun event after => event.runTime? ≠ none → after.isSleep = true := by
  cases hfirst : nextRun clock plan.cron plan.zone with
  | error fault =>
    rw [start_of_error hfirst]
    exact .singleton _
  | ok first =>
    rw [start_of_ok hfirst]
    have htrace := (trail_follow plan world sleeps clock first db hcron hzone).isChain_trace
    exact List.isChain_cons.mpr ⟨fun _ _ hrun => absurd rfl hrun, htrace⟩

theorem isMadeAt_start (hsleep : 1 ≤ plan.maxSleep) :
    ∀ record ∈ timeline world clock (start plan world sleeps clock db).trace,
      record.2.IsMadeAt plan cron record.1 := by
  cases hfirst : nextRun clock plan.cron plan.zone with
  | error fault =>
    rw [start_of_error hfirst]
    intro record hrecord
    rw [List.mem_singleton.mp hrecord]
    trivial
  | ok first =>
    rw [start_of_ok hfirst]
    have hdue := (Cron.isNextAfter_of_nextRun hcron hzone hfirst).isDue
    have htrail := trail_follow plan world sleeps clock first db hcron hzone
    intro record hrecord
    rcases List.mem_cons.mp hrecord with rfl | hrecord
    · trivial
    · exact htrail.isMadeAt hcron hzone hsleep hdue record hrecord

theorem isChain_runTimes_start :
    (clock :: (start plan world sleeps clock db).runTimes).IsChain
      fun t u => t < u ∧ ∃ slot, cron.IsDue slot ∧ t < slot ∧ slot ≤ u := by
  cases hfirst : nextRun clock plan.cron plan.zone with
  | error fault =>
    rw [start_of_error hfirst]
    exact .singleton _
  | ok first =>
    rw [start_of_ok hfirst]
    have hdue := (Cron.isNextAfter_of_nextRun hcron hzone hfirst).isDue
    have hlater := Cron.lt_of_nextRun hcron hzone hfirst
    exact (trail_follow plan world sleeps clock first db hcron hzone).isChain_runTimes hcron hzone hdue hlater

theorem serves_start (hsleep : 1 ≤ plan.maxSleep) (hexact : ∀ t, world.oversleep t = 0)
    (hleast : ∀ first, nextRun clock plan.cron plan.zone = .ok first → cron.IsNextAfter clock first) :
    let state := start plan world sleeps clock db
    (state.fault = none → clock.later (sleeps * Instant.second) ≤ state.clock) ∧
      ∃ slots, cron.Serves clock state.clock slots state.runTimes := by
  cases hfirst : nextRun clock plan.cron plan.zone with
  | error fault =>
    rw [start_of_error hfirst]
    refine ⟨nofun, [], ?_⟩
    exact .nothing fun t _ hafter => hafter
  | ok first =>
    rw [start_of_ok hfirst]
    have hnext := hleast first hfirst
    have hlater : clock.micros < first.micros := Cron.lt_of_nextRun hcron hzone hfirst
    have hawaits : Awaits cron clock clock first := by
      refine ⟨hnext, Int.le_refl _, ?_⟩
      show clock.micros < first.micros + 1000000
      omega
    have htrail := trail_follow plan world sleeps clock first db hcron hzone
    obtain ⟨hclock, slots, hslots⟩ := htrail.serves hcron hzone hsleep hexact hawaits
    refine ⟨hclock, slots, ?_⟩
    rw [runTimes_after]
    exact hslots

end Start

/-- **Every slot is served once, and the scheduler never spins.** Its records are made in time, the
times of its runs and sleeps do not depend on which runs fail, and it goes on until there is no next
run. A sleep follows each run, and before each run a slot lies that none before has served. If
sleeps take as long as they should, each takes a second at least, and the slots from the start on
are served by the runs, one by one and within their second. -/
theorem every_slot_is_served_once (plan : SchedulerPlan) {cron : Cron} (world : Surroundings)
    (sleeps : Nat) (clock : Instant) (db : Database) (hcron : Cron.read? plan.cron = some cron)
    (hzone : Zone.find? plan.zone = some .utc) (hsleep : 1 ≤ plan.maxSleep) :
    let state := start plan world sleeps clock db
    (∀ record ∈ timeline world clock state.trace, record.2.IsMadeAt plan cron record.1) ∧
    (∀ world' : Surroundings, (∀ t, world'.oversleep t = world.oversleep t) → ∀ db',
      (timeline world' clock (start plan world' sleeps clock db').trace).map (Prod.map id failing) =
        (timeline world clock state.trace).map (Prod.map id failing)) ∧
    ((∀ fault, state.fault = some fault →
        nextRun state.clock plan.cron plan.zone = .error fault) ∧
      (state.fault = none → state.sleepCount = sleeps + 1)) ∧
    (state.trace.IsChain fun event after => event.runTime? ≠ none → after.isSleep = true) ∧
    ((clock :: state.runTimes).IsChain
      fun t u => t < u ∧ ∃ slot, cron.IsDue slot ∧ t < slot ∧ slot ≤ u) ∧
    ((∀ t, world.oversleep t = 0) →
      (∀ first, nextRun clock plan.cron plan.zone = .ok first → cron.IsNextAfter clock first) →
      (state.fault = none → clock.later (sleeps * Instant.second) ≤ state.clock) ∧
      ∃ slots, cron.Serves clock state.clock slots state.runTimes) := by
  exact ⟨isMadeAt_start plan world sleeps clock db hcron hzone hsleep,
    fun world' hsame db' => failing_start plan world sleeps clock db hcron hzone world' hsame db',
    ends_start plan world sleeps clock db hcron hzone,
    isChain_trace_start plan world sleeps clock db hcron hzone,
    isChain_runTimes_start plan world sleeps clock db hcron hzone,
    serves_start plan world sleeps clock db hcron hzone hsleep⟩

/-- A run every minute. -/
def everyMinute : SchedulerPlan := { cron := "* * * * *" }

/-- The store works in every other minute. -/
def faltering : Surroundings := { works := fun t => t.micros / Instant.minute % 2 = 0 }

/-- It starts half a second after the half of a minute, and so sleeps until half a second before the
next one and then, as a sleep takes a second, until half a second after it. -/
theorem every_slot_is_served_once_everyMinute :
    ∃ cron, Cron.read? everyMinute.cron = some cron ∧
      let clock : Instant := ⟨1735689630500000⟩
      let state := start everyMinute faltering 4 clock .empty
      state.runTimes = [⟨1735689660500000⟩, ⟨1735689720500000⟩] ∧ state.fault = none ∧
        state.sleepCount = 5 ∧ ∃ slots, cron.Serves clock state.clock slots state.runTimes := by
  obtain ⟨cron, hcron⟩ := Option.isSome_iff_exists.mp
    (by decide : (Cron.read? everyMinute.cron).isSome = true)
  refine ⟨cron, hcron, ?_⟩
  intro clock state
  have hzone : Zone.find? everyMinute.zone = some .utc := by decide
  have hfault : state.fault = none := by decide +kernel
  have hleast : ∀ first, nextRun clock everyMinute.cron everyMinute.zone = .ok first →
      cron.IsNextAfter clock first :=
    fun first hfirst => Cron.isNextAfter_base_of_nextRun hcron hzone hfirst (by decide)
  obtain ⟨-, -, hends, -, -, hserves⟩ :=
    every_slot_is_served_once everyMinute faltering 4 clock .empty hcron hzone (by decide)
  exact ⟨by decide +kernel, hfault, hends.2 hfault, (hserves (fun _ => rfl) hleast).2⟩

end Scheduler
end Promotions
