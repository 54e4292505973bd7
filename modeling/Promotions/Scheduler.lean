import Promotions.Action
import Promotions.Timetable

/-!
# The expiry scheduler

The scheduler expires grants at the times of a timetable. It works in turns (`Scheduler.turn`): once
the time of the next run has come it runs and works out the next one from that moment, whether the
run succeeded or not. As long as that time has not come it sleeps, for whole seconds, at least one
and at most as many as its plan allows. `Scheduler.start` follows it for a number of sleeps and
collects what it records.
-/

namespace Promotions

/-- When the scheduler runs, and how long it sleeps at most, in seconds. -/
structure SchedulerPlan where
  cron : String := "*/15 * * * *"
  zone : String := "UTC"
  maxSleep : Int := 60
  deriving DecidableEq, Repr

/-- What the scheduler records. -/
inductive SchedulerEvent where
  | started (plan : SchedulerPlan)
  | sleeping (seconds : Int) (nextRun : Instant)
  | ran (expired : Nat) (now : Instant)
  | failed (now : Instant)
  deriving DecidableEq, Repr

namespace SchedulerEvent

/-- The message of a record. -/
def message : SchedulerEvent → String
  | started _ => "grant expiry scheduler started"
  | sleeping _ _ => "expiry not due; sleeping"
  | ran _ _ => "grant expiry run success"
  | failed _ => "grant expiry run failed"

/-- The weight of a record. -/
def level : SchedulerEvent → String
  | started _ | ran _ _ => "INFO"
  | sleeping _ _ => "DEBUG"
  | failed _ => "ERROR"

/-- What a record tells besides its message. -/
def fields : SchedulerEvent → List (String × Json)
  | started plan =>
    [("cron", .str plan.cron), ("timezone", .str plan.zone),
      ("max_sleep_seconds", .int plan.maxSleep)]
  | sleeping seconds next =>
    [("sleep_for_seconds", .int seconds), ("next_run_at", .str next.iso)]
  | ran expired now => [("expired", .int expired), ("now", .str now.iso)]
  | failed now => [("now", .str now.iso)]

/-- A record as an object. -/
def record (event : SchedulerEvent) : Json :=
  .obj ([("msg", .str event.message), ("level", .str event.level)] ++ event.fields)

end SchedulerEvent

/-- What the scheduler meets: whether the store works at an instant, and by how many microseconds a
sleep that begins at an instant is too long. -/
structure Surroundings where
  works : Instant → Bool := fun _ => true
  oversleep : Instant → Int := fun _ => 0

/-- What a turn comes to before its sleep. -/
structure SchedulerTurn where
  /-- The run of the turn, if one was due. -/
  ran : List SchedulerEvent
  db : Database
  next : Except TimetableFault Instant

/-- Where the scheduler has got to. -/
structure SchedulerState where
  clock : Instant
  db : Database
  trace : List SchedulerEvent
  /-- Why the scheduler stopped before its last sleep, if it did. -/
  fault : Option TimetableFault := none

namespace SchedulerState

/-- The same state, with records in front of its own. -/
def after (state : SchedulerState) (events : List SchedulerEvent) : SchedulerState :=
  { state with trace := events ++ state.trace }

end SchedulerState

namespace Scheduler

/-- The seconds to sleep until the next run, within the limits of a plan. -/
def sleepSeconds (plan : SchedulerPlan) (now next : Instant) : Int :=
  min plan.maxSleep (max 1 ((next.micros - now.micros) / Instant.second))

/-- One run. It fails if the store does not work, and then changes nothing. -/
def runOnce (works : Bool) (db : Database) (now : Instant) : SchedulerEvent × Database :=
  if works then
    match (Action.expireGrants (some now)).perform { clock := now } db with
    | .ok (.count n, after) => (.ran n now, after)
    | _ => (.failed now, db)
  else (.failed now, db)

/-- A turn: a run if the next one is due, and the time of the next one after that. -/
def turn (plan : SchedulerPlan) (works : Bool) (clock next : Instant) (db : Database) :
    SchedulerTurn :=
  if clock < next then { ran := [], db, next := .ok next }
  else
    let (event, after) := runOnce works db clock
    { ran := [event], db := after, next := nextRun clock plan.cron plan.zone }

/-- Follows the scheduler for a number of turns after the first. Work takes no time: a turn
whose next run is due when it ends is followed by another one at the same time, and any other by
a sleep. -/
def follow (plan : SchedulerPlan) (world : Surroundings) :
    Nat → Instant → Instant → Database → SchedulerState
  | turns, clock, next, db =>
    let done := turn plan (world.works clock) clock next db
    match done.next with
    | .error fault => { clock, db := done.db, trace := done.ran, fault := some fault }
    | .ok next =>
      let seconds := sleepSeconds plan clock next
      let events := if clock < next then done.ran ++ [.sleeping seconds next] else done.ran
      match turns with
      | 0 => { clock, db := done.db, trace := events }
      | turns + 1 =>
        let wake := if clock < next then
            clock.later (seconds * Instant.second + world.oversleep clock)
          else clock
        (follow plan world turns wake next done.db).after events

/-- Starts the scheduler and follows it. -/
def start (plan : SchedulerPlan) (world : Surroundings) (sleeps : Nat) (clock : Instant)
    (db : Database) : SchedulerState :=
  match nextRun clock plan.cron plan.zone with
  | .error fault => { clock, db, trace := [.started plan], fault := some fault }
  | .ok next => (follow plan world sleeps clock next db).after [.started plan]

end Scheduler

end Promotions
