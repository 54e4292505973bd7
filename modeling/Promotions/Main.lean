import Std.Time
import Promotions.Environment
import Promotions.Json.Printer

/-!
# The scheduler as a program

Runs the expiry scheduler on the system's clock, over a database that starts empty and lives as long
as the program. Each record is printed as a line of JSON. What is done is `Scheduler.turn` and
`Scheduler.sleepSeconds`; this module reads the clock and the variables, prints and sleeps.
-/

namespace Promotions.Main

/-- The variables of the process. -/
def environment : IO Environment := do
  return {
    systemOperator := ← IO.getEnv "SYSTEM_OPERATOR_ID"
    cron := ← IO.getEnv "GRANT_EXPIRY_CRON"
    zone := ← IO.getEnv "GRANT_EXPIRY_TIMEZONE"
    maxSleep := ← IO.getEnv "GRANT_EXPIRY_MAX_SLEEP_SECONDS" }

/-- The system's clock. -/
def clock : IO Instant := do
  let now ← Std.Time.Timestamp.now
  return ⟨now.toNanosecondsSinceUnixEpoch.toInt / 1000⟩

/-- Prints records, one a line. -/
def report (events : List SchedulerEvent) : IO Unit :=
  events.forM fun event => IO.println (event.record.write fun _ => "null")

/-- Ends the program for want of a next run. -/
def stop (fault : TimetableFault) : IO Unit :=
  throw (IO.userError (fault.message?.getD "no next run"))

/-- Looks at the clock, and then sleeps or takes a turn, for ever. -/
partial def loop (plan : SchedulerPlan) (next : Instant) (db : Database) : IO Unit := do
  let now ← clock
  if now < next then
    let seconds := Scheduler.sleepSeconds plan now next
    report [.sleeping seconds next]
    IO.sleep (seconds * 1000).toNat.toUInt32
    loop plan next db
  else
    let done := Scheduler.turn plan true now next db
    report done.ran
    match done.next with
    | .error fault => stop fault
    | .ok next => loop plan next done.db

end Promotions.Main

/-- Reads the plan and runs the scheduler. -/
def main : IO Unit := do
  match (← Promotions.Main.environment).plan? with
  | none => throw (IO.userError "GRANT_EXPIRY_MAX_SLEEP_SECONDS is no integer")
  | some plan =>
    Promotions.Main.report [.started plan]
    match Promotions.nextRun (← Promotions.Main.clock) plan.cron plan.zone with
    | .error fault => Promotions.Main.stop fault
    | .ok next => Promotions.Main.loop plan next .empty
