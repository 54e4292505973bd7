import Promotions.Scheduler

/-!
# Settings from the environment

Four variables set what the program does on its own. A variable that is empty counts as not set.
-/

namespace Promotions

/-- The variables that are set. -/
structure Environment where
  systemOperator : Option String := none
  cron : Option String := none
  zone : Option String := none
  maxSleep : Option String := none

namespace Environment

/-- The value of a variable, or its default. -/
def setting (given? : Option String) (default : String) : String :=
  match given? with
  | some "" | none => default
  | some value => value

/-- The session of a clock reading. -/
def session (environment : Environment) (clock : Instant) : Session :=
  { clock, systemOperator := setting environment.systemOperator "system" }

/-- The scheduler's plan; there is none if its longest sleep is no integer. -/
def plan? (environment : Environment) : Option SchedulerPlan :=
  (Text.integer? (setting environment.maxSleep "60").toList).map fun maxSleep =>
    { cron := setting environment.cron "*/15 * * * *"
      zone := setting environment.zone "UTC"
      maxSleep }

end Environment

end Promotions
