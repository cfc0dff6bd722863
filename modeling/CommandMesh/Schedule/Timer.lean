import CommandMesh.Text.Quoted
import CommandMesh.Time

/-!
# `CommandMesh.Schedule.Timer`: when a job runs

A `Timer` gives the time of the first run and, for a job that repeats, the period. The runs of a job
lie on a grid whose points are a period apart. A run that lasts beyond the next point does not shift
the grid: the point is made up for at once, and the run after that waits for a point again
(`nextTick`).

A job may begin at an instant or after a delay. If both are given the instant counts, and one that
is over means at once. A job without a period runs once. One whose period is zero has no grid, and
its clock gives up (`Mesh.runFirst`).
-/

set_option autoImplicit false

namespace CommandMesh

/-- When a job first runs and how often it repeats. -/
structure Timer where
  /-- The period; a job without one runs once. -/
  interval : Option Span := none
  /-- How long after its registration the job first runs. -/
  initialDelay : Option Span := none
  /-- When the job first runs. This counts more than a delay. -/
  startsAt : Option Instant := none
deriving DecidableEq

namespace Timer

/-- A timer for a job that repeats. -/
def every (period : Span) : Timer := { interval := some period }

/-- The time until the first run, seen from `now`. -/
def firstDelay (t : Timer) (now : Instant) : Span :=
  match t.startsAt with
  | some start => start - now
  | none => t.initialDelay.getD 0

/-- The first point after `now` of a grid that `point` lies on, for a `point` not after `now`. -/
def nextTick (period : Span) (point now : Instant) : Instant :=
  point + ((now - point) / period + 1) * period

/-- An optional span for people. -/
def spanOption : Option Span → String
  | none => "None"
  | some s => "Some(" ++ Span.text s ++ ")"

/-- An optional instant for people, in seconds and nanoseconds. -/
def instantOption : Option Instant → String
  | none => "None"
  | some t =>
    "Some(SystemTime \x7b tv_sec: " ++ Nat.repr (t / 1000000000) ++ ", tv_nsec: "
      ++ Nat.repr (t % 1000000000) ++ " \x7d)"

/-- The timer with its fields spelt out. -/
def debugText (t : Timer) : String :=
  "TimerConfig \x7b interval: " ++ spanOption t.interval ++ ", initial_delay: "
    ++ spanOption t.initialDelay ++ ", initial_time: " ++ instantOption t.startsAt ++ " \x7d"

end Timer

end CommandMesh
