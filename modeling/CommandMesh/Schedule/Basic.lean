import CommandMesh.Schedule.Job

/-!
# `CommandMesh.Schedule.Basic`: a job and its runs

A `Schedule` is a job together with what is counted about its runs. Runs of one schedule never
overlap: a call that comes while a run is in flight is skipped. A run ends by itself (`finish`) or
is dropped (`drop`); a dropped run is not counted as an execution. A body that panics when it is
called gives no run that could end either way.

Who calls a schedule, waits for the run and ends it is not said here; it may be the clock, the host,
or several of them at once. The flag is set and cleared in one step each, so of two calls at the
same time one comes first. Counts have no bound, and what is told about them are words of 64 bits.
-/

set_option autoImplicit false

namespace CommandMesh

/-- A job and what is counted about its runs. -/
structure Schedule where
  job : Job
  /-- Whether a run is in flight. -/
  active : Bool := false
  executions : Nat := 0
  failures : Nat := 0
  skipped : Nat := 0
  lastRun : Option Instant := none
  /-- What the scheduler knows the schedule by, while it is registered there. -/
  handle : Option Nat := none

/-- What becomes of a call of a schedule. -/
inductive Calling where
  /-- A run is in flight, and the call is skipped. -/
  | skipped
  /-- A run begins. -/
  | began
  /-- The body panicked when it was called, and whoever called the schedule panics with it. -/
  | died
deriving DecidableEq

namespace Schedule

/-- Begins a run, or counts a skipped one if a run is in flight. Says whether a run began. -/
def begin (s : Schedule) (now : Instant) : Schedule × Bool :=
  if s.active then ({ s with skipped := s.skipped + 1 }, false)
  else ({ s with active := true, lastRun := some now }, true)

/-- Calls the schedule, whose body may panic at that. It stays active for good then: nothing is left
that could end the run. -/
def call (s : Schedule) (now : Instant) (refuses : Bool) : Schedule × Calling :=
  let (s, began) := s.begin now
  (s, if !began then .skipped else if refuses then .died else .began)

/-- Ends the run in flight. A run that does not end well is counted as a failure too. -/
def finish (s : Schedule) (e : Ending) : Schedule :=
  { s with
    active := false
    executions := s.executions + 1
    failures := if e = .ok then s.failures else s.failures + 1 }

/-- Ends the run in flight without counting it. -/
def drop (s : Schedule) : Schedule := { s with active := false }

/-- What is told about a schedule. -/
def stats (s : Schedule) : JobStats where
  name := s.job.name
  masterOnly := s.job.masterOnly
  longRunning := s.job.longRunning
  interval := s.job.timer.interval.map fun i => UInt64.ofNat (Span.toMillis i)
  executions := UInt64.ofNat s.executions
  failures := UInt64.ofNat s.failures
  skipped := UInt64.ofNat s.skipped
  lastRun := s.lastRun.map fun i => UInt64.ofNat (Span.toMillis i)

/-- The schedule with its fields spelt out. -/
def debugText (s : Schedule) : String :=
  "CommandJobSchedule \x7b name: " ++ Text.quoted s.job.name ++ ", timer: " ++ s.job.timer.debugText
    ++ ", is_long_running: " ++ toString s.job.longRunning ++ ", is_master_job: "
    ++ toString s.job.masterOnly ++ ", .. \x7d"

end Schedule

end CommandMesh
