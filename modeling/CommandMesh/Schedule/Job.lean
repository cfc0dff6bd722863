import CommandMesh.Schedule.Timer
import CommandMesh.Wire.Basic

/-!
# `CommandMesh.Schedule.Job`: recurring jobs and how their runs go

A `Job` is what a host asks to be run: a name, a timer, a body and two hooks. A body is work that a
node does for itself, or work of the host, of which only the conduct is known: whether it refuses to
begin, how long a run lasts and how it ends.

Names need not differ. How work of the host goes may depend on how many of its runs have begun,
which a meter counts; several jobs may share a meter. The hooks are known by whether they fail, and
that they do is logged and changes nothing.
-/

set_option autoImplicit false

namespace CommandMesh

/-- How a run ends. -/
inductive Ending where
  | ok
  | failed
  | panicked
deriving DecidableEq

/-- How a run goes once it has begun. -/
structure Course where
  duration : Span
  ending : Ending

/-- What is known about work of a host. Runs are counted from zero. -/
structure Conduct where
  /-- Whether the work panics when it is called, after so many runs that began. -/
  refuses : Nat → Bool
  course : Nat → Course

/-- What a job does. -/
inductive Body where
  /-- Ends the requests of the node whose time is up. -/
  | sweep
  /-- Looks whether a poll of the election is due. -/
  | poll
  /-- Work of the host, whose runs are counted by the meter of that number. -/
  | host (meter : Nat) (conduct : Conduct)

/-- Something to be called when a job is registered or removed, and whether it then fails. -/
structure Hook where
  fails : Bool
deriving DecidableEq

/-- A job. -/
structure Job where
  name : String
  timer : Timer
  body : Body
  /-- Whether the clock goes on during a run, so that runs may be skipped. -/
  longRunning : Bool := false
  /-- Whether the job exists on the master only. -/
  masterOnly : Bool := false
  tearUp : Option Hook := none
  tearDown : Option Hook := none

/-- How many runs of some work have begun, and how many of them ended well. -/
structure Meter where
  begun : Nat := 0
  done : Nat := 0
deriving DecidableEq

/-- What a node tells about a job. Times are in milliseconds. -/
structure JobStats where
  name : String
  masterOnly : Bool
  longRunning : Bool
  interval : Option UInt64
  executions : UInt64
  failures : UInt64
  skipped : UInt64
  lastRun : Option UInt64
deriving DecidableEq

/-- The layout of what is told about a job. -/
def JobStats.wire : Wire .value JobStats :=
  .iso
    (.record <| .need "name" .text <| .need "is_master_job" .bool <| .need "is_long_running" .bool
      <| .need "interval_ms" (.option .word64) <| .need "executions" .word64
      <| .need "failures" .word64 <| .need "skipped" .word64
      <| .need "last_run_ms" (.option .word64) .done)
    (fun (n, m, l, i, e, f, s, r, ()) => ⟨n, m, l, i, e, f, s, r⟩)
    (fun s => (s.name, s.masterOnly, s.longRunning, s.interval, s.executions, s.failures, s.skipped,
      s.lastRun, ()))
    (fun _ => rfl) (fun _ => rfl)

end CommandMesh
