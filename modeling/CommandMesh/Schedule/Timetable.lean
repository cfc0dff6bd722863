import CommandMesh.Schedule.Basic

/-!
# `CommandMesh.Schedule.Timetable`: the schedules of a node

A `Timetable` tracks the schedules of a node and keeps the scheduler that drives them in step: what
is tracked is registered with the scheduler, and what is removed is removed there too. Schedules are
told apart by number and keep their counts after they were removed. The scheduler knows them by
handles of its own: it hands out a new one at each registration, and the schedule keeps it until it
is removed.

A host may bring a scheduler of its own. Three kinds are distinguished: one by the clock, one that
runs schedules when the host says so, and one that does not tell what it drives and knows no
schedule when asked to stop it. That a scheduler does not know a handle is logged and changes
nothing.

Meters belong to the timetable, since the work of the host goes on counting its runs when a schedule
is removed and registered anew.
-/

set_option autoImplicit false

namespace CommandMesh

/-- What drives the schedules of a node. -/
inductive Scheduler where
  /-- The host says when a schedule runs. -/
  | manual
  /-- The clock says when a schedule runs. -/
  | timed
  /-- The host drives schedules by means of its own and knows no schedule when asked to stop it. -/
  | forgetful
deriving DecidableEq

/-- The schedules of a node. -/
structure Timetable where
  scheduler : Scheduler
  /-- Every schedule that was ever made, by number. -/
  schedules : List Schedule := []
  /-- The schedules of the node, in the order of their registration. -/
  tracked : List Nat := []
  /-- The schedules that the scheduler drives, under their handles. -/
  driven : List (Nat × Nat) := []
  /-- The handle of the next registration with the scheduler. -/
  nextHandle : Nat := 0
  /-- How often work of the host has run, by meter. -/
  meters : List (Nat × Meter) := []

namespace Timetable

/-! ### Looking up -/

/-- The schedule of that number. -/
def find? (t : Timetable) (n : Nat) : Option Schedule := t.schedules[n]?

/-- Whether the schedule of that number is restricted to the master. -/
def isMasterOnly (t : Timetable) (n : Nat) : Bool := (t.find? n).any (·.job.masterOnly)

/-- The numbers of the tracked schedules, or of those that are restricted to the master. -/
def list (t : Timetable) (masterOnly : Bool) : List Nat :=
  t.tracked.filter fun n => !masterOnly || t.isMasterOnly n

/-- The name of a schedule. -/
def nameOf (t : Timetable) (n : Nat) : String := ((t.find? n).map (·.job.name)).getD ""

/-- The first tracked schedule with that name. -/
def findNamed? (t : Timetable) (name : String) : Option Nat :=
  t.tracked.find? fun n => t.nameOf n == name

/-- The schedules that the scheduler drives. -/
def registered (t : Timetable) : List Nat := t.driven.map (·.2)

/-- What is told about the tracked schedules. -/
def stats (t : Timetable) : List JobStats := t.tracked.filterMap fun n => (t.find? n).map (·.stats)

/-- The schedules of that name that the scheduler drives. -/
def registeredNamed (t : Timetable) (name : String) : List Nat :=
  t.registered.filter fun n => t.nameOf n == name

/-- The names of the schedules that the scheduler drives, sorted. -/
def registeredNames (t : Timetable) : List String :=
  (t.registered.map t.nameOf).mergeSort fun a b => decide (a ≤ b)

/-! ### Changing one schedule -/

/-- Makes a schedule that is not tracked. -/
def make (t : Timetable) (job : Job) : Timetable × Nat :=
  ({ t with schedules := t.schedules ++ [{ job }] }, t.schedules.length)

/-- Changes the schedule of that number. -/
def update (t : Timetable) (n : Nat) (f : Schedule → Schedule) : Timetable :=
  { t with schedules := t.schedules.modify n f }

/-- Registers a schedule with the scheduler, under the next handle. -/
def drive (t : Timetable) (n : Nat) : Timetable :=
  { t with
    -- A forgetful scheduler keeps no list of what it drives.
    driven := if t.scheduler = .forgetful then t.driven else t.driven ++ [(t.nextHandle, n)]
    nextHandle := t.nextHandle + 1 }

/-- Takes what is registered under a handle from the scheduler. That the scheduler does not know the
handle changes nothing. -/
def release (t : Timetable) (handle : Nat) : Timetable :=
  { t with driven := t.driven.filter (·.1 != handle) }

/-- Tracks a schedule and hands it to the scheduler. -/
def track (t : Timetable) (n : Nat) : Timetable :=
  { (t.drive n).update n fun s => { s with handle := some t.nextHandle } with
    tracked := t.tracked ++ [n] }

/-- Forgets a tracked schedule and takes it from the scheduler. -/
def untrack (t : Timetable) (n : Nat) : Option Timetable :=
  if n ∈ t.tracked then
    let handle := (t.find? n).bind (·.handle)
    let left := { t with tracked := t.tracked.erase n }.update n fun s => { s with handle := none }
    some (handle.elim left left.release)
  else none

/-! ### Meters -/

/-- What a meter shows. -/
def meter (t : Timetable) (m : Nat) : Meter := (t.meters.lookup m).getD {}

/-- Changes what a meter shows. -/
def setMeter (t : Timetable) (m : Nat) (f : Meter → Meter) : Timetable :=
  { t with meters := (m, f (t.meter m)) :: t.meters.filter (·.1 != m) }

/-- Whether a body panics when it is called next. -/
def refuses (t : Timetable) : Body → Bool
  | .host m conduct => conduct.refuses (t.meter m).begun
  | .sweep | .poll => false

/-- What all meters show together. -/
def total (t : Timetable) : Meter where
  begun := t.meters.foldl (fun n m => n + m.2.begun) 0
  done := t.meters.foldl (fun n m => n + m.2.done) 0

/-! ### Runs -/

/-- Calls a schedule. Says what becomes of the call. -/
def call (t : Timetable) (n : Nat) (now : Instant) : Timetable × Calling :=
  match t.find? n with
  | none => (t, .skipped)
  | some s =>
    let refuses := t.refuses s.job.body
    (t.update n fun s => (s.call now refuses).1, (s.call now refuses).2)

end Timetable

end CommandMesh
