import CommandMesh.Roster.Notice
import CommandMesh.Router.Table
import CommandMesh.Schedule.Timetable

/-!
# `CommandMesh.Roster.Basic`: the routes and jobs of a node, observed

A `Roster` is a routing table and a timetable that share their observers. Every change of either is
told to the observers after it is made; the hooks of a job are called before it is registered and
before it is taken from the scheduler.

The journal is where it can be seen who was told what and which hooks were called, in their order,
until the host takes note of it. Nothing that a node does depends on the journal. An observer that
answers with an error and a hook that fails change nothing but what the host logs about it, so
neither leads anywhere here.

Bulk removals are removals in turn, and each is told by itself. What is counted is how many of the
schedules were tracked.
-/

set_option autoImplicit false

namespace CommandMesh

/-- The routes and jobs of a node. -/
structure Roster (H : Type) where
  router : Router H
  timetable : Timetable
  observers : List Observer
  /-- What the host has seen and not yet taken note of. -/
  journal : List Event := []

namespace Roster

variable {H : Type}

/-- A roster without routes and jobs. -/
def create (capacity : Nat) (scheduler : Scheduler) (observers : List Observer) : Roster H where
  router := .empty capacity
  timetable := { scheduler }
  observers := observers

/-- Adds events to the journal. -/
def record (r : Roster H) (events : List Event) : Roster H :=
  { r with journal := r.journal ++ events }

/-- Subscribes another observer. -/
def subscribe (r : Roster H) (o : Observer) : Roster H := { r with observers := r.observers ++ [o] }

/-- Tells the observers something. -/
def tell (r : Roster H) (n : Notice) : Roster H := r.record (n.tell r.observers)

/-! ### Routes -/

/-- Adds a route. -/
def addRoute (r : Roster H) (pattern : RoutePattern) (handler : H) (reference : Option String)
    (masterOnly : Bool) : Roster H × Route H :=
  let (router, route) := r.router.register pattern handler reference masterOnly
  ({ r with router }.tell (.routeAdded pattern masterOnly), route)

/-- Removes the first route with this pattern and this restriction to the master. -/
def removeRoute (r : Roster H) (pattern : RoutePattern) (masterOnly : Bool) :
    Option (Roster H) :=
  (r.router.unregister pattern masterOnly).map fun router =>
    { r with router }.tell (.routeRemoved pattern masterOnly)

/-! ### Jobs -/

/-- Calls a hook of a job on behalf of the schedule of that number, if the job has one. That the
hook fails changes nothing. -/
def callHook (r : Roster H) (time : HookTime) (n : Nat) (job : Job) : Roster H :=
  match time, job.tearUp, job.tearDown with
  | .tearUp, some _, _ | .tearDown, _, some _ =>
    r.record [.hooked time n job.name job.masterOnly]
  | _, _, _ => r

/-- Makes a schedule that is neither tracked nor driven. -/
def makeJob (r : Roster H) (job : Job) : Roster H × Nat :=
  let (timetable, n) := r.timetable.make job
  ({ r with timetable }, n)

/-- Adds a job. Gives the number of its schedule. -/
def addJob (r : Roster H) (job : Job) : Roster H × Nat :=
  let (r, n) := r.makeJob job
  let r := r.callHook .tearUp n job
  ({ r with timetable := r.timetable.track n }.tell (.jobAdded job.name job.masterOnly), n)

/-- Removes the schedule of that number, if it is tracked. -/
def removeJob (r : Roster H) (n : Nat) : Option (Roster H) :=
  match r.timetable.find? n, r.timetable.untrack n with
  | some s, some timetable =>
    some (({ r with timetable }.callHook .tearDown n s.job).tell
      (.jobRemoved s.job.name s.job.masterOnly))
  | _, _ => none

/-- Removes schedules in turn, and counts those that were tracked. -/
def removeJobs (r : Roster H) (ns : List Nat) : Roster H × Nat :=
  ns.foldl
    (fun (r, count) n => match r.removeJob n with
      | some r => (r, count + 1)
      | none => (r, count))
    (r, 0)

/-- Adds jobs that are restricted to the master. -/
def startMasterJobs (r : Roster H) (jobs : List Job) : Roster H × Nat :=
  (jobs.foldl (fun r job => (r.addJob { job with masterOnly := true }).1) r, jobs.length)

/-- Removes every job that is restricted to the master, and counts them. -/
def stopMasterJobs (r : Roster H) : Roster H × Nat := r.removeJobs (r.timetable.list true)

/-- Removes every job, and counts them. -/
def tearDown (r : Roster H) : Roster H × Nat := r.removeJobs (r.timetable.list false)

end Roster

end CommandMesh
