import CommandMesh.Node.Inbound
import CommandMesh.Node.Outbound

/-!
# `CommandMesh.Node.Lifecycle`: building, starting and stopping a node

`Blueprint.build` makes a node from what a host has put together. `Node.start` adds the routes and
jobs that the node needs for itself, then the jobs of the host; `Node.stop` takes all of them away
again, cancels what still waits, and begins the election afresh.

The handlers of the host are routed as the node is built, so they come before those of the node's
own in every table and stay when it is stopped. Handlers and jobs of the master are kept apart until
the node is master. A stop removes every job, also those that the host has added meanwhile, but of
the routes only those whose patterns the node has noted as its own.

Starting a node that runs and stopping one that does not are misuse and change nothing.
-/

set_option autoImplicit false

namespace CommandMesh

/-- What a host has put together for a node. -/
structure Blueprint where
  name : String
  /-- Names the instance; a fresh id if there is none. -/
  service : Option String := none
  policy : NodePolicy := .default
  format : PayloadFormat := .json
  keepsLog : Bool := false
  /-- What drives the jobs; the clock if nothing is said. -/
  scheduler : Option Scheduler := none
  link : Option Link := none
  observers : List Observer := []
  handlers : List Definition := []
  masterHandlers : List Definition := []
  jobs : List Job := []
  masterJobs : List Job := []

namespace Blueprint

/-- Builds a node. It needs a name and a link. -/
def build (b : Blueprint) (supply : Supply) (now : Instant) : Except Failure Node :=
  let name := Text.trim b.name
  if name = "" then .error (.invalidArgument "command name must not be empty")
  else
    match b.link with
    | none => .error (.invalidArgument ("command '" ++ name ++ "' needs a dispatcher"))
    | some link =>
      let (id, supply) := Supply.fresh.run supply
      let service := b.service.getD id
      let roster := b.handlers.foldl
        (fun r d => (r.addRoute d.pattern d.handler none false).1)
        (Roster.create b.policy.routeCacheCapacity.toNat (b.scheduler.getD .timed) b.observers)
      .ok {
        setup := {
          name, service, link
          policy := b.policy
          format := b.format
          keepsLog := b.keepsLog
          masterHandlers := b.masterHandlers
          masterJobs := b.masterJobs.map fun j => { j with masterOnly := true }
          jobs := b.jobs }
        roster
        candidate := .create name service b.policy.election now
        supply }

end Blueprint

/-- What a node tells about itself. -/
structure NodeStats where
  name : String
  service : String
  running : Bool
  election : ElectionStatus
  pending : Nat
  handlers : List RouteStats
  schedules : List JobStats

namespace Node

/-! ### Starting -/

/-- Registers a route that the node needs for itself. -/
def addOwnRoute (n : Node) (pattern : RoutePattern) (handler : Handler) (reference : String) :
    Node :=
  { n with
    roster := (n.roster.addRoute pattern handler (some reference) false).1
    ownRoutes := n.ownRoutes ++ [pattern] }

/-- Registers a job. -/
def addJob (n : Node) (job : Job) : Node := { n with roster := (n.roster.addJob job).1 }

/-- Takes up the election, if the policy says so. -/
def startElection (n : Node) : Node :=
  let policy := n.setup.policy.election
  if policy.enabled then
    (n.addOwnRoute n.electionPattern .election "master-job-negotiation").addJob
      { name := n.pollJobName, timer := .every policy.tickSpan, body := .poll }
  else n

/-- Starts the node. -/
def start (n : Node) : Except Failure Node :=
  if n.running then .error (.alreadyStarted n.setup.name)
  else
    let n := { n with running := true, pumping := true }
    let n := n.addOwnRoute n.answerPattern .answers "outgoing-response"
    let n := n.startElection
    let n := n.addJob
      { name := n.sweepJobName, timer := .every n.setup.policy.sweepSpan, body := .sweep }
    .ok (n.setup.jobs.foldl addJob n)

/-! ### Stopping -/

/-- Removes the routes that the node registered for itself. -/
def removeOwnRoutes (n : Node) : Node :=
  { n with
    roster := n.ownRoutes.foldl (fun r p => (r.removeRoute p false).getD r) n.roster
    ownRoutes := [] }

/-- Stops the node. -/
def stop (n : Node) (now : Instant) : Except Failure Node :=
  if !n.running then .error (.notStarted n.setup.name)
  else
    let n := { n with running := false }
    -- A master resigns first: that removes its own handlers and jobs and tells the others.
    let n := (n.stopMaster now).getD n
    let n := { n with roster := n.roster.tearDown.1 }
    let n := n.removeOwnRoutes
    .ok { n with
      waitlist := n.waitlist.shutdown.1
      candidate := .create n.setup.name n.setup.service n.setup.policy.election now }

/-! ### In between -/

/-- Ends the requests whose time is up. -/
def sweep (n : Node) (now : Instant) : Node := { n with waitlist := (n.waitlist.sweep now).1 }

/-- What the node tells about itself. -/
def stats (n : Node) : NodeStats where
  name := n.setup.name
  service := n.setup.service
  running := n.running
  election := n.candidate.status
  pending := n.waitlist.pending.length
  handlers := n.roster.router.stats
  schedules := n.roster.timetable.stats

end Node

end CommandMesh
