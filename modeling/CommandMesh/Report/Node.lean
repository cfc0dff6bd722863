import CommandMesh.Node.Lifecycle
import CommandMesh.Report.Message

/-!
# `CommandMesh.Report.Node`: what is reported about nodes

Reports on routes, jobs, elections and nodes, on what their observers saw, and on what they logged.
Times that hang on the wall clock are reported only as being there.

Two kinds of report stand side by side. The statistics that a node gives out are reported as they
are, that is, as of the moment when the node gave them out. `names` and `summary` look into the node
itself instead and show what it holds now.
-/

set_option autoImplicit false

namespace CommandMesh.Report

open Json

/-! ### Statistics -/

/-- The members of a report on an election. -/
def electionMembers (s : ElectionStatus) : List (String × Json) :=
  [("name", str s.name), ("state", str s.standing.name), ("attempts", ofNat s.attempts.toNat),
   ("master", ofText? s.knownMaster), ("changes", ofNat s.changes.toNat),
   ("partners", .array (s.partners.map fun p => .array [str p.service, .bool p.isMaster]))]

/-- An election. -/
def election (s : ElectionStatus) : Json := record (electionMembers s)

/-- A route. -/
def route (s : RouteStats) : Json :=
  record
    [("key", str s.pattern), ("ref", ofText? s.reference), ("master", .bool s.masterOnly),
     ("invocations", ofNat s.invocations.toNat), ("failures", ofNat s.failures.toNat),
     ("invoked", .bool s.lastInvoked.isSome)]

/-- A job. -/
def job (s : JobStats) : Json :=
  record
    [("name", str s.name), ("master", .bool s.masterOnly), ("long", .bool s.longRunning),
     ("interval_ms", ofNat? (s.interval.map (·.toNat))), ("executions", ofNat s.executions.toNat),
     ("failures", ofNat s.failures.toNat), ("skipped", ofNat s.skipped.toNat),
     ("ran", .bool s.lastRun.isSome)]

/-- The runs of a schedule. -/
def schedule (s : Schedule) : Json :=
  record
    [("executions", ofNat s.executions), ("failures", ofNat s.failures), ("active", .bool s.active),
     ("skipped", ofNat s.skipped), ("ran", .bool s.lastRun.isSome)]

/-- A node. -/
def node (s : NodeStats) : Json :=
  record
    [("name", str s.name), ("id", str s.service), ("running", .bool s.running),
     ("pending", ofNat s.pending), ("master_job", election s.election),
     ("handlers", .array (s.handlers.map route)), ("schedules", .array (s.schedules.map job))]

/-- The patterns of routes, in their order. -/
def patterns {H : Type} (r : Router H) : Json := .array (r.routes.map fun r => str r.pattern.text)

/-- The names and addresses that a node goes by. -/
def names (n : Node) : Json :=
  record
    [("name", str n.setup.name), ("id", str n.setup.service), ("running", .bool n.running),
     ("codec", str (if n.setup.format = .json then "Json" else "Bincode")),
     ("is_master", .bool n.isMaster), ("response", returnAddress n.returnAddress),
     ("negotiation_type", str n.electionKind), ("negotiation_key", str n.electionPattern.text),
     ("poll_schedule", str n.pollJobName), ("sweep_schedule", str n.sweepJobName),
     ("pending", ofNat n.waitlist.pending.length)]

/-- How a node stands, in brief. -/
def summary (n : Node) : Json :=
  record
    [("running", .bool n.running), ("state", str n.candidate.standing.name),
     ("attempts", ofNat n.candidate.attempts.toNat), ("master", ofText? n.candidate.knownMaster),
     ("pending", ofNat n.waitlist.pending.length),
     ("handlers", ofNat n.roster.router.routes.length),
     ("schedules", ofNat n.roster.timetable.tracked.length)]

/-! ### Events -/

/-- What an observer was told. -/
def notice : Notice → List Json
  | .routeAdded p m => [str "command_added", str p.text, .bool m]
  | .routeRemoved p m => [str "command_removed", str p.text, .bool m]
  | .jobAdded n m => [str "schedule_added", str n, .bool m]
  | .jobRemoved n m => [str "schedule_removed", str n, .bool m]

/-- Something that a host saw. -/
def event : Event → Json
  | .noticed _ label n => .array (str label :: notice n)
  | .hooked .tearUp _ job m => .array [str "hook", str "tear_up", str job, .bool m]
  | .hooked .tearDown _ job m => .array [str "hook", str "tear_down", str job, .bool m]
  | .called tag n => .array [str "call", str tag, ofNat n]
  | .faulted key f => .array [str "on_error", str key, str f]

/-- An entry of a log. -/
def entry : LogEntry → Json
  | .line level line category => .array [str level.name, str line, str category]
  | .exception line error => .array [str "exception", str line, str error]

/-- A consequence of an election. -/
def consequence : Consequence → Json
  | .broadcast a => .array [str "Broadcast", str a.text]
  | .promoted => .array [str "Promoted"]
  | .demoted => .array [str "Demoted"]

end CommandMesh.Report
