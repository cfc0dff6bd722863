import CommandMesh.Election.Candidate
import CommandMesh.LogLevel
import CommandMesh.Node.Handler
import CommandMesh.Policy
import CommandMesh.Roster.Basic
import CommandMesh.Waitlist

/-!
# `CommandMesh.Node.Basic`: a node and how messages leave it

A `Node` is one instance of a command: its routes and jobs, the requests that wait for an answer,
and its part in the election. `Node.emit` sends a message: inside the node if the message asks for
it, else over the node's link, which may be down.

Nothing here waits. What is handed to the link stays in the `outbox`, and what stays inside the node
in `loopback`, until a mesh moves it on.

A `Setup` is what is settled before the node first starts and never changes. A node reads its own
policy, format and link from there, so nodes of one mesh may differ in all of them. The log is what
the node would write for its host; it is kept only if somebody asks for it, and nothing in a node
reads it.

A link that is down refuses every message with a reason. It is down for good or not at all, and what
that means for those who send is up to each of them: a request ends with a fault, everything else is
logged.
-/

set_option autoImplicit false

namespace CommandMesh

/-- How messages leave a node. -/
inductive Link where
  /-- To every endpoint of a bus. -/
  | bus
  /-- Not at all, for that reason. -/
  | dead (reason : String)
deriving DecidableEq

/-- An entry of a node's log. -/
inductive LogEntry where
  | line (level : LogLevel) (text category : String)
  | exception (text error : String)
deriving DecidableEq

/-- What is settled about a node before it first starts. -/
structure Setup where
  name : String
  /-- Names the instance. -/
  service : String
  policy : NodePolicy
  format : PayloadFormat
  link : Link
  /-- Whether the node keeps what it logs. -/
  keepsLog : Bool
  /-- Handlers that are routed on the master only. -/
  masterHandlers : List Definition
  /-- Jobs that run on the master only. -/
  masterJobs : List Job
  /-- Jobs that run while the node does. -/
  jobs : List Job

/-- One instance of a command. -/
structure Node where
  setup : Setup
  running : Bool := false
  roster : Roster Handler
  waitlist : Waitlist := {}
  candidate : Candidate
  /-- Whether the handlers and jobs of the master are in place. -/
  mastersHeld : Bool := false
  /-- The patterns that the node registered for itself. -/
  ownRoutes : List RoutePattern := []
  /-- Whether messages that stay inside the node are taken up. -/
  pumping : Bool := false
  /-- Messages that stay inside the node and were not taken up yet. -/
  loopback : List Envelope := []
  /-- Messages that were handed to the link. -/
  outbox : List Envelope := []
  log : List LogEntry := []
  /-- How often handlers of the host have run, by meter. -/
  runs : List (Nat × Nat) := []
  supply : Supply

namespace Node

/-! ### Names and addresses -/

/-- The action of answers to the node's requests. -/
def answerAction : String := "response"

/-- Where answers to the node's requests go. Their kind names the instance, so that no other one
takes them. -/
def returnAddress (n : Node) : ReturnAddress :=
  ⟨n.setup.policy.responseChannel, n.setup.service, answerAction⟩

/-- The pattern of answers to the node's requests. -/
def answerPattern (n : Node) : RoutePattern :=
  .of (some n.setup.policy.responseChannel) (some n.setup.service) none

/-- The kind of messages of the election. -/
def electionKind (n : Node) : String := n.setup.policy.election.kind.getD n.setup.name

/-- The pattern of messages of the election. -/
def electionPattern (n : Node) : RoutePattern :=
  .of (some n.setup.policy.election.channel) (some n.electionKind) none

/-- The name of the job that polls the election. -/
def pollJobName (n : Node) : String := n.setup.name ++ ":master-job-poll"

/-- The name of the job that sweeps the waitlist. -/
def sweepJobName (n : Node) : String := n.setup.name ++ ":outgoing-sweep"

/-- Whether the node is master. -/
def isMaster (n : Node) : Bool := n.candidate.isActive

/-! ### Small steps -/

/-- Draws from the node's supply. -/
def draw {α : Type} (n : Node) (f : Fresh α) : Node × α :=
  let (a, supply) := f.run n.supply
  ({ n with supply }, a)

/-- Logs something. -/
def report (n : Node) (entry : LogEntry) : Node :=
  if n.setup.keepsLog then { n with log := n.log ++ [entry] } else n

/-- Logs that something failed. -/
def reportException (n : Node) (text error : String) : Node := n.report (.exception text error)

/-- Logs a fault under a fresh tracking id, which is all that others get to know about it. -/
def reportFault (n : Node) (context error : String) : Node × String :=
  let (n, id) := n.draw Supply.fresh
  (n.reportException (context ++ " [tracking id " ++ id ++ "]") error, id)

/-- What a caller is told about a fault. -/
def faultText (trackingId : String) : String := "Internal fault, tracking id " ++ trackingId

/-- The status of a fault. -/
def faultStatus : UInt16 := 500

/-! ### Sending -/

/-- Hands a message to the link. Fails with the reason if the link is down. -/
def submit (n : Node) (e : Envelope) : Except String Node :=
  match n.setup.link with
  | .bus => .ok { n with outbox := n.outbox ++ [e] }
  | .dead reason => .error reason

/-- Sends a message, inside the node or over its link. -/
def emit (n : Node) (e : Envelope) : Except String Node :=
  if e.loopback then .ok { n with loopback := n.loopback ++ [e] } else n.submit e

/-- Sends a message, or logs under that text that it could not be sent. -/
def emitOrReport (n : Node) (e : Envelope) (text : String) : Node :=
  match n.emit e with
  | .ok n => n
  | .error reason => n.reportException text reason

end Node

end CommandMesh
