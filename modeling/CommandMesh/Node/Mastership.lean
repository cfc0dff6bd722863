import CommandMesh.Node.Basic

/-!
# `CommandMesh.Node.Mastership`: a node's part in the election

What the election decides and what the node has to carry out are separate steps, and other events
may come between them. So a consequence is carried out as the state then is: a node that has lost
mastership in between announces none, and `syncMasters` brings the handlers and jobs of the master
in line with the present standing, in whatever order it is called.

That holds of the consequences of a promotion or a demotion. A broadcast that a candidate has asked
for is sent as it is, whatever the standing has become meanwhile.

`startMaster` and `stopMaster` are what a host does without an election. They change the standing,
tell the others and bring everything in line, in that order. A broadcast that the link refuses is
logged, and the rest goes on.
-/

set_option autoImplicit false

namespace CommandMesh

namespace Node

/-- Announces something to the other instances. -/
def broadcast (n : Node) (a : Announcement) : Node :=
  let (n, e) := n.draw
    (Envelope.create n.setup.policy.election.channel n.electionKind a.text n.setup.service)
  match n.submit e with
  | .ok n => n
  | .error reason => n.reportException ("Failed to broadcast " ++ a.text) reason

/-! ### Handlers and jobs of the master -/

/-- Puts the handlers and jobs of the master in place. -/
def holdMasters (n : Node) : Node :=
  let roster := n.setup.masterHandlers.foldl
    (fun r d => (r.addRoute d.pattern d.handler none true).1) n.roster
  { n with roster := (roster.startMasterJobs n.setup.masterJobs).1, mastersHeld := true }

/-- Removes the handlers and jobs of the master. -/
def releaseMasters (n : Node) : Node :=
  let roster := n.setup.masterHandlers.foldl
    (fun r d => (r.removeRoute d.pattern true).getD r) n.roster
  { n with roster := roster.stopMasterJobs.1, mastersHeld := false }

/-- Brings the handlers and jobs of the master in line with the standing of the node. -/
def syncMasters (n : Node) : Node :=
  if n.mastersHeld = n.isMaster then n
  else if n.isMaster then n.holdMasters
  else n.releaseMasters

/-! ### Taking part -/

/-- Carries out a consequence, as the node now stands. -/
def carryOut (n : Node) : Consequence → Node
  | .broadcast a => n.broadcast a
  | .promoted => (if n.isMaster then n.broadcast .iAmMaster else n).syncMasters
  | .demoted => n.syncMasters

/-- Carries out consequences in turn. -/
def carryOutAll (n : Node) (cs : List Consequence) : Node := cs.foldl carryOut n

/-- Hears a message of the election. Gives what has to be carried out. -/
def hear (n : Node) (e : Envelope) (now : Instant) : Node × List Consequence :=
  match n.candidate.process (e.isFrom n.setup.service) e.sender e.action now with
  | .ok (candidate, cs) => ({ n with candidate }, cs)
  | .error f => (n.report (.line .warning (f.message ++ " from " ++ e.sender) "negotiation"), [])

/-- Looks whether a poll of the election is due. Gives what has to be announced. -/
def tick (n : Node) (now : Instant) (draw : Nat) : Node × Option Announcement :=
  let (candidate, a) := n.candidate.poll now draw
  ({ n with candidate }, a)

/-- Polls the election. Gives what was announced. -/
def poll (n : Node) (now : Instant) (draw : Nat) : Node × Option Announcement :=
  match n.tick now draw with
  | (n, some a) => (n.broadcast a, some a)
  | (n, none) => (n, none)

/-- Makes the node master and announces it. `none` if it is master already. -/
def startMaster (n : Node) (now : Instant) : Option Node :=
  (n.candidate.activate now).map fun candidate =>
    ({ n with candidate }.broadcast .iAmMaster).syncMasters

/-- Resigns as master and asks the others to elect another one. `none` if the node is not master. -/
def stopMaster (n : Node) (now : Instant) : Option Node :=
  (n.candidate.deactivate now).map fun candidate =>
    ({ n with candidate }.broadcast .resyncMaster).syncMasters

end Node

end CommandMesh
