import CommandMesh.Mesh.Run

/-!
# `CommandMesh.Mesh.Session`: a mesh worked by hand

A `Session` is a mesh whose host decides when nodes take up what the bus has brought them, as long
as no listener does it for them. `Session.pump` delivers until nothing is left, and `Session.round`
is one round of an election: time passes, every node polls, and everything is delivered.

The host has a connection of its own, on which it watches what goes over the bus.

Nodes poll and take up their messages in the order of their places, each until it has nothing left.
Like `Mesh.runUntil` these loops have fuel that only messages without end can use up. A node that a
listener serves takes its messages up by itself, and the host finds nothing to deliver there.
-/

set_option autoImplicit false

namespace CommandMesh

/-- A mesh worked by hand. -/
structure Session where
  mesh : Mesh
  /-- For each node the connection that the host serves. There is none if a listener serves it or if
  the node is not on the bus. -/
  served : List (Option Nat)
  /-- The connection of the host. -/
  watch : Nat

namespace Session

/-- The id under which the host watches the bus. -/
def watcher : String := "spy"

/-- Connects the nodes that are on the bus in their order, and the host after them. The input says
for each node whether a listener serves it. -/
def start (nodes : List (Node × Bool)) : Session :=
  let (mesh, connections) := Mesh.connectAll (nodes.map (·.1))
  let (bus, watch) := mesh.bus.connect watcher
  let served := (connections.zip nodes).map fun (c, n) => if n.2 then none else c
  let listened := (connections.zip nodes).zipIdx.filterMap fun ((c, n), i) =>
    if n.2 then c.map fun c => (i, c) else none
  let mesh := listened.foldl (fun m (i, c) => m.listen i c) { mesh with bus }
  { mesh, served, watch }

/-- Changes a node, and gives what the change gives. -/
def act {α : Type} (s : Session) (i : Nat) (default : α) (f : Node → Node × α) : Session × α :=
  let (mesh, a) := s.mesh.act i default f
  ({ s with mesh }, a)

/-! ### Taking up messages -/

/-- Takes what a connection has received. -/
def drain (s : Session) (connection : Nat) : Session × List Envelope :=
  let (es, bus) := s.mesh.bus.drain connection
  ({ s with mesh := { s.mesh with bus } }, es)

/-- Takes what a node has received and does nothing with it, if the host serves the node. -/
def inbox (s : Session) (i : Nat) : Session × Option (List Envelope) :=
  match s.served[i]? with
  | some (some c) =>
    let (s, es) := s.drain c
    (s, some es)
  | _ => (s, none)

/-- Lets a node process a message and waits for the end. -/
def process (s : Session) (i : Nat) (e : Envelope) : Session × Option Disposition :=
  match s.mesh.perform (.accept i e) Mesh.forever with
  | (mesh, some (.disposed d)) => ({ s with mesh }, some d)
  | (mesh, _) => ({ s with mesh }, none)

/-- Lets a node process the next message that it has received, if there is one. -/
def deliver? (s : Session) (i : Nat) : Option (Session × Envelope × Option Disposition) :=
  match (s.served[i]?.bind id).bind s.mesh.bus.receive? with
  | none => none
  | some (e, bus) =>
    let (s, d) := { s with mesh := { s.mesh with bus } }.process i e
    some (s, e, d)

/-- Delivers to a node until it has nothing left, and counts. -/
def deliverAll (i : Nat) : (fuel : Nat) → Session × Nat → Session × Nat
  | 0, r => r
  | fuel + 1, (s, count) =>
    match s.deliver? i with
    | none => (s, count)
    | some (s, _) => deliverAll i fuel (s, count + 1)

/-- Delivers to every node in turn until none has anything left, and counts. -/
def pumpWith : (fuel : Nat) → Session × Nat → Session × Nat
  | 0, r => r
  | fuel + 1, (s, count) =>
    let (s, more) := (List.range s.served.length).foldl
      (fun r i => deliverAll i Mesh.patience r) (s, 0)
    if more = 0 then (s, count) else pumpWith fuel (s, count + more)

/-- Delivers to every node in turn until none has anything left, and counts. -/
def pump (s : Session) : Session × Nat := pumpWith Mesh.patience (s, 0)

/-! ### Elections -/

/-- Lets a node poll the election. -/
def poll (s : Session) (i : Nat) : Session × Option Announcement :=
  let (mesh, draw) := s.mesh.choose
  { s with mesh }.act i none fun n => n.poll mesh.now draw

/-- Lets time pass, lets every node poll in turn, and delivers everything. Gives what each node
announced. -/
def round (s : Session) (t : Span) : Session × List (Option Announcement) :=
  let s := { s with mesh := s.mesh.advance t }
  let (s, announced) := (List.range s.served.length).foldl
    (fun (s, as) i =>
      let (s, a) := s.poll i
      (s, as ++ [a]))
    (s, [])
  (s.pump.1, announced)

/-- The standing of each node. -/
def standings (s : Session) : List Standing := s.mesh.nodes.map (·.candidate.standing)

end Session

end CommandMesh
