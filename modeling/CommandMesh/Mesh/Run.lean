import CommandMesh.Mesh.Step

/-!
# `CommandMesh.Mesh.Run`: a mesh over time

Time stands still while tasks can go on. When none can, the clock moves to the next instant at which
a wait ends. `Mesh.runUntil` goes on like that to a given instant or until a condition holds. The
fuel bounds the number of steps, and only a mesh that sends messages to itself without end can use
it up.

This is one way in which a mesh may go, the one in which what was queued first is taken up first. It
is what makes a mesh run; what is proved about meshes is about any order.

The rest is what a host can do with a mesh: change a node from outside, start and drop tasks, cancel
tokens, begin calls and put a mesh together of its nodes.
-/

set_option autoImplicit false

namespace CommandMesh

namespace Mesh

/-- The steps that are made at most before a mesh is given up. -/
def patience : Nat := 1000000000

/-- Moves the clock and queues what waited for that time. -/
def moveTo (m : Mesh) (t : Instant) : Mesh := { m with now := max m.now t }.wake

/-- Goes on until the condition holds, or until nothing is left to do up to the instant `limit`. -/
def runWith (stop : Mesh → Bool) (limit : Instant) : (fuel : Nat) → Mesh → Mesh
  | 0, m => m
  | fuel + 1, m =>
    if stop m then m
    else
      match m.step? with
      | some m => runWith stop limit fuel m
      | none =>
        match m.nextDeadline? with
        | some t =>
          if t ≤ limit then runWith stop limit fuel (m.moveTo t) else m.moveTo limit
        | none => m.moveTo limit

/-- Goes on until the condition holds, or until nothing is left to do up to the instant `limit`. -/
def runUntil (m : Mesh) (limit : Instant) (stop : Mesh → Bool) : Mesh :=
  runWith stop limit patience m

/-- Does everything that can be done at the present instant. -/
def idle (m : Mesh) : Mesh := m.runUntil m.now fun _ => false

/-- Lets time pass. -/
def advance (m : Mesh) (s : Span) : Mesh := m.runUntil (m.now + s) fun _ => false

/-- Goes on until a task has ended, for the span at most. -/
def await (m : Mesh) (task : Nat) (s : Span) : Mesh :=
  m.runUntil (m.now + s) fun m => (m.result? task).isSome

/-- Starts a task and goes on until it has ended. Gives its result. -/
def perform (m : Mesh) (work : Work) (s : Span) : Mesh × Option TaskResult :=
  let (m, task) := m.spawn work true
  let m := m.await task s
  (m.forget task, m.result? task)

/-- Changes a node from outside, and gives what the change gives. -/
def act {α : Type} (m : Mesh) (i : Nat) (default : α) (f : Node → Node × α) : Mesh × α :=
  let (m, a) := m.onNode i default f
  (m.settle, a)

/-- Cancels a token. -/
def cancel (m : Mesh) (token : Nat) : Mesh :=
  { m with cancelled := token :: m.cancelled }.wake

/-- The span after which nobody waits any more. -/
def forever : Span := 1000000000000000000000000000000

/-- Runs the schedules of that name in turn, each to its end, and counts them. -/
def runNamed (m : Mesh) (node : Nat) (name : String) : Mesh × Nat :=
  let schedules := (m.nodes[node]?.map (·.roster.timetable.registeredNamed name)).getD []
  (schedules.foldl (fun m n => (m.perform (.execute node n) forever).1) m, schedules.length)

/-- Drops the task of that number, if it has not ended. -/
def drop (m : Mesh) (task : Nat) : Mesh := m.halt fun number _ => number == task

/-! ### Calls -/

/-- Begins a call. Gives its task. -/
def beginCall (m : Mesh) (c : Call) : Mesh × Nat :=
  m.spawn (.call ⟨c, m.now, { lastId := c.letter.options.correlation }⟩) true

/-- A task that ended as it began. -/
def ended (m : Mesh) (r : TaskResult) : Mesh × Nat :=
  ({ m with next := m.next + 1, results := (m.next, r) :: m.results }, m.next)

/-- Begins a call that blocks its thread. Where that is not allowed the call fails at once. -/
def beginBlockingCall (m : Mesh) (c : Call) (severalThreads : Bool) : Mesh × Nat :=
  match m.nodes[c.node]? with
  | none => m.beginCall c
  | some n =>
    match n.allowBlocking severalThreads with
    | .error f => m.ended (.called ⟨.error f, 0⟩)
    | .ok () => m.beginCall c

/-- How a call ended, if it has. -/
def callEnd? (m : Mesh) (task : Nat) : Option CallEnd :=
  match m.result? task with
  | some (.called c) => some c
  | _ => none

/-! ### Putting a mesh together -/

/-- Connects a node to a bus if its link is the bus. Gives the connection. -/
def connect (bus : Bus) (n : Node) : Bus × Option Nat :=
  match n.setup.link with
  | .bus =>
    let (bus, c) := bus.connect n.setup.service
    (bus, some c)
  -- A link that is down brings nothing either.
  | .dead _ => (bus, none)

/-- Connects nodes to a bus in their order. Gives the connection of each node that has one. -/
def connectAll (nodes : List Node) : Mesh × List (Option Nat) :=
  let (bus, connections) := nodes.foldl
    (fun (bus, cs) n =>
      let (bus, c) := connect bus n
      (bus, cs ++ [c]))
    (({} : Bus), [])
  ({ nodes, bus }, connections)

/-- Starts to take up what a connection receives on behalf of a node. -/
def listen (m : Mesh) (node connection : Nat) : Mesh := m.launch (.listen node connection)

end Mesh

end CommandMesh
