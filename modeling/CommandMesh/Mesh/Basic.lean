import CommandMesh.Bus
import CommandMesh.Mesh.Task

/-!
# `CommandMesh.Mesh.Basic`: nodes, a bus, a clock and tasks

A `Mesh` is some nodes on one bus, together with the tasks that are under way. Tasks that can go on
are queued and taken up in that order. What is left to chance, such as jitter, is read from a stream
that the mesh carries, so a mesh behaves the same whenever it is run.

A task that is told to stop does so when it is taken up, and until then it stays where it is.

`Mesh.settle` follows every step: it moves what nodes have handed to their links onto the bus, keeps
the tasks that drive schedules in line with what is registered, and queues the tasks whose wait is
over.

A step is atomic. A task changes its node and the mesh without another task in between, up to the
point where it waits, and of two tasks that can go on either may come first. Where tasks of a host
run on several threads at once, what they do to shared state is in some such order.

Nodes are known by their places in the list, tasks and connections by numbers that are not used
again, and tokens by numbers that the host chooses.
-/

set_option autoImplicit false

namespace CommandMesh

/-- Some nodes on a bus. -/
structure Mesh where
  now : Instant := 0
  nodes : List Node
  bus : Bus := {}
  /-- Tasks that have not ended, by ascending number. -/
  tasks : List Task := []
  /-- The tasks that are taken up next, in order. -/
  queue : List Nat := []
  /-- The number of the next task. -/
  next : Nat := 0
  /-- Results that somebody will ask for. -/
  results : List (Nat × TaskResult) := []
  /-- The tokens that were cancelled. -/
  cancelled : List Nat := []
  /-- The schedules that the clock drives or has driven, by node and number. -/
  driven : List (Nat × Nat) := []
  /-- The nodes whose inside messages are taken up. -/
  pumped : List Nat := []
  /-- What random choices give, in their order. -/
  chance : Nat → Nat := fun _ => 0
  /-- How many random choices were made. -/
  choices : Nat := 0

namespace Mesh

/-! ### Nodes -/

/-- Changes a node, and gives what the change gives. -/
def onNode {α : Type} (m : Mesh) (i : Nat) (default : α) (f : Node → Node × α) : Mesh × α :=
  match m.nodes[i]? with
  | none => (m, default)
  | some n =>
    let (n, a) := f n
    ({ m with nodes := m.nodes.set i n }, a)

/-- Changes a node. -/
def updateNode (m : Mesh) (i : Nat) (f : Node → Node) : Mesh :=
  { m with nodes := m.nodes.modify i f }

/-- Changes the timetable of a node. -/
def updateTimetable (m : Mesh) (i : Nat) (f : Timetable → Timetable) : Mesh :=
  m.updateNode i fun n => { n with roster := { n.roster with timetable := f n.roster.timetable } }

/-- A schedule of a node. -/
def schedule? (m : Mesh) (i n : Nat) : Option Schedule :=
  m.nodes[i]?.bind fun node => node.roster.timetable.find? n

/-- Makes a random choice. -/
def choose (m : Mesh) : Mesh × Nat := ({ m with choices := m.choices + 1 }, m.chance m.choices)

/-! ### Tasks -/

/-- Starts a task. Gives its number. -/
def spawn (m : Mesh) (work : Work) (kept : Bool) : Mesh × Nat :=
  ({ m with
      tasks := m.tasks ++ [{ number := m.next, work, wait := none, kept }]
      queue := m.queue ++ [m.next]
      next := m.next + 1 },
    m.next)

/-- Starts a task whose result nobody asks for. -/
def launch (m : Mesh) (work : Work) : Mesh := (m.spawn work false).1

/-- Starts tasks in turn. -/
def launchAll (m : Mesh) (works : List Work) : Mesh := works.foldl launch m

/-- The result of a task, if it has ended. -/
def result? (m : Mesh) (task : Nat) : Option TaskResult := m.results.lookup task

/-- Takes the result of a task away. -/
def forget (m : Mesh) (task : Nat) : Mesh :=
  { m with results := m.results.filter (·.1 != task) }

/-- The task of that number, if it has not ended. -/
def task? (m : Mesh) (number : Nat) : Option Task := m.tasks.find? (·.number == number)

/-! ### Waiting -/

/-- Whether a token is cancelled. -/
def isCancelled (m : Mesh) (token : Option Nat) : Bool := token.any (m.cancelled.contains ·)

/-- Whether a wait is over. -/
def isOver (m : Mesh) : Wait → Bool
  | .time t => t ≤ m.now
  | .result task => (m.result? task).isSome
  | .message connection =>
    !(m.bus.inbox connection).queue.isEmpty || !m.bus.isOpen connection
  | .loopback node => m.nodes[node]?.any (!·.loopback.isEmpty)
  | .outcome node ticket token =>
    m.nodes[node]?.any (fun n => (n.waitlist.outcome? ticket).isSome) || m.isCancelled token
  | .timeOr t token => t ≤ m.now || m.isCancelled token

/-- Lets such tasks wait no more and queues those that did. They may be told to stop besides. -/
def rouse (m : Mesh) (p : Task → Bool) (halts : Bool) : Mesh :=
  { m with
    tasks := m.tasks.map fun t =>
      if p t then { t with wait := none, halted := t.halted || halts } else t
    queue := m.queue ++ (m.tasks.filter fun t => t.wait.isSome && p t).map (·.number) }

/-- Queues the tasks whose wait is over. -/
def wake (m : Mesh) : Mesh := m.rouse (fun t => t.wait.any m.isOver) false

/-- Tells the tasks that are about such work to stop. -/
def halt (m : Mesh) (p : Nat → Work → Bool) : Mesh := m.rouse (fun t => p t.number t.work) true

/-- The time that a wait ends at, if it ends at a time. -/
def Wait.deadline? : Wait → Option Instant
  | .time t | .timeOr t _ => some t
  | _ => none

/-- The next time at which a wait ends. -/
def nextDeadline? (m : Mesh) : Option Instant :=
  (m.tasks.filterMap fun t => t.wait.bind Wait.deadline?).min?

/-! ### Keeping things in line -/

/-- Moves what nodes have handed to their links onto the bus. -/
def flush (m : Mesh) : Mesh :=
  { m with
    bus := m.nodes.foldl (fun b n => n.outbox.foldl Bus.submit b) m.bus
    nodes := m.nodes.map fun n => { n with outbox := [] } }

/-- Whether the clock should drive a schedule. -/
def shouldDrive (m : Mesh) (i n : Nat) : Bool :=
  m.nodes[i]?.any fun node =>
    node.roster.timetable.scheduler == .timed && node.roster.timetable.registered.contains n

/-- Tells the tasks that drive schedules that are not registered any more to stop. -/
def stopDriving (m : Mesh) : Mesh :=
  m.halt fun _ w => w.drives?.any fun (i, n) => !m.shouldDrive i n

/-- The schedules that are registered and were never driven. -/
def undriven (m : Mesh) : List (Nat × Nat) :=
  m.nodes.zipIdx.flatMap fun (node, i) =>
    if node.roster.timetable.scheduler = .timed then
      (node.roster.timetable.registered.map fun n => (i, n)).filter (!m.driven.contains ·)
    else []

/-- Starts to drive the schedules that are newly registered. -/
def startDriving (m : Mesh) : Mesh :=
  { m.launchAll (m.undriven.map fun (i, n) => .drive i n) with driven := m.driven ++ m.undriven }

/-- The nodes that were started and whose inside messages are not taken up yet. -/
def unpumped (m : Mesh) : List Nat :=
  (m.nodes.zipIdx.filter fun (n, i) => n.pumping && !m.pumped.contains i).map (·.2)

/-- Starts to take up the messages inside nodes that were started. -/
def startPumping (m : Mesh) : Mesh :=
  { m.launchAll (m.unpumped.map .pump) with pumped := m.pumped ++ m.unpumped }

/-- Brings everything in line after a step. -/
def settle (m : Mesh) : Mesh := m.flush.stopDriving.startPumping.startDriving.wake

end Mesh

end CommandMesh
