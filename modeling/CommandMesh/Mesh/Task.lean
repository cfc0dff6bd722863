import CommandMesh.Node.Lifecycle

/-!
# `CommandMesh.Mesh.Task`: work that waits in between

What goes on in a mesh is cut into tasks. A task runs until it has to wait for something, and says
for what; it is taken up again once that has come. `Work` names the points at which tasks wait, so a
task is data and the whole of a mesh is a value.

Each point carries all that is needed to go on from it. A message that is handled takes two tasks,
one that finds its route and later concludes it, and one in which the handler runs; a run of a
schedule takes two as well, one that calls the schedule and waits and one for its body. The second
ends with a result that the first waits for, so that a panic in it stays there.

A wait is for one thing or for the first of two. A call waits for its outcome or for its token, a
pause between attempts for its time or for the token.
-/

set_option autoImplicit false

namespace CommandMesh

/-- A request that a host sends and whose response it wants. -/
structure Call where
  node : Nat
  letter : Letter
  /-- What the host cancels the request by, if it can. -/
  token : Option Nat
  /-- Whether the request is repeated when no answer comes in time. -/
  repeated : Bool
  /-- Reads the body of an answer. -/
  read : List UInt8 → Except Failure Json

/-- How a call ended. -/
structure CallEnd where
  result : Except Failure (Response Json)
  took : Span

/-- Where a call stands. -/
structure CallState where
  call : Call
  since : Instant
  retry : Retry

/-- A point at which a task is taken up. -/
inductive Work where
  /-- Take up the messages that a connection of the bus has received. -/
  | listen (node connection : Nat)
  /-- Take up the messages that stay inside the node. -/
  | pump (node : Nat)
  /-- Find the route of a message. -/
  | accept (node : Nat) (e : Envelope)
  /-- Run a handler. -/
  | handle (node : Nat) (h : Handler) (r : Request)
  /-- The time of a handler's run is over. -/
  | handled (node : Nat) (run : HandlerRun)
  /-- The handler of a message has ended, as the given task says. -/
  | conclude (node : Nat) (e : Envelope) (route : Route Handler) (task : Nat)
  /-- Begin to drive a schedule by the clock. -/
  | drive (node schedule : Nat)
  /-- The first delay of a schedule is over. -/
  | driveFirst (node schedule : Nat)
  /-- A point of the schedule's grid has come. -/
  | driveTick (node schedule : Nat) (period : Span) (point : Instant)
  /-- A run that the clock waits for has ended, as the given task says. The next point of the grid
  is given, if there is one. -/
  | driveRun (node schedule task : Nat) (next : Option (Span × Instant))
  /-- Run a schedule once. -/
  | execute (node schedule : Nat)
  /-- A run has ended, as the given task says. -/
  | executed (node schedule task : Nat)
  /-- Do what a job does. -/
  | body (node : Nat) (b : Body)
  /-- The time of a run is over. -/
  | bodyDone (node meter : Nat) (e : Ending)
  /-- Make an attempt at a request. -/
  | call (c : CallState)
  /-- A request waits for its outcome. Once it was withdrawn, its token does not count any more. -/
  | callWaits (c : CallState) (p : Pending) (withdrawn : Bool)
  /-- The time before another attempt is over. -/
  | callAgain (c : CallState)

/-- What a task waits for. -/
inductive Wait where
  | time (t : Instant)
  /-- The result of a task. -/
  | result (task : Nat)
  /-- A message on a connection, or the end of the connection. -/
  | message (connection : Nat)
  /-- A message inside a node. -/
  | loopback (node : Nat)
  /-- The outcome of a request, or that the token is cancelled. -/
  | outcome (node ticket : Nat) (token : Option Nat)
  /-- A time, or that the token is cancelled. -/
  | timeOr (t : Instant) (token : Option Nat)

/-- What a task leaves behind. -/
inductive TaskResult where
  | finished
  /-- A handler gave this. -/
  | handled (result : Except Fault (List Envelope))
  /-- A run of a body ended like this. -/
  | ended (e : Ending)
  /-- This became of a message. -/
  | disposed (d : Disposition)
  | called (c : CallEnd)
  /-- The task panicked. -/
  | died

/-- A task. -/
structure Task where
  number : Nat
  work : Work
  /-- What the task waits for; `none` if it is to be taken up next. -/
  wait : Option Wait
  /-- Whether somebody will ask for the result. -/
  kept : Bool
  /-- Whether the task was told to stop. It does so when it is taken up. -/
  halted : Bool := false

namespace Work

/-- The schedule that a task drives by the clock. -/
def drives? : Work → Option (Nat × Nat)
  | .drive i n | .driveFirst i n | .driveTick i n _ _ | .driveRun i n _ _ => some (i, n)
  | _ => none

/-- The run of a schedule that a task waits for, and the task of its body. -/
def runs? : Work → Option (Nat × Nat × Nat)
  | .driveRun i n task _ | .executed i n task => some (i, n, task)
  | _ => none

end Work

/-- How far a task got. -/
inductive Progress where
  | done (r : TaskResult)
  | waits (work : Work) (wait : Wait)

end CommandMesh
