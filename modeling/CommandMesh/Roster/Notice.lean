import CommandMesh.Message.Routing

/-!
# `CommandMesh.Roster.Notice`: what observers are told

Hosts subscribe observers to a node. Each of them is told of every route and every job that comes or
goes. An observer may refuse a notice; that changes nothing for the node or for other observers.

An `Event` is something that a host can see of a node: a notice that an observer got, a hook or a
handler that was called, a fault that an error handler was told of. Notices name a route by its
pattern and a job by its name, each with its restriction to the master, and neither by its number.
-/

set_option autoImplicit false

namespace CommandMesh

/-- Something that observers are told. -/
inductive Notice where
  | routeAdded (pattern : RoutePattern) (masterOnly : Bool)
  | routeRemoved (pattern : RoutePattern) (masterOnly : Bool)
  | jobAdded (name : String) (masterOnly : Bool)
  | jobRemoved (name : String) (masterOnly : Bool)
deriving DecidableEq

/-- Somebody who is told of routes and jobs. -/
structure Observer where
  label : String
  /-- Whether the observer keeps the notices that it gets. -/
  attentive : Bool
  /-- Whether the observer answers a notice with an error. -/
  refuses : Notice → Bool

/-- When a hook of a job is called. -/
inductive HookTime where
  | tearUp
  | tearDown
deriving DecidableEq

/-- Something that a host sees of a node. -/
inductive Event where
  /-- An observer, by its place among the observers and its label, got a notice. -/
  | noticed (place : Nat) (label : String) (notice : Notice)
  /-- A hook of a job was called on behalf of the schedule of that number. -/
  | hooked (time : HookTime) (schedule : Nat) (job : String) (masterOnly : Bool)
  /-- A handler with that tag was called for the n-th time. -/
  | called (tag : String) (n : Nat)
  /-- An error handler was told how the handling of a message failed. -/
  | faulted (key fault : String)
deriving DecidableEq

/-- What becomes of a notice: every attentive observer keeps it, whatever any of them answers. -/
def Notice.tell (n : Notice) (observers : List Observer) : List Event :=
  (observers.zipIdx.filter (·.1.attentive)).map fun (o, place) => .noticed place o.label n

end CommandMesh
