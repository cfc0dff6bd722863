import CommandMesh.Message.Request

/-!
# `CommandMesh.Node.Handler`: what a route does with a message

A node answers some messages itself: answers to its own requests, and announcements of the election.
All others go to handlers of the host, of which only the conduct is known. A handler gives the
messages that it wants sent, or fails with a `Fault`.

A handler of the host is called first and gives a run, which lasts for a while and has a result in
the end. It may panic at either time, and it makes a difference when: a panic in a run is a fault
like any other, a panic at the call takes the one with it who has called. What a run gives may
depend on how many runs there were before, on the request and on identifiers that it draws, but on
nothing else of the node. Handlers of the host do not call back into the node.
-/

set_option autoImplicit false

namespace CommandMesh

/-- Why the handling of a message failed. -/
inductive Fault where
  /-- An error of the host, with what was being done when it arose, outermost first. -/
  | raised (causes : List String)
  /-- The node was misused. -/
  | misuse (f : Failure)
  /-- The handler panicked while it ran, with that text. -/
  | panicked (payload : String)
  /-- The handler panicked while it ran, with something that is no text. -/
  | aborted
deriving DecidableEq

namespace Fault

/-- The fault in words. What is wrong with a payload is left out. -/
def text : Fault → String
  | raised causes => ": ".intercalate causes
  | misuse (.codec _) => "Payload codec error"
  | misuse f => f.message
  | panicked payload =>
    "handler aborted: task # panicked with message " ++ Text.quoted payload
  | aborted => "handler aborted: task # panicked"

end Fault

/-- One run of a handler of the host. -/
structure HandlerRun where
  /-- How long the run lasts. -/
  delay : Span
  /-- What the run gives in the end. -/
  result : Fresh (Except Fault (List Envelope))

/-- A handler of the host. -/
structure HostHandler where
  /-- The meter that counts the runs of the handler. -/
  meter : Nat
  /-- Under what name runs are noted in the journal, if they are. -/
  tag : Option String
  /-- Whether the host is told of faults. -/
  watched : Bool
  /-- Whether the handler panics when it is called, before it gives a run. -/
  refuses : Request → Bool
  /-- The n-th run, counted from one. -/
  run : Nat → Request → HandlerRun

/-- What a route does with a message. -/
inductive Handler where
  /-- Takes the message as the answer to a request of the node. -/
  | answers
  /-- Takes the message as an announcement of the election. -/
  | election
  | host (h : HostHandler)

namespace Handler

/-- Whether the handler panics when it is called. -/
def refuses : Handler → Request → Bool
  | host h, r => h.refuses r
  | answers, _ | election, _ => false

end Handler

/-- A handler with the headers that it listens to. -/
structure Definition where
  pattern : RoutePattern
  handler : Handler

end CommandMesh
