import CommandMesh.Message.Routing
import CommandMesh.Time

/-!
# `CommandMesh.Router.Basic`: routes and what is counted about them

A `Route` ties a handler to a pattern of headers. Routes are told apart by number, so two routes
with the same pattern stay two routes. A `Tally` counts how often the handler of a route was called
and how often it failed.

Handlers are of any type, since nothing about routing depends on them. A route that belongs to the
node itself has a name, and a route of the host has none. Tallies count without bound; what is told
about them are words of 64 bits.
-/

set_option autoImplicit false

namespace CommandMesh

/-- A handler and the headers that it listens to. -/
structure Route (H : Type) where
  /-- Tells this route from every other one of its table. -/
  number : Nat
  pattern : RoutePattern
  handler : H
  /-- A name for routes that belong to the node itself. -/
  reference : Option String
  /-- Whether the route exists on the master only. -/
  masterOnly : Bool

/-- What is counted about a route. -/
structure Tally where
  invocations : Nat := 0
  failures : Nat := 0
  lastInvoked : Option Instant := none
deriving DecidableEq

namespace Tally

/-- Counts a call. -/
def invoked (t : Tally) (now : Instant) : Tally :=
  { t with invocations := t.invocations + 1, lastInvoked := some now }

/-- Counts a failure. -/
def failed (t : Tally) : Tally := { t with failures := t.failures + 1 }

end Tally

/-- What a node tells about one of its routes. Times are in milliseconds. -/
structure RouteStats where
  pattern : String
  reference : Option String
  masterOnly : Bool
  invocations : UInt64
  failures : UInt64
  lastInvoked : Option UInt64
deriving DecidableEq

/-- The layout of what is told about a route. -/
def RouteStats.wire : Wire .value RouteStats :=
  .iso
    (.record <| .need "key" .text <| .need "reference_id" (.option .text)
      <| .need "is_master_job" .bool <| .need "invocations" .word64 <| .need "failures" .word64
      <| .need "last_invoked_ms" (.option .word64) .done)
    (fun (p, r, m, i, f, l, ()) => ⟨p, r, m, i, f, l⟩)
    (fun s => (s.pattern, s.reference, s.masterOnly, s.invocations, s.failures, s.lastInvoked, ()))
    (fun _ => rfl) (fun _ => rfl)

namespace Route

variable {H : Type}

/-- What is told about a route with this tally. -/
def stats (r : Route H) (t : Tally) : RouteStats where
  pattern := r.pattern.text
  reference := r.reference
  masterOnly := r.masterOnly
  invocations := UInt64.ofNat t.invocations
  failures := UInt64.ofNat t.failures
  lastInvoked := t.lastInvoked.map fun i => UInt64.ofNat (Span.toMillis i)

/-- The route with its fields spelt out. -/
def debugText (r : Route H) : String :=
  "HandlerEntry \x7b key: " ++ r.pattern.debugText ++ ", reference_id: "
    ++ Text.quotedOption r.reference ++ ", is_master_job: " ++ toString r.masterOnly ++ ", .. \x7d"

end Route

end CommandMesh
