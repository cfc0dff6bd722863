import CommandMesh.Failure
import CommandMesh.Message.Envelope

/-!
# `CommandMesh.Waitlist`: requests that wait for their answer

A `Waitlist` holds the requests of a node that have no answer yet, under the normal form of their
correlation ids. A request leaves the list once, by `settle`: with its answer, because its time is
up, or because it was cancelled. A caller that waits gets a ticket, under which the outcome is kept
until it collects it.

Ids may be used again once their request is off the list; tickets are never used again. So a caller
asks by its ticket and cannot take the outcome of another request, while whoever answers, cancels or
sweeps goes by ids and means the request that is there now.

An answer is taken if its request waits, whenever it comes: time is up only when a sweep finds it
so. Each operation is one step, so an answer, a cancellation and a sweep at the same time come in
some order and the first one settles the request.
-/

set_option autoImplicit false

namespace CommandMesh

/-- How a request ended. -/
inductive Outcome where
  | answered (answer : Envelope)
  | timedOut
  | cancelled
deriving DecidableEq

/-- A request without an answer. -/
structure Waiting where
  /-- The correlation id in normal form. -/
  id : String
  request : Envelope
  since : Instant
  ttl : Span
  /-- What the caller collects the outcome with; `none` if nobody waits for it. -/
  ticket : Option Nat
deriving DecidableEq

namespace Waiting

/-- Whether the request has waited for longer than its time. -/
def isExpired (w : Waiting) (now : Instant) : Bool := w.ttl < now - w.since

end Waiting

/-- The requests without an answer, and the outcomes that were not collected yet. -/
structure Waitlist where
  pending : List Waiting := []
  nextTicket : Nat := 0
  outcomes : List (Nat × Outcome) := []

namespace Waitlist

/-- The request with this id in normal form. -/
def find? (w : Waitlist) (id : String) : Option Waiting := w.pending.find? (·.id == id)

/-- Whether a request with this id waits. -/
def contains (w : Waitlist) (id : String) : Bool := (w.find? (Text.correlationForm id)).isSome

/-- Adds a request. One that is awaited gets a ticket. An id that waits already is refused. -/
def register (w : Waitlist) (now : Instant) (id : String) (request : Envelope) (ttl : Span)
    (awaited : Bool) : Except Failure (Waitlist × Option Nat) :=
  let id := Text.correlationForm id
  match w.find? id with
  | some _ => .error (.duplicateCorrelation id)
  | none =>
    -- A request that nobody awaits is listed all the same, until it is answered or its time is up.
    let ticket := if awaited then some w.nextTicket else none
    .ok ({ w with
            pending := w.pending ++ [⟨id, request, now, ttl, ticket⟩]
            nextTicket := if awaited then w.nextTicket + 1 else w.nextTicket },
      ticket)

/-- Keeps an outcome for the caller of a request, if there is one. -/
def deliver (w : Waitlist) (r : Waiting) (o : Outcome) : Waitlist :=
  match r.ticket with
  | none => w
  | some ticket => { w with outcomes := w.outcomes ++ [(ticket, o)] }

/-- Ends the request with this id in normal form, if it waits. -/
def settle (w : Waitlist) (id : String) (o : Outcome) : Option Waitlist :=
  (w.find? id).map fun r => { w with pending := w.pending.eraseP (·.id == id) }.deliver r o

/-- Ends a request with its answer, if it waits. -/
def complete (w : Waitlist) (id : String) (answer : Envelope) : Option Waitlist :=
  w.settle (Text.correlationForm id) (.answered answer)

/-- Ends a request for its caller, if it waits. -/
def cancel (w : Waitlist) (id : String) : Option Waitlist :=
  w.settle (Text.correlationForm id) .cancelled

/-- Ends requests in turn, and counts those that waited. -/
def settleEach (settle : Waitlist → String → Option Waitlist) :
    List String → Waitlist → Waitlist × Nat
  | [], w => (w, 0)
  | id :: rest, w =>
    match settle w id with
    | some w =>
      let (w, n) := settleEach settle rest w
      (w, n + 1)
    | none => settleEach settle rest w

/-- Ends every request whose time is up, and counts them. -/
def sweep (w : Waitlist) (now : Instant) : Waitlist × Nat :=
  w.settleEach (fun w id => w.settle id .timedOut)
    ((w.pending.filter (·.isExpired now)).map (·.id))

/-- Cancels every request as its caller would, and counts them. -/
def shutdown (w : Waitlist) : Waitlist × Nat := w.settleEach cancel (w.pending.map (·.id))

/-- The outcome of a ticket, if there is one. -/
def outcome? (w : Waitlist) (ticket : Nat) : Option Outcome := w.outcomes.lookup ticket

/-- The list without the outcome of a ticket, once the caller has taken it or has gone. -/
def discard (w : Waitlist) (ticket : Nat) : Waitlist :=
  { w with outcomes := w.outcomes.filter (·.1 != ticket) }

end Waitlist

end CommandMesh
