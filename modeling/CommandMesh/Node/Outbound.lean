import CommandMesh.Node.Basic

/-!
# `CommandMesh.Node.Outbound`: requests that go out

A request goes through three steps, between which other requests may be under way: `beginSend` puts
it on the waitlist and sends it, `resumeSend` takes its outcome or withdraws it, and `settleSend`
turns the outcome into a response; `continueSend` does the last two. Only misuse is a failure;
time-outs, cancellations and faults are responses with a status of their own.

A request is on the list before its message leaves, so an answer cannot come too early. If the
message cannot be sent the request is taken off again. A request that nobody waits for stays on the
list until it is answered or its time is up, and its outcome is kept for nobody.

A caller that waits looks at the outcome of its request and at its token. Where both have come,
which one it sees first is left open (`Glance`). It withdraws by the id of the request, and it may
be that another request has the id by then.

A `Retry` is where a repeated request stands between its attempts. Each attempt is a request of its
own with the same options, so one that names its id uses it for every attempt, and the others get
fresh ones.
-/

set_option autoImplicit false

namespace CommandMesh

/-- What is asked for with one request. -/
structure SendOptions where
  /-- The correlation id; a fresh one if there is none. -/
  correlation : Option String := none
  /-- How long to wait; as the policy says if nothing is said. -/
  wait : Option Span := none
  /-- Whether to go on without waiting for an answer. -/
  detached : Bool := false
  passage : Passage := .external
  priority : Option UInt8 := none

/-- A request to be sent. -/
structure Letter where
  channel : String
  kind : String
  action : String
  /-- The body, or why the payload could not be written. -/
  body : Except Failure (List UInt8)
  options : SendOptions := {}

/-- A request that waits for its answer. -/
structure Pending where
  /-- The correlation id in normal form. -/
  id : String
  ticket : Nat
  ttl : Span

/-- What a caller that waits looks at first. -/
inductive Glance where
  /-- Whether the request has an outcome. -/
  | outcome
  /-- Whether the request was cancelled. -/
  | cancellation
deriving DecidableEq

/-- How a request began. -/
inductive SendStart (α : Type) where
  | failed (f : Failure)
  /-- Nothing is waited for. -/
  | ended (r : Response α)
  | waits (p : Pending)

namespace Node

variable {α : Type}

/-- The status of an answer that gives none. -/
def okStatus : UInt16 := 200

/-- The status of a request that nobody waits for. -/
def acceptedStatus : UInt16 := 202

/-- The status of a request without an answer in time. -/
def timeoutStatus : UInt16 := 408

/-- The status of a request that was cancelled. -/
def cancelledStatus : UInt16 := 499

/-- A response that tells of a fault. -/
def faultResponse (n : Node) (id context error : String) : Node × Response α :=
  let (n, trackingId) := n.reportFault context error
  (n, ⟨id, faultStatus, faultText trackingId, none⟩)

/-- The response to a request that was cancelled. -/
def cancelledResponse (id : String) : Response α :=
  ⟨id, cancelledStatus, "Request cancelled", none⟩

/-- The message of a request with this body, under a key that is fresh if the request names none. -/
def requestMessage (n : Node) (l : Letter) (body : List UInt8) : Fresh Envelope := do
  let e ← Envelope.create l.channel l.kind l.action n.setup.service
  return { e with
    key := l.options.correlation.getD e.key
    priority := l.options.priority.getD e.priority
    returnAddress := some n.returnAddress
    loopback := l.options.passage == .internal
    body }

/-- Withdraws a request for its caller. -/
def cancelSend (n : Node) (id : String) : Node :=
  { n with waitlist := (n.waitlist.cancel id).getD n.waitlist }

/-- The node without the outcome of a ticket. -/
def discard (n : Node) (ticket : Nat) : Node :=
  { n with waitlist := n.waitlist.discard ticket }

/-- Withdraws a request that never left. Nobody collects its outcome. -/
def retractSend (n : Node) (id : String) (ticket : Option Nat) : Node :=
  let n := n.cancelSend id
  (ticket.map n.discard).getD n

/-- Puts the message of a request on the waitlist and sends it. -/
def dispatch (n : Node) (options : SendOptions) (e : Envelope) (now : Instant) :
    Node × SendStart α :=
  let id := Text.correlationForm e.key
  let ttl := options.wait.getD n.setup.policy.requestSpan
  match n.waitlist.register now id e ttl (!options.detached) with
  | .error f => (n, .failed f)
  | .ok (waitlist, ticket) =>
    let n := { n with waitlist }
    match n.emit e with
    | .error reason =>
      let (n, r) := (n.retractSend id ticket).faultResponse id "Dispatch failed" reason
      (n, .ended r)
    | .ok n =>
      match ticket with
      | none => (n, .ended ⟨id, acceptedStatus, "Accepted", none⟩)
      | some ticket => (n, .waits ⟨id, ticket, ttl⟩)

/-- Sends a request. -/
def beginSend (n : Node) (l : Letter) (now : Instant) : Node × SendStart α :=
  if !n.running then (n, .failed (.notStarted n.setup.name))
  else
    match l.body with
    | .error f => (n, .failed f)
    | .ok body =>
      let (n, e) := n.draw (n.requestMessage l body)
      n.dispatch l.options e now

/-- Takes the outcome of a request, if there is one. -/
def takeOutcome (n : Node) (p : Pending) : Node × Option Outcome :=
  match n.waitlist.outcome? p.ticket with
  | some o => (n.discard p.ticket, some o)
  | none => (n, none)

/-- Goes on with a request that waits. If its caller has cancelled, the request is withdrawn under
its id before the outcome is taken. Where an outcome has come as well, that is done only if the
caller looks at the cancellation first. -/
def resumeSend (n : Node) (p : Pending) (cancelled : Bool) (first : Glance) :
    Node × Option Outcome :=
  let settled := (n.waitlist.outcome? p.ticket).isSome
  if cancelled && (!settled || first == .cancellation) then (n.cancelSend p.id).takeOutcome p
  else n.takeOutcome p

/-- The response that an outcome stands for. `read` reads the body of an answer that has one. -/
def settleSend (n : Node) (read : List UInt8 → Except Failure α) (p : Pending) (o : Outcome) :
    Node × Response α :=
  match o with
  | .timedOut =>
    (n, ⟨p.id, timeoutStatus, "No response within " ++ Span.text p.ttl, none⟩)
  | .cancelled => (n, cancelledResponse p.id)
  | .answered e =>
    let r : Response α := ⟨p.id, e.status.getD okStatus, e.statusText.getD "OK", none⟩
    if e.body.isEmpty then (n, r)
    else
      match read e.body with
      | .ok a => (n, { r with payload := some a })
      | .error f => n.faultResponse p.id "Failed to decode response" (Fault.misuse f).text

/-- Goes on with a request that waits, and reads its answer if there is one. -/
def continueSend (n : Node) (read : List UInt8 → Except Failure α) (p : Pending) (cancelled : Bool)
    (first : Glance) : Node × Option (Response α) :=
  match n.resumeSend p cancelled first with
  | (n, none) => (n, none)
  | (n, some o) =>
    let (n, r) := n.settleSend read p o
    (n, some r)

/-- Says whether a thread may be blocked for a request. -/
def allowBlocking (n : Node) (severalThreads : Bool) : Except Failure Unit :=
  if !n.setup.policy.allowBlockingSend then .error .blockingSendDisabled
  else if !severalThreads then
    .error (.invalidArgument "blocking send needs a multi-threaded runtime")
  else .ok ()

end Node

/-! ### Repeated requests -/

/-- Where a repeated request stands. -/
structure Retry where
  /-- How many attempts were made. -/
  attempts : UInt32 := 0
  /-- The id of the latest attempt, or the one that was asked for. -/
  lastId : Option String

/-- What follows an attempt. -/
inductive RetryStep (α : Type) where
  | done (r : Response α)
  /-- Another attempt follows after that time. -/
  | pause (s : Span)

namespace Retry

variable {α : Type}

/-- The jitter that a random number asks for: at most that of the policy. -/
def jitter (p : RetryPolicy) (draw : Nat) : Span := .ofMillis (draw % (p.jitter.toNat + 1))

/-- Counts an attempt. -/
def attempt (r : Retry) : Retry := { r with attempts := r.attempts + 1 }

/-- What follows the response to an attempt. -/
def after (r : Retry) (p : RetryPolicy) (response : Response α) (draw : Nat) :
    Retry × RetryStep α :=
  let r := { r with lastId := some response.id }
  if !response.isTimeout || p.maxAttempts ≤ r.attempts then (r, .done response)
  else (r, .pause (p.backoffSpan r.attempts + jitter p draw))

/-- The response when the caller has cancelled: it has the id of the latest attempt, or a fresh one
if there is none. -/
def cancelled (r : Retry) : Fresh (Response α) := do
  let id ← match r.lastId with
    | some id => pure id
    | none => Supply.fresh
  return Node.cancelledResponse (Text.correlationForm id)

end Retry

end CommandMesh
