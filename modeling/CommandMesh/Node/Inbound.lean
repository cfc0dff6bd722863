import CommandMesh.Node.Mastership

/-!
# `CommandMesh.Node.Inbound`: messages that come in

A message goes through three steps, between which other messages may be handled: `accept` finds the
route, the handler runs, and `conclude` sends what the handler gave. A handler that fails leads to a
fault: the log gets the details, and a sender that wants an answer gets the tracking id only.

The handler of the route that was found runs even if the route is removed meanwhile. A call is
counted as the route is found and a failure as the handler has failed, so a message that is being
handled has been counted once. Answers are sent in the order in which the handler gave them, and one
that cannot be sent is logged and does not keep the others back.
-/

set_option autoImplicit false

namespace CommandMesh

/-- What became of a message. -/
inductive Disposition where
  /-- A handler ran and gave these messages. -/
  | handled (responses : List Envelope)
  /-- No route matches the header. -/
  | unresolved
  /-- The handler failed. Details are logged under the tracking id. -/
  | faulted (trackingId : String)
deriving DecidableEq

/-- What is to be done with a message once its route was looked for. -/
inductive Acceptance where
  | unresolved
  /-- The handler panicked when it was called, and whoever called it panics with it. -/
  | escaped
  /-- The handler is to run. -/
  | handling (route : Route Handler) (request : Request)

namespace Node

/-! ### Before the handler -/

/-- Finds the route of a message. -/
def accept (n : Node) (e : Envelope) (now : Instant) : Node × Acceptance :=
  let (router, found) := n.roster.router.resolve e.header
  let n := { n with roster := { n.roster with router } }
  match found with
  | none =>
    (n.report (.line .debug
      ("No handler for " ++ e.header.text ++ " on '" ++ n.setup.name ++ "'") "routing"),
      .unresolved)
  | some route =>
    let n := { n with roster := { n.roster with
      router := n.roster.router.count route.number (·.invoked now) } }
    let request : Request := ⟨e, n.setup.service, n.setup.format⟩
    if route.handler.refuses request then (n, .escaped) else (n, .handling route request)

/-! ### The handler -/

/-- Takes a message as the answer to a request. -/
def takeAnswer (n : Node) (e : Envelope) : Node :=
  match e.inReplyTo with
  | some id => { n with waitlist := (n.waitlist.complete id e).getD n.waitlist }
  | none => n

/-- Counts a run of a handler of the host and gives the run. -/
def startRun (n : Node) (h : HostHandler) (r : Request) : Node × HandlerRun :=
  let count := (n.runs.lookup h.meter).getD 0 + 1
  let n := { n with runs := (h.meter, count) :: n.runs.filter (·.1 != h.meter) }
  let n := match h.tag with
    | some tag => { n with roster := n.roster.record [.called tag count] }
    | none => n
  (n, h.run count r)

/-- Begins to handle a message. What the node handles itself is done at once. -/
def handle (n : Node) (h : Handler) (r : Request) (now : Instant) : Node × HandlerRun :=
  match h with
  | .answers => (n.takeAnswer r.message, ⟨0, pure (.ok [])⟩)
  | .election =>
    let (n, cs) := n.hear r.message now
    (n.carryOutAll cs, ⟨0, pure (.ok [])⟩)
  | .host h => n.startRun h r

/-! ### After the handler -/

/-- Tells the host of a fault, if it wants to know. -/
def tellOfFault (n : Node) (route : Route Handler) (e : Envelope) (f : Fault) : Node :=
  match route.handler with
  | .host h =>
    if h.watched then { n with roster := n.roster.record [.faulted e.key f.text] } else n
  | .answers | .election => n

/-- Sends what a handler gave, in its order. -/
def emitAll (n : Node) (e : Envelope) (responses : List Envelope) : Node :=
  responses.foldl
    (fun n r => n.emitOrReport r ("Failed to emit reply to " ++ e.header.text)) n

/-- Deals with a handler that failed. -/
def fault (n : Node) (route : Route Handler) (e : Envelope) (f : Fault) : Node × String :=
  let n := { n with roster := { n.roster with
    router := n.roster.router.count route.number Tally.failed } }
  let (n, id) := n.reportFault
    ("Handler " ++ route.pattern.text ++ " failed on " ++ e.header.text) f.text
  let n := n.tellOfFault route e f
  -- The sender gets to know the tracking id and nothing else.
  let (n, reply) := n.draw (e.reply n.setup.service faultStatus (faultText id))
  match reply with
  | some reply =>
    (n.emitOrReport reply ("Failed to emit fault reply to " ++ e.header.text), id)
  | none => (n, id)

/-- Deals with what a handler gave. -/
def conclude (n : Node) (route : Route Handler) (e : Envelope)
    (result : Except Fault (List Envelope)) : Node × Disposition :=
  match result with
  | .ok responses => (n.emitAll e responses, .handled responses)
  | .error f =>
    let (n, id) := n.fault route e f
    (n, .faulted id)

end Node

end CommandMesh
