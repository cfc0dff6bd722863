import CommandMesh.Proofs.Node.Handling

/-!
# `CommandMesh.Proofs.Node.Faults`: what happens when a handler fails

A handler that fails is counted, its host is told, and the details go into the log. A sender that
wants an answer gets a reply that names the tracking id, and of the fault no more. A handler that
panics when it is called, before there is a run that could fail, does none of this: its call is
counted, and that is all.

A `Fault` is an error that a handler returned or the panic of its run; the two are treated alike
from here on, and nothing below tells them apart but the text that goes into the log. What the
handler sends on its way is not the matter of this module, nor is what its host does when it is
told: the call of an error handler is an entry of the journal, and its result leads nowhere.

`accept` and `conclude` are the two halves of dealing with a message, before and after the run of
its handler. For each of them there is one equation without case distinctions on how it is made
(`accept_of_some`, `conclude_error`), and what is claimed about faults is read off these. Since a
node may do anything between the two halves, the state before the second half is not the state after
the first; both equations hold of every node.

* `tally_count`: what is counted about a route is counted about no other.
* `accept_of_none`, `accept_of_some`: what happens before the handler runs.
* `conclude_error`, `faulted_conclude`: all that happens when it has failed.
* `faultReply_cases`: there is a reply exactly if one is wanted, and what is in it.
* `invocations_called`, `failures_conclude_error` and their companions: one call and one failure are
  counted, of the route in question.
-/

set_option autoImplicit false

namespace CommandMesh

/-- Whether the host is told of faults of the handler. -/
def Handler.isWatched : Handler → Bool
  | .host h => h.watched
  | .answers | .election => false

namespace Router

variable {H : Type}

/-- What is counted about a route is found in its tally. -/
theorem tally_count_self (t : Router H) (route : Nat) (f : Tally → Tally) :
    (t.count route f).tally route = f (t.tally route) := by
  simp [tally, count]

/-- An entry is found as before once those under another number are gone. -/
theorem lookup_filter_of_ne {α : Type} {n m : Nat} (h : n ≠ m) (l : List (Nat × α)) :
    (l.filter (·.1 != m)).lookup n = l.lookup n := by
  induction l with
  | nil => rfl
  | cons x l ih =>
    obtain ⟨k, a⟩ := x
    -- By induction on the list; each entry is either dropped or looked at in its turn.
    by_cases hk : k = m
    · -- The entry is gone, and it was not the one that is sought.
      have hne : (n == k) = false := by rw [hk]; exact beq_false_of_ne h
      rw [List.filter_cons_of_neg (by simp [hk]), ih, List.lookup_cons, hne]
    · rw [List.filter_cons_of_pos (by simp [hk]), List.lookup_cons, List.lookup_cons, ih]

/-- To count something about a route leaves what is counted about the others. -/
theorem tally_count_of_ne (t : Router H) {route other : Nat} (h : other ≠ route)
    (f : Tally → Tally) : (t.count route f).tally other = t.tally other := by
  have hne : (other == route) = false := beq_false_of_ne h
  rw [tally, tally, count, List.lookup_cons, hne, lookup_filter_of_ne h]

/-- To count something about a route changes the tally of that route and of no other. -/
theorem tally_count (t : Router H) (route other : Nat) (f : Tally → Tally) :
    (t.count route f).tally other = if route = other then f (t.tally other) else t.tally other := by
  split
  · next h =>
    subst h
    exact t.tally_count_self route f
  · next h => exact t.tally_count_of_ne (Ne.symm h) f

/-- To look a header up counts nothing. -/
theorem tally_resolve (t : Router H) (h : Header) (route : Nat) :
    (t.resolve h).1.tally route = t.tally route := by
  rcases t.resolve_cases h with he | ⟨-, -, -, he⟩ <;> rw [he]
  rfl

end Router

namespace Node

variable {n : Node}

/-! ### A message that comes in -/

/-- The node once it has called the handler of a route for a message. -/
def called (n : Node) (e : Envelope) (route : Route Handler) (now : Instant) : Node :=
  { n with roster := { n.roster with
    router := (n.roster.router.resolve e.header).1.count route.number (·.invoked now) } }

/-- A message without a route is logged. -/
theorem accept_of_none {e : Envelope} (h : (n.roster.router.resolve e.header).2 = none)
    (now : Instant) :
    n.accept e now =
      ({ n with roster := { n.roster with router := (n.roster.router.resolve e.header).1 } }.report
          (.line .debug ("No handler for " ++ e.header.text ++ " on '" ++ n.setup.name ++ "'")
            "routing"),
        .unresolved) := by
  unfold accept
  dsimp only
  rw [h]

/-- A message with a route is counted as a call of its handler, and nothing else happens, also if
the handler panics. -/
theorem accept_of_some {e : Envelope} {route : Route Handler}
    (h : (n.roster.router.resolve e.header).2 = some route) (now : Instant) :
    n.accept e now = (n.called e route now,
      if route.handler.refuses (n.requestOf e) then .escaped
      else .handling route (n.requestOf e)) := by
  unfold accept
  dsimp only
  rw [h]
  dsimp only
  -- The call is counted before the handler is asked, so a panic finds it counted already.
  split
  · next hrefuses => exact congrArg (n.called e route now, ·) (if_pos hrefuses).symm
  · next hruns => exact congrArg (n.called e route now, ·) (if_neg hruns).symm

/-! ### What happens on a fault -/

/-- The identifier that the node draws next, which the next fault is tracked under. -/
def nextId (n : Node) : String := Supply.name n.supply.scope n.supply.next

/-- The log's entry on a handler that failed. -/
def faultEntry (n : Node) (route : Route Handler) (e : Envelope) (f : Fault) : LogEntry :=
  .exception ("Handler " ++ route.pattern.text ++ " failed on " ++ e.header.text ++
    " [tracking id " ++ n.nextId ++ "]") f.text

/-- What a sender that wants an answer is told of a handler that failed. -/
def faultReply (n : Node) (e : Envelope) : Option Envelope :=
  e.replyWithKey n.setup.service (Supply.name n.supply.scope (n.supply.next + 1)) faultStatus
    (faultText n.nextId)

/-- The node once a handler has failed, and before the sender is told of it. -/
def noted (n : Node) (route : Route Handler) (e : Envelope) (f : Fault) : Node :=
  { n with
    roster := { n.roster with
      router := n.roster.router.count route.number Tally.failed
      journal := n.roster.journal ++
        if route.handler.isWatched then [.faulted e.key f.text] else [] }
    log := n.log ++ if n.setup.keepsLog then [n.faultEntry route e f] else []
    supply := { n.supply with
      next := n.supply.next + if e.returnAddress.isSome then 2 else 1 } }

/-- An entry is added to the log of a node that keeps one, and nothing else changes. -/
theorem report_eq (n : Node) (entry : LogEntry) :
    n.report entry = { n with log := n.log ++ if n.setup.keepsLog then [entry] else [] } := by
  unfold report
  split
  · rfl
  · rw [List.append_nil]

/-- A fault is logged under the next identifier. -/
theorem reportFault_eq (n : Node) (context error : String) :
    n.reportFault context error =
      ({ n with
          log := n.log ++ if n.setup.keepsLog then
            [.exception (context ++ " [tracking id " ++ n.nextId ++ "]") error] else []
          supply := { n.supply with next := n.supply.next + 1 } },
        n.nextId) := by
  let drawn : Node := { n with supply := { n.supply with next := n.supply.next + 1 } }
  let entry : LogEntry := .exception (context ++ " [tracking id " ++ n.nextId ++ "]") error
  show (drawn.report entry, n.nextId) = _
  rw [report_eq]

/-- The host is told of a fault if it wants to know. -/
theorem tellOfFault_eq (n : Node) (route : Route Handler) (e : Envelope) (f : Fault) :
    n.tellOfFault route e f = { n with roster := { n.roster with
      journal := n.roster.journal ++
        if route.handler.isWatched then [.faulted e.key f.text] else [] } } := by
  unfold tellOfFault Handler.isWatched
  cases route.handler with
  | answers | election => simp
  | host h =>
    dsimp only
    split
    · rfl
    · rw [List.append_nil]

/-- For a message that wants no answer there is no reply, and no identifier is drawn for one. -/
theorem draw_reply_of_none {e : Envelope} (he : e.returnAddress = none) (n : Node)
    (service text : String) (status : UInt16) :
    n.draw (e.reply service status text) = (n, none) := by
  unfold Envelope.reply
  rw [he]
  rfl

/-- An answer takes the next identifier as its key. -/
theorem draw_reply_of_some {e : Envelope} {r : ReturnAddress} (he : e.returnAddress = some r)
    (n : Node) (service text : String) (status : UInt16) :
    n.draw (e.reply service status text) =
      ({ n with supply := { n.supply with next := n.supply.next + 1 } },
        e.replyWithKey service n.nextId status text) := by
  -- The only identifier that is drawn is the key of the reply.
  unfold Envelope.reply
  rw [he]
  rfl

/-- A handler that fails is noted, and the sender is told if it wants an answer. -/
theorem conclude_error (n : Node) (route : Route Handler) (e : Envelope) (f : Fault) :
    n.conclude route e (.error f) =
      (match n.faultReply e with
        | some reply => (n.noted route e f).emitOrReport reply
            ("Failed to emit fault reply to " ++ e.header.text)
        | none => n.noted route e f,
      .faulted n.nextId) := by
  simp only [conclude, fault, reportFault_eq, tellOfFault_eq]
  -- An identifier is drawn for a reply only if there is one.
  cases he : e.returnAddress with
  | none =>
    have hreply : n.faultReply e = none := by simp [faultReply, Envelope.replyWithKey, he]
    simp only [draw_reply_of_none he, hreply, noted, he]
    rfl
  | some r =>
    simp only [draw_reply_of_some he, faultReply, Envelope.replyWithKey, noted, he, Option.map_some]
    rfl

/-- Whoever brought the message is told of the fault only under which identifier it is tracked. -/
theorem disposition_conclude_error (n : Node) (route : Route Handler) (e : Envelope) (f : Fault) :
    (n.conclude route e (.error f)).2 = .faulted n.nextId := by
  rw [conclude_error]

/-- Why the link does not take a message, if it does not. -/
def refusal? (n : Node) (e : Envelope) : Option String :=
  match n.setup.link with
  | .bus => none
  | .dead reason => if e.loopback then none else some reason

/-- A message is sent over the link or stays inside the node, or it is logged that it could not be
sent. -/
theorem emitOrReport_eq (n : Node) (e : Envelope) (text : String) :
    n.emitOrReport e text = { n with
      outbox := n.outbox ++ if !e.loopback && n.setup.link == .bus then [e] else []
      loopback := n.loopback ++ if e.loopback then [e] else []
      log := n.log ++ if n.setup.keepsLog then
        (n.refusal? e).toList.map (.exception text) else [] } := by
  unfold emitOrReport emit submit refusal?
  -- Only what leaves the node can meet a link that is down.
  cases hinside : e.loopback with
  | true => cases n.setup.link <;> simp
  | false =>
    cases hlink : n.setup.link with
    | bus => simp
    | dead reason => simp [reportException, report_eq]

/-- A reply tells the sender of a message of a fault, and of the fault no more than under which
identifier it is tracked. -/
structure TellsOfFault (e : Envelope) (trackingId : String) (reply : Envelope) : Prop where
  address : e.returnAddress = some ⟨reply.channel, reply.kind, reply.action⟩
  inReplyTo : reply.inReplyTo = some e.key
  status : reply.status = some faultStatus
  text : reply.statusText = some (faultText trackingId)
  body : reply.body = []
  returnAddress : reply.returnAddress = none
  loopback : reply.loopback = e.loopback

/-- There is a reply if the message asks for one. -/
theorem faultReply_cases (n : Node) (e : Envelope) :
    e.returnAddress = none ∧ n.faultReply e = none ∨
      ∃ reply, n.faultReply e = some reply ∧ TellsOfFault e n.nextId reply := by
  unfold faultReply Envelope.replyWithKey
  cases he : e.returnAddress with
  | none => exact Or.inl ⟨rfl, rfl⟩
  | some r => exact Or.inr ⟨_, rfl, ⟨he, rfl, rfl, rfl, rfl, rfl, rfl⟩⟩

/-- What a node has become when a handler has failed. -/
structure Faulted (n : Node) (route : Route Handler) (e : Envelope) (f : Fault) (n' : Node) :
    Prop where
  /-- One failure is counted, of the route, and the host is told once if it wants to know. -/
  roster : n'.roster = { n.roster with
    router := n.roster.router.count route.number Tally.failed
    journal := n.roster.journal ++
      if route.handler.isWatched then [.faulted e.key f.text] else [] }
  /-- The details are logged once, under the tracking id. If the link refuses the reply, that is
  logged too. -/
  log : n'.log = n.log ++ if n.setup.keepsLog then
    n.faultEntry route e f :: (((n.faultReply e).bind n.refusal?).toList.map
      (.exception ("Failed to emit fault reply to " ++ e.header.text))) else []
  /-- The reply is all that is sent, over the link or inside the node. -/
  outbox : n'.outbox = n.outbox ++
    (n.faultReply e).toList.filter fun reply => !reply.loopback && n.setup.link == .bus
  loopback : n'.loopback = n.loopback ++ (n.faultReply e).toList.filter (·.loopback)
  /-- Nothing else changes, but that identifiers were drawn. -/
  rest : n = { n' with
    roster := n.roster, log := n.log, outbox := n.outbox, loopback := n.loopback
    supply := n.supply }

/-- What a handler that fails leads to. -/
theorem faulted_conclude (n : Node) (route : Route Handler) (e : Envelope) (f : Fault) :
    n.Faulted route e f (n.conclude route e (.error f)).1 := by
  -- Field by field, with a reply and without one; the reply itself may meet a dead link.
  rw [conclude_error]
  cases hreply : n.faultReply e with
  | none =>
    refine ⟨rfl, ?_, ?_, ?_, rfl⟩
    all_goals simp [noted, hreply]
  | some reply =>
    dsimp only
    rw [emitOrReport_eq]
    refine ⟨rfl, ?_, ?_, ?_, rfl⟩
    · cases hkeeps : n.setup.keepsLog <;> simp [noted, hreply, refusal?, hkeeps]
    · simp [noted, hreply, List.filter_cons]
    · simp [noted, hreply, List.filter_cons]

/-! ### What is counted -/

/-- What is written into the log leaves the routes and the jobs alone. -/
theorem roster_report (n : Node) (entry : LogEntry) : (n.report entry).roster = n.roster := by
  rw [report_eq]

/-- Whether a message is sent or not, routes and jobs are as before. -/
theorem roster_emitOrReport (n : Node) (e : Envelope) (text : String) :
    (n.emitOrReport e text).roster = n.roster := by
  rw [emitOrReport_eq]

/-- To send the responses of a handler leaves the routes and the jobs alone. -/
theorem roster_emitAll (n : Node) (e : Envelope) (responses : List Envelope) :
    (n.emitAll e responses).roster = n.roster := by
  unfold emitAll
  -- One response after the other, each from the node that the one before it left.
  induction responses generalizing n with
  | nil => rfl
  | cons r responses ih => rw [List.foldl_cons, ih, roster_emitOrReport]

/-- A message that no route takes is counted nowhere. -/
theorem tally_accept_of_none {e : Envelope} (h : (n.roster.router.resolve e.header).2 = none)
    (now : Instant) (k : Nat) :
    (n.accept e now).1.roster.router.tally k = n.roster.router.tally k := by
  rw [accept_of_none h, report_eq]
  exact n.roster.router.tally_resolve e.header k

/-- The route whose handler is called is the only one whose calls are counted. -/
theorem invocations_called (n : Node) (e : Envelope) (route : Route Handler) (now : Instant)
    (k : Nat) : ((n.called e route now).roster.router.tally k).invocations =
      (n.roster.router.tally k).invocations + (route.number == k).toNat := by
  show (((n.roster.router.resolve e.header).1.count route.number (·.invoked now)).tally
    k).invocations = _
  rw [Router.tally_count, Router.tally_resolve]
  by_cases hk : route.number = k <;> simp [hk, Tally.invoked]

/-- To call a handler counts no failure. -/
theorem failures_called (n : Node) (e : Envelope) (route : Route Handler) (now : Instant)
    (k : Nat) : ((n.called e route now).roster.router.tally k).failures =
      (n.roster.router.tally k).failures := by
  show (((n.roster.router.resolve e.header).1.count route.number (·.invoked now)).tally
    k).failures = _
  rw [Router.tally_count, Router.tally_resolve]
  split <;> rfl

/-- The route whose handler fails is the only one whose failures are counted. -/
theorem failures_conclude_error (n : Node) (route : Route Handler) (e : Envelope) (f : Fault)
    (k : Nat) : ((n.conclude route e (.error f)).1.roster.router.tally k).failures =
      (n.roster.router.tally k).failures + (route.number == k).toNat := by
  rw [(n.faulted_conclude route e f).roster]
  show ((n.roster.router.count route.number Tally.failed).tally k).failures = _
  -- The journal is no part of the tallies.
  rw [Router.tally_count]
  by_cases hk : route.number = k <;> simp [hk, Tally.failed]

/-- However the handler ends, nothing is counted as a call any more. -/
theorem invocations_conclude (n : Node) (route : Route Handler) (e : Envelope)
    (result : Except Fault (List Envelope)) (k : Nat) :
    ((n.conclude route e result).1.roster.router.tally k).invocations =
      (n.roster.router.tally k).invocations := by
  cases result with
  | ok responses =>
    exact congrArg (fun r : Roster Handler => (r.router.tally k).invocations)
      (n.roster_emitAll e responses)
  | error f =>
    rw [(n.faulted_conclude route e f).roster]
    show ((n.roster.router.count route.number Tally.failed).tally k).invocations = _
    rw [Router.tally_count]
    split <;> rfl

end Node

end CommandMesh
