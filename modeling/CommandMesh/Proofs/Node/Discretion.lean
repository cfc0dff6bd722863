import CommandMesh.Node.Outbound
import CommandMesh.Proofs.Node.Faults

/-!
# `CommandMesh.Proofs.Node.Discretion`: what others get to know of faults

The details of a fault are for the host: they go into the log, and to its error handler.
`Node.outward` is a node without them and without the reason why its link is down, which is all that
others get to know of it. `Node.Discreet` says of something that a node does that it does not let
others tell two nodes apart that they could not tell apart before.

This is non-interference, stated for two nodes that are alike outwardly. What others are told is
part of the result of a step: the disposition of a message, the start of a request, the response of
a caller, and the messages that have been posted. Two secrets are kept in this way, the text of a
fault and the text of a decoding error; a third is how a handler failed, by an error or by a panic.
What is not kept secret is that there was a fault at all, the tracking id, and how often a handler
failed.

Each step is made of smaller ones, and `Discreet.bind` is what puts them together, so every function
of the node has its own short lemma. Where a step reads something of the node, it has to read
something that is part of `outward`; that is the side condition of `Discreet.ite`.

Nothing is assumed about handlers here. A handler that puts details of its own into a reply does so
as part of its result, and results are compared and not inspected.

* `Discreet.bind`, `Discreet.ite`: what is made of discreet steps is discreet.
* `discreet_accept`, `discreet_conclude`, `discreet_beginSend`, `discreet_continueSend`: what nodes
  do with messages is discreet.
* `shown_conclude_error`: others cannot tell apart two ways in which a handler fails.
* `shown_continueSend_of_unreadable`: the caller of a request cannot tell apart two answers that it
  cannot read.
-/

set_option autoImplicit false

namespace CommandMesh

/-- The link without the reason why it is down. -/
def Link.outward : Link → Link
  | .bus => .bus
  | .dead _ => .dead ""

namespace Node

variable {n n' : Node} {α β : Type}

/-! ### What others get to know -/

/-- The node as others get to know it: without what is in its log, what its host has seen and why
its link is down. -/
def outward (n : Node) : Node :=
  { n with
    setup := { n.setup with link := n.setup.link.outward }
    roster := { n.roster with journal := [] }
    log := [] }

/-- A node and what it gives, as others get to know them. -/
def shown (x : Node × α) : Node × α := (x.1.outward, x.2)

/-- Others cannot tell two nodes apart by this if they could not before. -/
def Discreet (op : Node → Node × α) : Prop :=
  ∀ ⦃n n' : Node⦄, n.outward = n'.outward → shown (op n) = shown (op n')

/-- It is discreet to do something of which others get to know no more than what it makes of what
they knew. -/
theorem discreet_of_shown {op : Node → Node × α} (op' : Node → Node × α)
    (h : ∀ n, shown (op n) = op' n.outward) : Discreet op := by
  intro n n' hn
  rw [h, h, hn]

/-- What is done in two discreet steps is done discreetly. -/
theorem Discreet.bind {f : Node → Node × α} {g : α → Node → Node × β} (hf : Discreet f)
    (hg : ∀ a, Discreet (g a)) : Discreet fun n => g (f n).2 (f n).1 := by
  intro n n' hn
  obtain ⟨hnode, hvalue⟩ := Prod.mk.inj (hf hn)
  show shown (g (f n).2 (f n).1) = shown (g (f n').2 (f n').1)
  rw [hvalue]
  exact hg _ hnode

/-- What is done only if something holds that others know of is done discreetly. -/
theorem Discreet.ite {c : Node → Bool} {f g : Node → Node × α} (hc : ∀ n, c n = c n.outward)
    (hf : Discreet f) (hg : Discreet g) : Discreet fun n => if c n then f n else g n := by
  intro n n' hn
  have hsame : c n = c n' := by rw [hc, hn, ← hc]
  dsimp only
  rw [hsame]
  cases c n' with
  | true => exact hf hn
  | false => exact hg hn

/-- To do nothing, and say the same in every case, is discreet. -/
theorem discreet_pure (a : α) : Discreet fun n => (n, a) := fun _ _ hn => congrArg (·, a) hn

/-- What goes into the log is told to nobody else, whatever it depends on. -/
theorem discreet_report (entry : Node → LogEntry) : Discreet fun n => (n.report (entry n), ()) :=
  discreet_of_shown (fun n => (n, ())) fun n => by rw [report_eq]; rfl

/-- Others know whether a link is up. -/
theorem beq_bus_outward (l : Link) : (l.outward == .bus) = (l == .bus) := by cases l <;> rfl

/-- Others see whether a message was sent, and not why it was not. -/
theorem discreet_emitOrReport (e : Envelope) (text : String) :
    Discreet fun n => (n.emitOrReport e text, ()) :=
  discreet_of_shown
    (fun n => ({ n with
      outbox := n.outbox ++ if !e.loopback && n.setup.link == .bus then [e] else []
      loopback := n.loopback ++ if e.loopback then [e] else [] }, ()))
    fun n => by
      rw [emitOrReport_eq, ← beq_bus_outward]
      rfl

/-- Nodes that are alike outwardly stay so when both send the same message, whatever each writes
into its log about it. -/
theorem outward_emitOrReport (hn : n.outward = n'.outward) (e : Envelope) (text : String) :
    (n.emitOrReport e text).outward = (n'.emitOrReport e text).outward :=
  (Prod.mk.inj (discreet_emitOrReport e text hn)).1

/-- Either of two nodes that others cannot tell apart can send a message, or neither can. -/
theorem emit_outward (hn : n.outward = n'.outward) (e : Envelope) :
    (∃ reason reason', n.emit e = .error reason ∧ n'.emit e = .error reason') ∨
      ∃ m m', n.emit e = .ok m ∧ n'.emit e = .ok m' ∧ m.outward = m'.outward := by
  have hlink : n.setup.link.outward = n'.setup.link.outward := congrArg (·.setup.link) hn
  unfold emit submit
  -- What stays inside the node does not meet the link.
  cases e.loopback with
  | true =>
    exact Or.inr ⟨_, _, rfl, rfl,
      congrArg (fun m : Node => { m with loopback := m.loopback ++ [e] }) hn⟩
  | false =>
    -- Of the four cases two are impossible, since others know whether the link is up.
    cases h : n.setup.link <;> cases h' : n'.setup.link <;> rw [h, h'] at hlink
    · exact Or.inr ⟨_, _, rfl, rfl,
        congrArg (fun m : Node => { m with outbox := m.outbox ++ [e] }) hn⟩
    · exact Link.noConfusion hlink
    · exact Link.noConfusion hlink
    · exact Or.inl ⟨_, _, rfl, rfl⟩

/-! ### Messages that come in -/

/-- To take up a message is discreet: the route that is found, and whether its handler panics,
depend on nothing that is hidden. -/
theorem discreet_accept (e : Envelope) (now : Instant) : Discreet fun n => n.accept e now := by
  intro n n' hn
  have hrouter : n.roster.router = n'.roster.router := congrArg (·.roster.router) hn
  have hrequest : n.requestOf e = n'.requestOf e := congrArg (·.requestOf e) hn
  dsimp only
  cases hfound : (n'.roster.router.resolve e.header).2 with
  | none =>
    rw [accept_of_none (hrouter ▸ hfound), accept_of_none hfound, report_eq, report_eq]
    exact congrArg (fun m : Node => (({ m with roster := { m.roster with
      router := (m.roster.router.resolve e.header).1 } }, .unresolved) : Node × Acceptance)) hn
  | some route =>
    rw [accept_of_some (hrouter ▸ hfound), accept_of_some hfound, hrequest]
    exact congrArg (fun m : Node => (m.called e route now, _)) hn

/-- Others cannot tell two faults apart: the sender is told the same, and so is whoever brought the
message. -/
theorem shown_conclude_error (hn : n.outward = n'.outward) (route : Route Handler) (e : Envelope)
    (f f' : Fault) :
    shown (n.conclude route e (.error f)) = shown (n'.conclude route e (.error f')) := by
  have hnoted : (n.noted route e f).outward = (n'.noted route e f').outward :=
    congrArg (fun m : Node => { m with
      roster := { m.roster with router := m.roster.router.count route.number Tally.failed }
      supply := { m.supply with
        next := m.supply.next + if e.returnAddress.isSome then 2 else 1 } }) hn
  have hreply : n.faultReply e = n'.faultReply e := congrArg (·.faultReply e) hn
  have hid : n.nextId = n'.nextId := congrArg (·.nextId) hn
  -- What was noted differs in the log and the journal only, and the reply is the same.
  rw [conclude_error, conclude_error, hreply, hid]
  cases n'.faultReply e with
  | none => exact congrArg (·, Disposition.faulted n'.nextId) hnoted
  | some reply =>
    exact congrArg (·, Disposition.faulted n'.nextId) (outward_emitOrReport hnoted reply _)

/-- To send the responses of a handler is discreet. -/
theorem discreet_emitAll (e : Envelope) (responses : List Envelope) :
    Discreet fun n => (n.emitAll e responses, ()) := by
  unfold emitAll
  induction responses with
  | nil => exact discreet_pure ()
  | cons r responses ih =>
    intro n n' hn
    exact ih (outward_emitOrReport hn r _)

/-- To deal with what a handler gave is discreet. -/
theorem discreet_conclude (route : Route Handler) (e : Envelope)
    (result : Except Fault (List Envelope)) : Discreet fun n => n.conclude route e result := by
  intro n n' hn
  cases result with
  | ok responses =>
    exact congrArg (·, Disposition.handled responses)
      (Prod.mk.inj (discreet_emitAll e responses hn)).1
  | error f => exact shown_conclude_error hn route e f f

/-! ### Requests that go out -/

/-- A response tells of a fault no more than under which identifier it is tracked. -/
theorem shown_faultResponse (hn : n.outward = n'.outward)
    (id context error context' error' : String) :
    shown (n.faultResponse (α := α) id context error) =
      shown (n'.faultResponse (α := α) id context' error') := by
  simp only [faultResponse, reportFault_eq]
  exact congrArg (fun m : Node => (({ m with
    supply := { m.supply with next := m.supply.next + 1 } },
    ⟨id, faultStatus, faultText m.nextId, none⟩) : Node × Response α)) hn

/-- To take back a request that could not be sent is discreet. -/
theorem discreet_retractSend (id : String) (ticket : Option Nat) :
    Discreet fun n => (n.retractSend id ticket, ()) :=
  discreet_of_shown (fun n => (n.retractSend id ticket, ())) fun n => by cases ticket <;> rfl

/-- Where a message cannot be sent, its sender is not told why. -/
theorem discreet_dispatch (options : SendOptions) (e : Envelope) (now : Instant) :
    Discreet fun n => n.dispatch (α := α) options e now := by
  intro n n' hn
  have hlist : n.waitlist = n'.waitlist := congrArg (·.waitlist) hn
  have hpolicy : n.setup.policy = n'.setup.policy := congrArg (·.setup.policy) hn
  simp only [dispatch, hlist, hpolicy]
  cases n'.waitlist.register now (Text.correlationForm e.key) e
    (options.wait.getD n'.setup.policy.requestSpan) !options.detached with
  | error f => exact congrArg (·, SendStart.failed f) hn
  | ok listed =>
    -- The request is listed before it is sent, and withdrawn if it cannot be.
    obtain ⟨waitlist, ticket⟩ := listed
    have hlisted : { n with waitlist }.outward = { n' with waitlist }.outward :=
      congrArg (fun m : Node => { m with waitlist }) hn
    rcases emit_outward hlisted e with ⟨reason, reason', h, h'⟩ | ⟨m, m', h, h', hm⟩
    · simp only [h, h']
      have hback := (Prod.mk.inj
        (discreet_retractSend (Text.correlationForm e.key) ticket hlisted)).1
      have hresponse := shown_faultResponse (α := α) hback (Text.correlationForm e.key)
        "Dispatch failed" reason "Dispatch failed" reason'
      exact congrArg (fun x : Node × Response α => (x.1, SendStart.ended x.2)) hresponse
    · simp only [h, h']
      cases ticket with
      | none => exact congrArg (·, _) hm
      | some ticket => exact congrArg (·, _) hm

/-- To begin a request is discreet. -/
theorem discreet_beginSend (l : Letter) (now : Instant) :
    Discreet fun n => n.beginSend (α := α) l now := by
  -- The checks are in the order of the node: it has to run, and the payload must have been written.
  refine Discreet.ite (c := fun n => !n.running) (fun _ => rfl)
    (discreet_of_shown (fun n => (n, .failed (.notStarted n.setup.name))) fun _ => rfl) ?_
  cases l.body with
  | error f => exact discreet_pure _
  | ok body =>
    have hdraw : Discreet fun n => n.draw (n.requestMessage l body) :=
      discreet_of_shown (fun n => n.draw (n.requestMessage l body)) fun _ => rfl
    exact hdraw.bind fun e => discreet_dispatch l.options e now

/-- To take the outcome of a request is discreet. -/
theorem discreet_takeOutcome (p : Pending) : Discreet fun n => n.takeOutcome p := by
  intro n n' hn
  have hlist : n.waitlist = n'.waitlist := congrArg (·.waitlist) hn
  unfold takeOutcome
  dsimp only
  rw [hlist]
  cases n'.waitlist.outcome? p.ticket with
  | none => exact congrArg (·, none) hn
  | some o => exact congrArg (fun m : Node => (m.discard p.ticket, some o)) hn

/-- To cancel a request is discreet. -/
theorem discreet_cancelSend (id : String) : Discreet fun n => (n.cancelSend id, ()) :=
  discreet_of_shown (fun n => (n.cancelSend id, ())) fun _ => rfl

/-- A caller that looks for its outcome, or withdraws its request, learns nothing that is hidden. -/
theorem discreet_resumeSend (p : Pending) (cancelled : Bool) (first : Glance) :
    Discreet fun n => n.resumeSend p cancelled first :=
  Discreet.ite (fun _ => rfl)
    ((discreet_cancelSend p.id).bind fun _ => discreet_takeOutcome p) (discreet_takeOutcome p)

/-- To make a response of an outcome is discreet, also if the answer cannot be read. -/
theorem discreet_settleSend (read : List UInt8 → Except Failure α) (p : Pending) (o : Outcome) :
    Discreet fun n => n.settleSend read p o := by
  cases o with
  | timedOut => exact discreet_pure _
  | cancelled => exact discreet_pure _
  | answered e =>
    unfold settleSend
    dsimp only
    cases e.body.isEmpty with
    | true => exact discreet_pure _
    | false =>
      cases read e.body with
      | ok a => exact discreet_pure _
      | error f => exact fun _ _ hn => shown_faultResponse hn _ _ _ _ _

/-- A caller that finds no outcome goes on waiting. -/
theorem continueSend_of_none {p : Pending} {cancelled : Bool} {first : Glance}
    (h : n.resumeSend p cancelled first = (n', none)) (read : List UInt8 → Except Failure α) :
    n.continueSend read p cancelled first = (n', none) := by
  unfold continueSend
  rw [h]

/-- A caller that finds an outcome gets the response that is made of it. -/
theorem continueSend_of_some {p : Pending} {cancelled : Bool} {first : Glance} {o : Outcome}
    (h : n.resumeSend p cancelled first = (n', some o)) (read : List UInt8 → Except Failure α) :
    n.continueSend read p cancelled first =
      ((n'.settleSend read p o).1, some (n'.settleSend read p o).2) := by
  unfold continueSend
  rw [h]

/-- To go on with a request is discreet. -/
theorem discreet_continueSend (read : List UInt8 → Except Failure α) (p : Pending)
    (cancelled : Bool) (first : Glance) :
    Discreet fun n => n.continueSend read p cancelled first := by
  intro n n' hn
  have hresumed := discreet_resumeSend p cancelled first hn
  dsimp only at hresumed ⊢
  cases h : n.resumeSend p cancelled first with
  | mk m o =>
    cases h' : n'.resumeSend p cancelled first with
    | mk m' o' =>
      rw [h, h'] at hresumed
      obtain ⟨hnode, rfl⟩ := Prod.mk.inj hresumed
      -- Both find an outcome or neither does, and if they do it is the same.
      cases o with
      | none =>
        rw [continueSend_of_none h, continueSend_of_none h']
        exact congrArg (·, none) hnode
      | some o =>
        rw [continueSend_of_some h, continueSend_of_some h']
        exact congrArg (fun x : Node × Response α => (x.1, some x.2))
          (discreet_settleSend read p o hnode)

/-! ### Answers that cannot be read -/

end Node

namespace Waitlist

/-- An outcome that is kept under a ticket stays there when a request is cancelled. -/
theorem outcome?_cancel {w : Waitlist} {t : Nat} {o : Outcome} (h : w.outcome? t = some o)
    (id : String) : ((w.cancel id).getD w).outcome? t = some o := by
  unfold cancel settle
  cases w.find? (Text.correlationForm id) with
  | none => exact h
  | some r =>
    have hkept : w.outcomes.lookup t = some o := h
    -- The cancellation is delivered after what was there, and the first entry under a ticket
    -- counts.
    cases hticket : r.ticket <;> simp [deliver, hticket, outcome?, List.lookup_append, hkept]

/-- What is kept under a ticket makes no difference to the rest when a request is cancelled. -/
theorem discard_cancel (w : Waitlist) (t : Nat) (id : String) :
    ((w.cancel id).getD w).discard t =
      (((w.discard t).cancel id).getD (w.discard t)).discard t := by
  unfold cancel settle
  have hfind : (w.discard t).find? (Text.correlationForm id) = w.find? (Text.correlationForm id) :=
    rfl
  rw [hfind]
  cases w.find? (Text.correlationForm id) with
  | none => simp [discard]
  | some r => cases hticket : r.ticket <;> simp [deliver, hticket, discard]

end Waitlist

namespace Node

variable {n n' : Node} {α : Type}

/-- A caller whose request has an outcome takes it, whether it withdraws its request or not. -/
theorem resumeSend_of_settled {p : Pending} {o : Outcome}
    (h : n.waitlist.outcome? p.ticket = some o) (cancelled : Bool) (first : Glance) :
    n.resumeSend p cancelled first =
      ((if cancelled && first == .cancellation then n.cancelSend p.id else n).discard p.ticket,
        some o) := by
  have hsettled : (n.waitlist.outcome? p.ticket).isSome = true := by rw [h]; rfl
  -- A cancellation that comes too late leaves the outcome in place.
  have hcancel : (n.cancelSend p.id).waitlist.outcome? p.ticket = some o :=
    Waitlist.outcome?_cancel h p.id
  unfold resumeSend
  simp only [hsettled, Bool.not_true, Bool.false_or]
  split
  · simp only [takeOutcome, hcancel]
  · simp only [takeOutcome, h]

/-- The outcome is an answer with a body that cannot be read. Nothing is said about its status. -/
def Unreadable (read : List UInt8 → Except Failure α) : Outcome → Prop
  | .answered e => e.body ≠ [] ∧ ∃ f, read e.body = .error f
  | .timedOut | .cancelled => False

/-- An answer that cannot be read is a fault. -/
theorem settleSend_of_unreadable {read : List UInt8 → Except Failure α} {o : Outcome}
    (ho : Unreadable read o) (n : Node) (p : Pending) :
    ∃ error, n.settleSend read p o = n.faultResponse p.id "Failed to decode response" error := by
  cases o with
  | answered e =>
    obtain ⟨hbody, f, hread⟩ := ho
    have hsome : e.body.isEmpty = false := List.isEmpty_eq_false_iff.mpr hbody
    exact ⟨(Fault.misuse f).text, by simp [settleSend, hsome, hread]⟩
  | timedOut => exact ho.elim
  | cancelled => exact ho.elim

/-- A caller that cannot read its answer is told of a fault, and neither what the answer says nor
what its status is. -/
theorem shown_continueSend_of_unreadable {p : Pending} {o o' : Outcome}
    {read : List UInt8 → Except Failure α} (h : n.waitlist.outcome? p.ticket = some o)
    (h' : n'.waitlist.outcome? p.ticket = some o') (ho : Unreadable read o)
    (ho' : Unreadable read o')
    (hrest : (n.discard p.ticket).outward = (n'.discard p.ticket).outward)
    (cancelled : Bool) (first : Glance) :
    shown (n.continueSend read p cancelled first) =
      shown (n'.continueSend read p cancelled first) := by
  rw [continueSend_of_some (resumeSend_of_settled h cancelled first),
    continueSend_of_some (resumeSend_of_settled h' cancelled first)]
  obtain ⟨error, hfault⟩ := settleSend_of_unreadable ho
    ((if cancelled && first == .cancellation then n.cancelSend p.id else n).discard p.ticket) p
  obtain ⟨error', hfault'⟩ := settleSend_of_unreadable ho'
    ((if cancelled && first == .cancellation then n'.cancelSend p.id else n').discard p.ticket) p
  rw [hfault, hfault']
  -- To withdraw the request changes nothing that depends on its outcome.
  have hleft : ((if cancelled && first == .cancellation then n.cancelSend p.id else n).discard
        p.ticket).outward =
      ((if cancelled && first == .cancellation then n'.cancelSend p.id else n').discard
        p.ticket).outward := by
    cases cancelled && first == .cancellation with
    | false => exact hrest
    | true =>
      have hcommute (m : Node) : (m.cancelSend p.id).discard p.ticket =
          ((m.discard p.ticket).cancelSend p.id).discard p.ticket :=
        congrArg (fun waitlist => { m with waitlist })
          (Waitlist.discard_cancel m.waitlist p.ticket p.id)
      show ((n.cancelSend p.id).discard p.ticket).outward =
        ((n'.cancelSend p.id).discard p.ticket).outward
      rw [hcommute n, hcommute n']
      exact congrArg (fun m : Node => (m.cancelSend p.id).discard p.ticket) hrest
  exact congrArg (fun x : Node × Response α => (x.1, some x.2))
    (shown_faultResponse hleft p.id _ error _ error')

/-- The response to a caller that cannot read its answer has the status of a fault and no more in it
than under which identifier the fault is tracked. -/
theorem continueSend_of_unreadable {p : Pending} {o : Outcome}
    {read : List UInt8 → Except Failure α} (h : n.waitlist.outcome? p.ticket = some o)
    (ho : Unreadable read o) (cancelled : Bool) (first : Glance) :
    (n.continueSend read p cancelled first).2 =
      some ⟨p.id, faultStatus, faultText n.nextId, none⟩ := by
  rw [continueSend_of_some (resumeSend_of_settled h cancelled first)]
  obtain ⟨error, hfault⟩ := settleSend_of_unreadable ho
    ((if cancelled && first == .cancellation then n.cancelSend p.id else n).discard p.ticket) p
  rw [hfault]
  simp only [faultResponse, reportFault_eq]
  -- To withdraw the request draws no identifier, so the tracking id is the next one either way.
  cases cancelled && first == .cancellation <;> rfl

end Node

end CommandMesh
