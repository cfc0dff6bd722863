import CommandMesh.Proofs.Node.Activity
import CommandMesh.Proofs.Node.Backlog
import Mathlib.Data.List.Forall2
import Mathlib.Data.List.Perm.Basic

/-!
# `CommandMesh.Proofs.Node.Reception`: the messages that a node takes up

A `Reception` is a node with the messages whose handlers it has called and that have not ended, and
with what became of all others. A `Reception.Move` is what may happen next: the node takes a message
up, a handler ends, or the node does anything else. Moves come in any order, and what a handler
gives is not known before it ends.

The model assumes nothing about handlers. A handler may give any messages or any fault, may take as
long as it likes and may be overtaken by others; whether it panics when it is called is a function
of the request. What the host does meanwhile is any `Activity` at all, so routes may come and go
while a handler runs. The fault that a handler fails with is an error or the panic of its run. A
panic at the call is a different thing: it ends the handling of the message before there is a run,
and the verdict on the message is that it died.

Two invariants are carried through runs. `Balanced` says that what the node has counted about its
routes is what became of their messages, the ones in hand included. `Reception.Alike` says of two
receptions that others cannot tell them apart; the moves on either side are the same but for the
faults of handlers.

* `Balanced.step`, `balanced_run`: a reception is balanced after every run.
* `accounts_iff_none_died`: so, once no message is in hand, the node has counted a call for each
  message whose handler has ended, and for no other, exactly if no handler has panicked when it was
  called.
* `Alike.step`, `alike_run`: others cannot tell two runs apart that differ in nothing but the faults
  of handlers.
* `fault_details_stay_inside`: neither the sender of a message nor a caller gets to know more of a
  fault than under which identifier it is tracked.
* `faults_accounted_iff_none_died`: all that a fault leads to, and when the counts are right.
* `died_uncounted`: a handler that panics when it is called.
-/

set_option autoImplicit false

namespace CommandMesh

/-- What became of a message. -/
inductive Verdict where
  /-- No route matches its header. -/
  | unresolved
  /-- The handler of that route ran and gave these messages. -/
  | handled (route : Nat) (responses : List Envelope)
  /-- The handler of that route failed. -/
  | faulted (route : Nat) (trackingId : String)
  /-- The handler of that route panicked when it was called, and the handling with it. -/
  | died (route : Nat)
deriving DecidableEq

namespace Verdict

/-- The verdict on a message of that route. -/
def ofDisposition (route : Nat) : Disposition → Verdict
  | .handled responses => .handled route responses
  | .unresolved => .unresolved
  | .faulted trackingId => .faulted route trackingId

/-- Whether the handler of that route ran. -/
def isHandledBy (route : Nat) : Verdict → Bool
  | .handled r _ => r == route
  | _ => false

/-- Whether the handler of that route failed. -/
def isFaultOf (route : Nat) : Verdict → Bool
  | .faulted r _ => r == route
  | _ => false

/-- Whether the handler of that route panicked when it was called. -/
def isDeathOf (route : Nat) : Verdict → Bool
  | .died r => r == route
  | _ => false

end Verdict

/-- A node, the messages whose handlers it has called and that have not ended, what became of the
others, and what those who send requests were told. -/
structure Reception where
  node : Node
  inHand : List (Envelope × Route Handler) := []
  verdicts : List Verdict := []
  told : List Told := []

namespace Reception

/-- What may happen next. -/
inductive Move where
  /-- Takes a message up. -/
  | take (e : Envelope) (now : Instant)
  /-- The handler of the message at this place ends, and has given this. -/
  | finish (k : Nat) (result : Except Fault (List Envelope))
  | meanwhile (a : Activity)

/-- What a move does. -/
def step (r : Reception) : Move → Reception
  | .take e now =>
    match r.node.accept e now, (r.node.roster.router.resolve e.header).2 with
    | (node, .handling route _), _ => { r with node, inHand := r.inHand ++ [(e, route)] }
    | (node, .escaped), some route =>
      -- There is no run that could end, so nothing is left in hand.
      { r with node, verdicts := r.verdicts ++ [.died route.number] }
    | (node, _), _ => { r with node, verdicts := r.verdicts ++ [.unresolved] }
  | .finish k result =>
    match r.inHand[k]? with
    | none => r
    | some (e, route) =>
      let (node, d) := r.node.conclude route e result
      { r with
        node
        inHand := r.inHand.eraseIdx k
        verdicts := r.verdicts ++ [.ofDisposition route.number d] }
  | .meanwhile a =>
    let (node, told) := r.node.perform a
    { r with node, told := r.told ++ [told] }

/-- Moves in turn. -/
def run (r : Reception) (ms : List Move) : Reception := ms.foldl step r

/-- A run with one move more is that move after the run. -/
theorem run_append_singleton (r : Reception) (ms : List Move) (m : Move) :
    r.run (ms ++ [m]) = (r.run ms).step m := by
  simp [run]

section Take

variable {r : Reception} {e : Envelope}

/-- A message without a route. -/
theorem step_take_of_none (h : (r.node.roster.router.resolve e.header).2 = none) (now : Instant) :
    r.step (.take e now) = { r with
      node := (r.node.accept e now).1, verdicts := r.verdicts ++ [.unresolved] } := by
  simp only [step, Node.accept_of_none h, h]

/-- A message whose handler panics when it is called. -/
theorem step_take_of_refuses {route : Route Handler}
    (h : (r.node.roster.router.resolve e.header).2 = some route)
    (hrefuses : route.handler.refuses (r.node.requestOf e) = true) (now : Instant) :
    r.step (.take e now) = { r with
      node := r.node.called e route now, verdicts := r.verdicts ++ [.died route.number] } := by
  simp only [step, Node.accept_of_some h, h, if_pos hrefuses]

/-- A message whose handler is called. -/
theorem step_take_of_runs {route : Route Handler}
    (h : (r.node.roster.router.resolve e.header).2 = some route)
    (hruns : route.handler.refuses (r.node.requestOf e) = false) (now : Instant) :
    r.step (.take e now) = { r with
      node := r.node.called e route now, inHand := r.inHand ++ [(e, route)] } := by
  simp only [step, Node.accept_of_some h, h, hruns, Bool.false_eq_true, if_false]

end Take

/-- A handler ends: its message is in hand no more, and the verdict is what the node makes of what
it gave. -/
theorem step_finish {r : Reception} {i : Nat} {e : Envelope} {route : Route Handler}
    (h : r.inHand[i]? = some (e, route)) (result : Except Fault (List Envelope)) :
    r.step (.finish i result) = { r with
      node := (r.node.conclude route e result).1
      inHand := r.inHand.eraseIdx i
      verdicts := r.verdicts ++
        [.ofDisposition route.number (r.node.conclude route e result).2] } := by
  simp only [step, h]

/-- What the node does meanwhile changes the node, and whoever sent a request may be told something.
-/
theorem step_meanwhile (r : Reception) (a : Activity) :
    r.step (.meanwhile a) =
      { r with node := (r.node.perform a).1, told := r.told ++ [(r.node.perform a).2] } := rfl

/-! ### What is counted -/

/-- How many verdicts are such. -/
def count (r : Reception) (p : Verdict → Bool) : Nat := r.verdicts.countP p

/-- How many messages of a route are in hand. -/
def pending (r : Reception) (route : Nat) : Nat := r.inHand.countP fun x => x.2.number == route

/-- What the node has counted since it was `n` is what became of its messages. -/
structure Balanced (n : Node) (r : Reception) : Prop where
  failures : ∀ route, (r.node.roster.router.tally route).failures =
    (n.roster.router.tally route).failures + r.count (Verdict.isFaultOf route)
  invocations : ∀ route, (r.node.roster.router.tally route).invocations =
    (n.roster.router.tally route).invocations + r.count (Verdict.isHandledBy route) +
      r.count (Verdict.isFaultOf route) + r.count (Verdict.isDeathOf route) + r.pending route

/-- At first nothing has been counted and nothing has become of any message. -/
theorem balanced_refl (n : Node) : Balanced n { node := n } := ⟨fun _ => rfl, fun _ => rfl⟩

section Balance

variable {n : Node} {r r' : Reception}

/-- A step that ends with a verdict keeps the balance if it counts what the verdict says. -/
theorem Balanced.of_verdict (h : Balanced n r) (v : Verdict)
    (hverdicts : r'.verdicts = r.verdicts ++ [v])
    (hfailures : ∀ k, (r'.node.roster.router.tally k).failures =
      (r.node.roster.router.tally k).failures + (v.isFaultOf k).toNat)
    (hinvocations : ∀ k, (r'.node.roster.router.tally k).invocations + r.pending k =
      (r.node.roster.router.tally k).invocations + r'.pending k + (v.isHandledBy k).toNat +
        (v.isFaultOf k).toNat + (v.isDeathOf k).toNat) : Balanced n r' := by
  -- The verdict counts once, for its own route and its own kind.
  have hcount (p : Verdict → Bool) : r'.count p = r.count p + (p v).toNat := by
    rw [count, hverdicts, List.countP_append, count]
    cases hp : p v <;> simp [hp]
  refine ⟨fun k => ?_, fun k => ?_⟩
  · have hbefore := h.failures k
    have hstep := hfailures k
    rw [hcount]
    omega
  · have hbefore := h.invocations k
    have hstep := hinvocations k
    rw [hcount, hcount, hcount]
    omega

/-- A step that leaves the verdicts as they are keeps the balance if it counts a call for each
message that it adds to those in hand. -/
theorem Balanced.of_calls (h : Balanced n r) (hverdicts : r'.verdicts = r.verdicts)
    (hfailures : ∀ k, (r'.node.roster.router.tally k).failures =
      (r.node.roster.router.tally k).failures)
    (hinvocations : ∀ k, (r'.node.roster.router.tally k).invocations + r.pending k =
      (r.node.roster.router.tally k).invocations + r'.pending k) : Balanced n r' := by
  have hcount (p : Verdict → Bool) : r'.count p = r.count p := by rw [count, hverdicts, count]
  refine ⟨fun k => ?_, fun k => ?_⟩
  · rw [hcount, hfailures, h.failures]
  · have hbefore := h.invocations k
    have hstep := hinvocations k
    rw [hcount, hcount, hcount]
    omega

/-- A message that is taken in hand counts for its route. -/
theorem pending_append (xs : List (Envelope × Route Handler)) (e : Envelope)
    (route : Route Handler) (k : Nat) :
    ((xs ++ [(e, route)]).countP fun x => x.2.number == k) =
      (xs.countP fun x => x.2.number == k) + (route.number == k).toNat := by
  rw [List.countP_append, List.countP_singleton]
  cases route.number == k <;> rfl

/-- A message whose handler has ended is in hand no more. -/
theorem pending_eraseIdx {i : Nat} {e : Envelope} {route : Route Handler}
    (h : r.inHand[i]? = some (e, route)) (k : Nat) :
    r.pending k = ((r.inHand.eraseIdx i).countP fun x => x.2.number == k) +
      (route.number == k).toNat := by
  obtain ⟨hi, hentry⟩ := List.getElem?_eq_some_iff.mp h
  have hperm := (List.getElem_cons_eraseIdx_perm hi).countP_eq fun x => x.2.number == k
  rw [pending, ← hperm, hentry, List.countP_cons]
  cases route.number == k <;> rfl

/-- To take a message up keeps the balance, whether or not there is a route for it and whether or
not its handler panics. -/
theorem Balanced.take (h : Balanced n r) (e : Envelope) (now : Instant) :
    Balanced n (r.step (.take e now)) := by
  cases hfound : (r.node.roster.router.resolve e.header).2 with
  | none =>
    have htally := r.node.tally_accept_of_none hfound now
    rw [step_take_of_none hfound]
    exact h.of_verdict .unresolved rfl (fun k => congrArg (·.failures) (htally k))
      fun k => congrArg (·.invocations + r.pending k) (htally k)
  | some route =>
    have hcalled (k : Nat) := r.node.invocations_called e route now k
    have hfailed (k : Nat) := r.node.failures_called e route now k
    cases hrefuses : route.handler.refuses (r.node.requestOf e) with
    | true =>
      -- The call is counted, though the handler gave no run that could end.
      rw [step_take_of_refuses hfound hrefuses]
      refine h.of_verdict (.died route.number) rfl hfailed fun k => ?_
      show _ + r.pending k = _ + r.pending k + 0 + 0 + (route.number == k).toNat
      rw [hcalled]
      omega
    | false =>
      rw [step_take_of_runs hfound hrefuses]
      refine h.of_calls rfl hfailed fun k => ?_
      show _ + r.pending k = _ + (r.inHand ++ [(e, route)]).countP _
      rw [hcalled, pending_append, ← pending]
      omega

/-- The end of a handler keeps the balance, whatever it gave. -/
theorem Balanced.finish (h : Balanced n r) (i : Nat) (result : Except Fault (List Envelope)) :
    Balanced n (r.step (.finish i result)) := by
  cases hentry : r.inHand[i]? with
  | none =>
    have hsame : r.step (.finish i result) = r := by simp only [step, hentry]
    rw [hsame]
    exact h
  | some x =>
    obtain ⟨e, route⟩ := x
    have hinvoked (k : Nat) := r.node.invocations_conclude route e result k
    have hpending (k : Nat) := pending_eraseIdx hentry k
    rw [step_finish hentry]
    cases result with
    | ok responses =>
      refine h.of_verdict (.handled route.number responses) rfl (fun k => ?_) fun k => ?_
      · exact congrArg (fun r : Roster Handler => (r.router.tally k).failures)
          (r.node.roster_emitAll e responses)
      · show _ + r.pending k =
          _ + (r.inHand.eraseIdx i).countP _ + (route.number == k).toNat + 0 + 0
        rw [hinvoked, hpending]
        omega
    | error f =>
      have hverdict := r.node.disposition_conclude_error route e f
      refine h.of_verdict (.faulted route.number r.node.nextId) (by rw [hverdict]; rfl)
        (r.node.failures_conclude_error route e f) fun k => ?_
      show _ + r.pending k = _ + (r.inHand.eraseIdx i).countP _ + 0 + (route.number == k).toNat + 0
      rw [hinvoked, hpending]
      omega

/-- Whatever else a node does keeps the balance, since it counts nothing. -/
theorem Balanced.meanwhile (h : Balanced n r) (a : Activity) :
    Balanced n (r.step (.meanwhile a)) := by
  have htallies := (Node.incidental_perform a).tallies r.node
  have htally (k : Nat) : (r.node.perform a).1.roster.router.tally k =
      r.node.roster.router.tally k := by
    rw [Router.tally, htallies, Router.tally]
  exact h.of_calls rfl (fun k => congrArg (·.failures) (htally k))
    fun k => congrArg (·.invocations + r.pending k) (htally k)

/-- Every move keeps the balance. -/
theorem Balanced.step (h : Balanced n r) (m : Move) : Balanced n (r.step m) := by
  cases m with
  | take e now => exact h.take e now
  | finish i result => exact h.finish i result
  | meanwhile a => exact h.meanwhile a

/-- What a node has counted after a run is what became of the messages of the run. -/
theorem balanced_run (n : Node) (ms : List Move) : Balanced n (run { node := n } ms) := by
  -- By induction from the end of the run.
  induction ms using List.reverseRecOn with
  | nil => exact balanced_refl n
  | append_singleton ms m ih =>
    rw [run_append_singleton]
    exact ih.step m

/-- The node has counted a call for each message that was handled or led to a fault, a failure for
each that led to a fault, and nothing else. -/
def Accounts (n : Node) (r : Reception) : Prop :=
  ∀ route,
    (r.node.roster.router.tally route).failures =
        (n.roster.router.tally route).failures + r.count (Verdict.isFaultOf route) ∧
      (r.node.roster.router.tally route).invocations =
        (n.roster.router.tally route).invocations + r.count (Verdict.isHandledBy route) +
          r.count (Verdict.isFaultOf route)

/-- No handler is counted as dead exactly if there is no such verdict. -/
theorem count_isDeathOf_eq_zero (r : Reception) :
    (∀ route, r.count (Verdict.isDeathOf route) = 0) ↔ ∀ route, .died route ∉ r.verdicts := by
  simp only [count, List.countP_eq_zero]
  constructor
  · intro h route hmem
    exact h route _ hmem (beq_self_eq_true route)
  · intro h route v hv hdeath
    cases v with
    | died k => exact h k hv
    | unresolved => exact Bool.false_ne_true hdeath
    | handled _ _ => exact Bool.false_ne_true hdeath
    | faulted _ _ => exact Bool.false_ne_true hdeath

/-- Once no message is in hand, a node has a call too many for each handler that panicked when it
was called, and otherwise its counts are right. -/
theorem accounts_iff_none_died (h : Balanced n r) (hdone : r.inHand = []) :
    Accounts n r ↔ ∀ route, .died route ∉ r.verdicts := by
  -- Nothing is in hand, so the call too many, if there is one, is that of a handler that died.
  have hpending (route : Nat) : r.pending route = 0 := by rw [pending, hdone]; rfl
  rw [← count_isDeathOf_eq_zero]
  refine forall_congr' fun route => ?_
  have hinvocations := h.invocations route
  rw [hpending] at hinvocations
  constructor
  · intro haccounts
    have hclaimed := haccounts.2
    omega
  · intro hnone
    exact ⟨h.failures route, by omega⟩

end Balance

/-! ### What others get to know -/

/-- The moves are the same but for the fault of a handler that fails. -/
inductive Move.Alike : Move → Move → Prop where
  | same (m : Move) : Alike m m
  | faults (k : Nat) (f f' : Fault) : Alike (.finish k (.error f)) (.finish k (.error f'))

/-- Others cannot tell the nodes apart, the same messages are in hand, the same became of the
others, and those who send requests were told the same. -/
structure Alike (r r' : Reception) : Prop where
  node : r.node.outward = r'.node.outward
  inHand : r.inHand = r'.inHand
  verdicts : r.verdicts = r'.verdicts
  told : r.told = r'.told

section Alike

variable {r r' : Reception}

/-- Nodes that others cannot tell apart take a message up alike. -/
theorem Alike.take (h : Alike r r') (e : Envelope) (now : Instant) :
    Alike (r.step (.take e now)) (r'.step (.take e now)) := by
  have hrouter : r.node.roster.router = r'.node.roster.router := congrArg (·.roster.router) h.node
  have hrequest : r.node.requestOf e = r'.node.requestOf e := congrArg (·.requestOf e) h.node
  have hnode := (Prod.mk.inj (Node.discreet_accept e now h.node)).1
  cases hfound : (r'.node.roster.router.resolve e.header).2 with
  | none =>
    rw [step_take_of_none (hrouter ▸ hfound), step_take_of_none hfound]
    exact ⟨hnode, h.inHand, congrArg (· ++ [.unresolved]) h.verdicts, h.told⟩
  | some route =>
    have hcalled : (r.node.called e route now).outward = (r'.node.called e route now).outward :=
      congrArg (fun m : Node => m.called e route now) h.node
    cases hrefuses : route.handler.refuses (r'.node.requestOf e) with
    | true =>
      rw [step_take_of_refuses (hrouter ▸ hfound) (hrequest ▸ hrefuses),
        step_take_of_refuses hfound hrefuses]
      exact ⟨hcalled, h.inHand, congrArg (· ++ [.died route.number]) h.verdicts, h.told⟩
    | false =>
      rw [step_take_of_runs (hrouter ▸ hfound) (hrequest ▸ hrefuses),
        step_take_of_runs hfound hrefuses]
      exact ⟨hcalled, congrArg (· ++ [(e, route)]) h.inHand, h.verdicts, h.told⟩

/-- The ends of a handler that others cannot tell apart. -/
theorem Alike.finish (h : Alike r r') (k : Nat) {result result' : Except Fault (List Envelope)}
    (hresult : ∀ route e, Node.shown (r.node.conclude route e result) =
      Node.shown (r'.node.conclude route e result')) :
    Alike (r.step (.finish k result)) (r'.step (.finish k result')) := by
  cases hentry : r'.inHand[k]? with
  | none =>
    have hnone : r.inHand[k]? = none := h.inHand ▸ hentry
    simpa only [step, hentry, hnone] using h
  | some x =>
    obtain ⟨e, route⟩ := x
    have hsome : r.inHand[k]? = some (e, route) := h.inHand ▸ hentry
    obtain ⟨hnode, hdisposition⟩ := Prod.mk.inj (hresult route e)
    rw [step_finish hsome, step_finish hentry]
    refine ⟨hnode, congrArg (·.eraseIdx k) h.inHand, ?_, h.told⟩
    show r.verdicts ++ _ = r'.verdicts ++ _
    -- The verdict is what the node says of the message, and the same on both sides.
    rw [h.verdicts, hdisposition]

/-- Moves that are the same but for the fault of a handler keep two receptions alike. -/
theorem Alike.step (h : Alike r r') {m m' : Move} (hm : Move.Alike m m') :
    Alike (r.step m) (r'.step m') := by
  cases hm with
  | faults k f f' =>
    exact h.finish k fun route e => Node.shown_conclude_error h.node route e f f'
  | same =>
    cases m with
    | take e now => exact h.take e now
    | finish k result =>
      exact h.finish k fun route e => Node.discreet_conclude route e result h.node
    | meanwhile a =>
      obtain ⟨hnode, htold⟩ := Prod.mk.inj ((Node.incidental_perform a).discreet h.node)
      rw [step_meanwhile, step_meanwhile]
      exact ⟨hnode, h.inHand, h.verdicts, congrArg₂ (· ++ [·]) h.told htold⟩

/-- Others cannot tell two runs apart that differ in nothing but the faults of handlers. -/
theorem alike_run (h : Alike r r') {ms ms' : List Move} (hms : List.Forall₂ Move.Alike ms ms') :
    Alike (r.run ms) (r'.run ms') := by
  -- By induction on the pairs of moves.
  induction hms generalizing r r' with
  | nil => exact h
  | cons hm _ ih => exact ih (h.step hm)

end Alike

/-! ### Main results -/

/-- A command with one handler, of whose faults the host is told. -/
def sample (refuses : Bool) : Node :=
  { Backlog.sample with
    setup := { Backlog.sample.setup with keepsLog := true }
    roster := (Backlog.sample.roster.addRoute (.of (some "jobs") none none)
      (.host ⟨0, none, true, fun _ => refuses, fun _ _ => ⟨0, pure (.ok [])⟩⟩) none false).1 }

/-- A message for that handler, whose sender wants an answer. -/
def sampleMessage : Envelope :=
  { Envelope.blank "jobs" "rebuild" "execute" "b" "1" with
    returnAddress := some ⟨"response", "rebuild", "execute"⟩ }

/-- Whatever a node does, others cannot tell from it how a handler failed, why a link was down or
what stood in an answer that could not be read. The sender of a message that led to a fault gets a
reply if it wants one, and nobody gets anything else; whoever sent a request is told of a fault only
under which identifier it is tracked. -/
theorem fault_details_stay_inside :
    (∀ (n n' : Node) (ms ms' : List Move), n.outward = n'.outward →
      List.Forall₂ Move.Alike ms ms' → Alike (run { node := n } ms) (run { node := n' } ms')) ∧
    (∀ (n : Node) (route : Route Handler) (e : Envelope) (f : Fault),
      let concluded := n.conclude route e (.error f)
      concluded.2 = .faulted n.nextId ∧ n.Faulted route e f concluded.1 ∧
        (e.returnAddress = none ∧ n.faultReply e = none ∨
          ∃ reply, n.faultReply e = some reply ∧ Node.TellsOfFault e n.nextId reply)) ∧
    (∀ (α : Type) (n n' : Node) (l : Letter) (now : Instant), n.outward = n'.outward →
      (n.beginSend (α := α) l now).2 = (n'.beginSend (α := α) l now).2) ∧
    (∀ (α : Type) (n n' : Node) (read : List UInt8 → Except Failure α) (p : Pending)
      (o o' : Outcome) (cancelled : Bool) (first : Glance),
      n.waitlist.outcome? p.ticket = some o → n'.waitlist.outcome? p.ticket = some o' →
      Node.Unreadable read o → Node.Unreadable read o' →
      (n.discard p.ticket).outward = (n'.discard p.ticket).outward →
      (n.continueSend read p cancelled first).2 = (n'.continueSend read p cancelled first).2 ∧
        (n.continueSend read p cancelled first).2 =
          some ⟨p.id, Node.faultStatus, Node.faultText n.nextId, none⟩) := by
  -- Whole runs, one fault, one request that begins and one answer that cannot be read.
  refine ⟨?runs, ?handler, ?dispatch, ?answer⟩
  case runs =>
    intro n n' ms ms' hn hms
    have hstart : Alike { node := n } { node := n' } := ⟨hn, rfl, rfl, rfl⟩
    exact alike_run hstart hms
  case handler =>
    intro n route e f
    exact ⟨n.disposition_conclude_error route e f, n.faulted_conclude route e f,
      n.faultReply_cases e⟩
  case dispatch =>
    intro α n n' l now hn
    exact (Prod.mk.inj (Node.discreet_beginSend l now hn)).2
  case answer =>
    intro α n n' read p o o' cancelled first h h' ho ho' hrest
    have hsame := Node.shown_continueSend_of_unreadable h h' ho ho' hrest cancelled first
    exact ⟨(Prod.mk.inj hsame).2, Node.continueSend_of_unreadable h ho cancelled first⟩

/-- A handler fails with an error of the host or panics. Its host sees the difference, and the
sender gets the same reply. -/
theorem alike_whatever_was_raised :
    let ms (f : Fault) : List Move := [.take sampleMessage 0, .finish 0 (.error f)]
    let r := run { node := sample false } (ms (.raised ["open jobs.db", "no such file"]))
    let r' := run { node := sample false } (ms .aborted)
    Alike r r' ∧ r.node.log ≠ r'.node.log ∧
      r.node.outbox.map (·.statusText) = [some (Node.faultText (sample false).nextId)] := by
  refine ⟨fault_details_stay_inside.1 _ _ _ _ rfl ?_, by decide +kernel, by decide +kernel⟩
  exact .cons (.same _) (.cons (.faults 0 _ _) .nil)

/-- A handler that fails while it runs leads to one failure that is counted, one entry in the log,
one notice to a host that wants to know and one reply to a sender that wants one. A handler that
panics when it is called leads to none of these, though its call is counted. So a node's counts are
what became of its messages exactly if no handler has panicked when it was called. -/
theorem faults_accounted_iff_none_died (n : Node) (ms : List Move) :
    (∀ (route : Route Handler) (e : Envelope) (f : Fault),
      let concluded := n.conclude route e (.error f)
      concluded.2 = .faulted n.nextId ∧ n.Faulted route e f concluded.1 ∧
        (∀ k, concluded.1.roster.router.tally k = if route.number = k then
          (n.roster.router.tally k).failed else n.roster.router.tally k) ∧
        (e.returnAddress = none ∧ n.faultReply e = none ∨
          ∃ reply, n.faultReply e = some reply ∧ Node.TellsOfFault e n.nextId reply)) ∧
    (∀ (e : Envelope) (route : Route Handler) (now : Instant),
      (n.roster.router.resolve e.header).2 = some route →
      (n.accept e now).1 = n.called e route now ∧
        (∀ k, (n.accept e now).1.roster.router.tally k = if route.number = k then
          (n.roster.router.tally k).invoked now else n.roster.router.tally k) ∧
        (n.accept e now).2 = if route.handler.refuses (n.requestOf e) then .escaped
          else .handling route (n.requestOf e)) ∧
    Balanced n (run { node := n } ms) ∧
      ((run { node := n } ms).inHand = [] → (Accounts n (run { node := n } ms) ↔
        ∀ route, .died route ∉ (run { node := n } ms).verdicts)) := by
  have hbalanced := balanced_run n ms
  refine ⟨?ends, ?calls, hbalanced, fun hdone => accounts_iff_none_died hbalanced hdone⟩
  case ends =>
    intro route e f
    have hfaulted := n.faulted_conclude route e f
    refine ⟨n.disposition_conclude_error route e f, hfaulted, fun k => ?_, n.faultReply_cases e⟩
    rw [hfaulted.roster]
    exact n.roster.router.tally_count route.number k Tally.failed
  case calls =>
    intro e route now hfound
    rw [Node.accept_of_some hfound]
    refine ⟨rfl, fun k => ?_, rfl⟩
    show ((n.roster.router.resolve e.header).1.count route.number (·.invoked now)).tally k = _
    rw [Router.tally_count, Router.tally_resolve]

/-- The handler has failed, and yet there is no failure that is counted, no entry in the log, no
notice to the host and no reply. -/
theorem died_uncounted :
    let r := run { node := sample true } [.take sampleMessage 0]
    ¬ Accounts (sample true) r ∧ r.verdicts = [.died 0] ∧ r.inHand.isEmpty ∧
      r.node.roster.router.tally 0 = { invocations := 1, failures := 0, lastInvoked := some 0 } ∧
      r.node.log = [] ∧ r.node.roster.journal = (sample true).roster.journal ∧
      r.node.outbox = [] ∧ r.node.loopback = [] := by
  -- The call is counted and there is no verdict that it could belong to.
  refine ⟨fun haccounts => ?_, by decide +kernel⟩
  exact absurd (haccounts 0).2 (by decide +kernel)

end Reception

end CommandMesh
