import CommandMesh.Node.Lifecycle
import CommandMesh.Proofs.Node.Backlog
import CommandMesh.Proofs.Node.Callers

/-!
# `CommandMesh.Proofs.Node.Desk`: callers that share a node

A `Desk` is a node together with the callers whose requests wait and the cancellation tokens that
were cancelled. A `Desk.Move` is what may happen next: a caller sends a request, a caller that waits
goes on, an answer comes in, a sweep, a token is cancelled, the node is stopped, or the node does
anything else, which leaves its waitlist alone. Moves come in any order. Where a caller that waits
finds both its outcome and its token cancelled, the move says which it looks at first.

What the model assumes of callers is little. They are independent of each other, any number of them
may share a token, and a caller may be passed over for as long as one likes. A caller that goes on
does so in one move: it looks, withdraws its request if it has to, and takes what is there. It notes
that it has seen its token cancelled and does not withdraw its request a second time. Instants are
arbitrary; a sweep at an instant settles what has expired by it, and nothing says that instants
grow.

The `meanwhile` move stands for the rest of the node. It may change everything but the waitlist, so
what holds of every run holds whatever else the node does between the moves of its callers.

`Desk.op?` is the operation on the waitlist by which a move settles requests. With it every move
that sends nothing is one operation on the waitlist, after which a caller may take what is under its
ticket. The invariant is `Desk.Sound`: the waitlist serves the callers.

* `waitlist_stop`: a node that stops does to its waitlist what a shutdown does.
* `step_resume_of_some`, `step_resume_of_none`: what a caller does that goes on.
* `steps_step`: every move is of one of three kinds.
* `serves_step`, `serves_run`: the waitlist and the callers fit together after every run.
* `pending_step`: a move that sends nothing takes off the list the requests that its operation ends.
-/

set_option autoImplicit false

namespace CommandMesh

/-- An element of a list to which one more was added is that one, or it was there before. -/
theorem append_singleton_eq_iff {α : Type} {l before after : List α} {x y : α} :
    l ++ [y] = before ++ x :: after ↔
      before = l ∧ x = y ∧ after = [] ∨ ∃ rest, after = rest ++ [y] ∧ l = before ++ x :: rest := by
  constructor
  · intro h
    -- Either nothing comes after the element, or what comes last is the one that was added.
    rcases List.eq_nil_or_concat' after with rfl | ⟨rest, z, rfl⟩
    · obtain ⟨rfl, heq⟩ := List.append_inj' h rfl
      exact Or.inl ⟨rfl, (List.head_eq_of_cons_eq heq).symm, rfl⟩
    · rw [← List.cons_append, ← List.append_assoc] at h
      obtain ⟨rfl, heq⟩ := List.append_inj' h rfl
      exact Or.inr ⟨rest, by rw [List.head_eq_of_cons_eq heq], rfl⟩
  · rintro (⟨rfl, rfl, rfl⟩ | ⟨rest, rfl, rfl⟩)
    · rfl
    · simp

namespace Node

/-! ### Steps that leave the waitlist alone -/

/-- An announcement leaves the waitlist alone. -/
theorem waitlist_broadcast (n : Node) (a : Announcement) :
    (n.broadcast a).waitlist = n.waitlist := by
  rw [broadcast_eq]
  cases hlink : n.setup.link with
  | bus => simp only [submit, hlink]
  | dead reason =>
    simp only [submit, hlink]
    exact (keeps_report _ _).waitlist

/-- To bring what is the master's in line leaves the waitlist alone. -/
theorem waitlist_syncMasters (n : Node) : n.syncMasters.waitlist = n.waitlist := by
  unfold syncMasters
  split
  · rfl
  · split <;> rfl

/-- To resign leaves the waitlist alone. -/
theorem waitlist_stopMaster (n : Node) (now : Instant) :
    ((n.stopMaster now).getD n).waitlist = n.waitlist := by
  unfold stopMaster
  cases n.candidate.deactivate now with
  | none => rfl
  | some c => exact (waitlist_syncMasters _).trans (waitlist_broadcast _ _)

/-- A node that is running stops, and cancels what waits. -/
theorem waitlist_stop (n : Node) (now : Instant) (h : n.running = true) :
    ∃ n', n.stop now = .ok n' ∧ n'.waitlist = n.waitlist.shutdown.1 := by
  unfold stop
  rw [h]
  refine ⟨_, rfl, ?_⟩
  -- To resign and to remove routes and jobs leaves the waitlist as it is.
  show (Waitlist.shutdown (((({ n with running := false } : Node).stopMaster now).getD
    { n with running := false }).waitlist)).1 = _
  rw [waitlist_stopMaster]

/-- A node that does not run cannot be stopped, and says so. -/
theorem stop_of_not_running {n : Node} (now : Instant) (h : n.running = false) :
    n.stop now = .error (.notStarted n.setup.name) := by
  simp [stop, h]

/-- To withdraw a request is to cancel it. -/
theorem waitlist_cancelSend (n : Node) (id : String) (now : Instant) :
    (n.cancelSend id).waitlist = (n.waitlist.perform now (.cancel id)).1 := by
  simp only [cancelSend, Waitlist.perform]
  cases n.waitlist.cancel id <;> rfl

/-- To take a message as the answer to a request is to complete that request. -/
theorem waitlist_takeAnswer (n : Node) (e : Envelope) (now : Instant) :
    (n.takeAnswer e).waitlist = match e.inReplyTo with
      | some id => (n.waitlist.perform now (.complete id e)).1
      | none => n.waitlist := by
  unfold takeAnswer
  cases e.inReplyTo with
  | none => rfl
  | some id =>
    simp only [Waitlist.perform]
    cases n.waitlist.complete id e <;> rfl

/-- A response is made of an outcome. At most a fault is logged. -/
theorem keeps_settleSend {α : Type} (n : Node) (read : List UInt8 → Except Failure α) (p : Pending)
    (o : Outcome) : Keeps n (n.settleSend read p o).1 := by
  cases o with
  | timedOut => exact Keeps.refl n
  | cancelled => exact Keeps.refl n
  | answered e =>
    simp only [settleSend]
    split
    · exact Keeps.refl n
    · cases read e.body with
      | ok a => exact Keeps.refl n
      | error f => exact keeps_faultResponse n _ _ _

end Node

/-- A caller whose request waits. -/
structure Caller where
  pending : Pending
  /-- The token that cancels the request, if there is one. -/
  token : Option Nat
  /-- Whether the caller has seen that its token was cancelled. -/
  withdrawn : Bool := false
  read : List UInt8 → Except Failure Json

/-- A node and those that wait for it. -/
structure Desk where
  node : Node
  callers : List Caller := []
  /-- The tokens that were cancelled. -/
  cancelled : List Nat := []

namespace Desk

/-- What may happen next. -/
inductive Move where
  | send (l : Letter) (token : Option Nat) (read : List UInt8 → Except Failure Json)
  /-- The caller at this place goes on. -/
  | resume (k : Nat) (first : Glance)
  | answer (e : Envelope)
  | sweep
  | cancel (token : Nat)
  | stop
  /-- Whatever else the node does, short of its waitlist. -/
  | meanwhile (change : Node → Node)

/-- Whether a caller makes the move. -/
def Move.isOfCaller : Move → Bool
  | send _ _ _ | resume _ _ => true
  | answer _ | sweep | cancel _ | stop | meanwhile _ => false

/-- Whether a caller sees now that its token was cancelled. -/
def sees (d : Desk) (c : Caller) : Bool := !c.withdrawn && c.token.any (· ∈ d.cancelled)

/-- Lets the caller at a place go on. -/
def resume (d : Desk) (k : Nat) (c : Caller) (first : Glance) : Desk × Option (Response Json) :=
  match d.node.continueSend c.read c.pending (d.sees c) first with
  | (node, some r) => ({ d with node, callers := d.callers.eraseIdx k }, some r)
  | (node, none) =>
    let c := { c with withdrawn := c.withdrawn || d.sees c }
    ({ d with node, callers := d.callers.set k c }, none)

/-- What a move does, and what it gives to a caller. -/
def step (d : Desk) (now : Instant) : Move → Desk × Option (Except Failure (Response Json))
  | .send l token read =>
    match d.node.beginSend (α := Json) l now with
    | (node, .failed f) => ({ d with node }, some (.error f))
    | (node, .ended r) => ({ d with node }, some (.ok r))
    | (node, .waits pending) =>
      ({ d with node, callers := d.callers ++ [{ pending, token, read }] }, none)
  | .resume k first =>
    match d.callers[k]? with
    | none => (d, none)
    | some c =>
      let (d, r) := d.resume k c first
      (d, r.map .ok)
  | .answer e => ({ d with node := d.node.takeAnswer e }, none)
  | .sweep => ({ d with node := d.node.sweep now }, none)
  | .cancel token => ({ d with cancelled := token :: d.cancelled }, none)
  | .stop =>
    match d.node.stop now with
    | .ok node => ({ d with node }, none)
    | .error f => (d, some (.error f))
  | .meanwhile change =>
    ({ d with node := { change d.node with waitlist := d.node.waitlist } }, none)

/-- Moves in turn, each at its time. -/
def run (d : Desk) (ms : List (Instant × Move)) : Desk :=
  ms.foldl (fun d (now, m) => (d.step now m).1) d

/-- A run of two parts is the second after the first. -/
theorem run_append (d : Desk) (ms ms' : List (Instant × Move)) :
    d.run (ms ++ ms') = (d.run ms).run ms' := by
  simp [run]

/-- A run with one move more is that move after the run. -/
theorem run_append_singleton (d : Desk) (ms : List (Instant × Move)) (now : Instant) (m : Move) :
    d.run (ms ++ [(now, m)]) = ((d.run ms).step now m).1 := by
  simp [run]

/-- A node with a new waitlist, for which nobody waits. -/
def opened (n : Node) : Desk := ⟨{ n with waitlist := {} }, [], []⟩

/-- The waitlist of the node. -/
def waitlist (d : Desk) : Waitlist := d.node.waitlist

/-- The requests that are waited for. -/
def requests (d : Desk) : List Pending := d.callers.map (·.pending)

/-! ### How a move settles requests -/

/-- Whether a caller that goes on withdraws its request first. -/
def withdraws (d : Desk) (c : Caller) (first : Glance) : Bool :=
  d.sees c && (!(d.waitlist.outcome? c.pending.ticket).isSome || first == .cancellation)

/-- The operation by which a move settles requests. -/
def op? (d : Desk) : Move → Option WaitlistOp
  | .resume k first =>
    d.callers[k]?.bind fun c =>
      if d.withdraws c first then some (.cancel c.pending.id) else none
  | .answer e => e.inReplyTo.map fun id => .complete id e
  | .sweep => some .sweep
  | .stop => if d.node.running then some .shutdown else none
  | .send _ _ _ | .cancel _ | .meanwhile _ => none

/-- The outcome that a move settles a request with, if it settles it. -/
def outcomeBy (d : Desk) (now : Instant) (m : Move) (r : Waiting) : Option Outcome :=
  (d.op? m).bind fun op => op.outcomeFor now r

/-- The waitlist after a move has settled requests, and before a caller takes its outcome. -/
def settled (d : Desk) (now : Instant) (m : Move) : Waitlist :=
  match d.op? m with
  | some op => (d.waitlist.perform now op).1
  | none => d.waitlist

/-- No move settles requests by registering one. -/
theorem op?_ne_register {d : Desk} {m : Move} {op : WaitlistOp} (h : d.op? m = some op)
    (id : String) (request : Envelope) (ttl : Span) (awaited : Bool) :
    op ≠ .register id request ttl awaited := by
  rintro rfl
  cases m <;> simp [op?, Option.bind_eq_some_iff] at h

/-- A move settles the requests that its operation ends, and no other. -/
theorem settles_settled {d : Desk} (h : d.waitlist.Tidy) (now : Instant) (m : Move) :
    ∃ n, d.waitlist.Settles (d.outcomeBy now m) (d.settled now m) n := by
  unfold outcomeBy settled
  -- A move without an operation settles nothing.
  cases hop : d.op? m with
  | none => exact ⟨0, Waitlist.Settles.refl fun _ _ => rfl⟩
  | some op => exact ⟨_, Waitlist.settles_perform h now op (op?_ne_register hop)⟩

/-! ### A caller that goes on -/

section Resume

variable {d : Desk} {k : Nat} {c : Caller} {first : Glance} {now : Instant}

/-- A caller that goes on takes what is under its ticket after it has withdrawn its request, if it
does. -/
theorem resumeSend_eq (d : Desk) (c : Caller) (first : Glance) :
    d.node.resumeSend c.pending (d.sees c) first =
      (if d.withdraws c first then d.node.cancelSend c.pending.id else d.node).takeOutcome
        c.pending := by
  unfold Node.resumeSend withdraws
  rw [apply_ite (Node.takeOutcome · c.pending)]
  rfl

/-- A caller that goes on cancels its request if it withdraws it, and otherwise settles nothing. -/
theorem op?_resume (hc : d.callers[k]? = some c) :
    d.op? (.resume k first) =
      if d.withdraws c first then some (.cancel c.pending.id) else none := by
  simp [op?, hc]

/-- To withdraw a request, or not to, does to the waitlist what the move settles. -/
theorem waitlist_withdrawn (hc : d.callers[k]? = some c) (first : Glance) (now : Instant) :
    (if d.withdraws c first then d.node.cancelSend c.pending.id else d.node).waitlist =
      d.settled now (.resume k first) := by
  unfold settled
  rw [op?_resume hc]
  split
  · exact d.node.waitlist_cancelSend c.pending.id now
  · rfl

/-- A caller that finds an outcome takes it, tells its response and leaves. -/
theorem step_resume_of_some (hc : d.callers[k]? = some c) {o : Outcome}
    (ho : (d.settled now (.resume k first)).outcome? c.pending.ticket = some o) :
    (d.step now (.resume k first)).1.waitlist =
        (d.settled now (.resume k first)).discard c.pending.ticket ∧
      (d.step now (.resume k first)).1.callers = d.callers.eraseIdx k ∧
      ∃ n : Node,
        (d.step now (.resume k first)).2 = some (.ok (n.settleSend c.read c.pending o).2) := by
  have hlist := waitlist_withdrawn hc first now
  generalize hn : (if d.withdraws c first then d.node.cancelSend c.pending.id else d.node) = n
    at hlist
  have htaken : d.node.resumeSend c.pending (d.sees c) first =
      (n.discard c.pending.ticket, some o) := by
    rw [resumeSend_eq, hn, Node.takeOutcome, hlist, ho]
  have hstep : d.step now (.resume k first) =
      (⟨((n.discard c.pending.ticket).settleSend c.read c.pending o).1, d.callers.eraseIdx k,
          d.cancelled⟩,
        some (.ok ((n.discard c.pending.ticket).settleSend c.read c.pending o).2)) := by
    simp only [step, hc, resume, Node.continueSend, htaken, Option.map_some]
  rw [hstep]
  refine ⟨?_, rfl, _, rfl⟩
  show ((n.discard c.pending.ticket).settleSend c.read c.pending o).1.waitlist = _
  rw [(Node.keeps_settleSend _ _ _ _).waitlist, ← hlist]
  rfl

/-- A caller that finds no outcome goes on waiting. -/
theorem step_resume_of_none (hc : d.callers[k]? = some c)
    (ho : (d.settled now (.resume k first)).outcome? c.pending.ticket = none) :
    (d.step now (.resume k first)).1.waitlist = d.settled now (.resume k first) ∧
      (d.step now (.resume k first)).1.callers =
        d.callers.set k { c with withdrawn := c.withdrawn || d.sees c } ∧
      (d.step now (.resume k first)).2 = none := by
  have hlist := waitlist_withdrawn hc first now
  generalize hn : (if d.withdraws c first then d.node.cancelSend c.pending.id else d.node) = n
    at hlist
  have htaken : d.node.resumeSend c.pending (d.sees c) first = (n, none) := by
    rw [resumeSend_eq, hn, Node.takeOutcome, hlist, ho]
  have hstep : d.step now (.resume k first) =
      (⟨n, d.callers.set k { c with withdrawn := c.withdrawn || d.sees c }, d.cancelled⟩,
        none) := by
    simp only [step, hc, resume, Node.continueSend, htaken, Option.map_none]
  rw [hstep]
  exact ⟨hlist, rfl, rfl⟩

end Resume

/-! ### What a move does -/

/-- What a move does to the waitlist and to the requests that are waited for. -/
inductive Steps (d : Desk) (now : Instant) (m : Move) (d' : Desk) : Prop where
  /-- A request is sent, and its caller waits if the request does. -/
  | sends {l : Letter} {token : Option Nat} {read : List UInt8 → Except Failure Json}
      {s : SendStart Json} : m = .send l token read → s = (d.node.beginSend l now).2 →
      d'.node = (d.node.beginSend (α := Json) l now).1 →
      d'.requests = d.requests ++ s.pending?.toList → Steps d now m d'
  /-- Requests are settled, and a caller leaves with its outcome. -/
  | leaves {k : Nat} {first : Glance} {c : Caller} {o : Outcome} : m = .resume k first →
      d.callers[k]? = some c → (d.settled now m).outcome? c.pending.ticket = some o →
      d'.waitlist = (d.settled now m).discard c.pending.ticket →
      d'.requests = d.requests.eraseIdx k → Steps d now m d'
  /-- Requests are settled, and nobody leaves. -/
  | stays : (∀ l token read, m ≠ .send l token read) → d'.waitlist = d.settled now m →
      d'.requests = d.requests → Steps d now m d'

/-- A move that settles requests, and lets no caller go on, keeps the callers as they are. -/
theorem step_of_op (d : Desk) (now : Instant) (m : Move) (hm : m.isOfCaller = false) :
    (d.step now m).1.waitlist = d.settled now m ∧ (d.step now m).1.callers = d.callers := by
  -- Each of these moves is the operation itself, or leaves the waitlist alone.
  cases m with
  | send | resume => simp [Move.isOfCaller] at hm
  | answer e =>
    refine ⟨?_, rfl⟩
    show (d.node.takeAnswer e).waitlist = _
    rw [d.node.waitlist_takeAnswer e now]
    simp only [settled, op?]
    cases e.inReplyTo <;> rfl
  | sweep => exact ⟨rfl, rfl⟩
  | cancel token => exact ⟨rfl, rfl⟩
  | stop =>
    cases hrun : d.node.running with
    | false =>
      have hstep : d.step now .stop = (d, some (.error (.notStarted d.node.setup.name))) := by
        simp [step, Node.stop_of_not_running now hrun]
      rw [hstep]
      simp [settled, op?, hrun]
    | true =>
      obtain ⟨n, hstop, hlist⟩ := d.node.waitlist_stop now hrun
      have hstep : d.step now .stop = ({ d with node := n }, none) := by simp [step, hstop]
      rw [hstep]
      simp only [settled, op?, hrun, if_true]
      exact ⟨hlist, trivial⟩
  | meanwhile change => exact ⟨rfl, rfl⟩

/-- A caller that sends a request waits if the request does, and is told else how it ended. -/
theorem step_send (d : Desk) (now : Instant) (l : Letter) (token : Option Nat)
    (read : List UInt8 → Except Failure Json) :
    (d.step now (.send l token read)).1.node = (d.node.beginSend (α := Json) l now).1 ∧
      (d.step now (.send l token read)).1.callers =
        d.callers ++ ((d.node.beginSend (α := Json) l now).2.pending?.map fun pending =>
          ({ pending, token, read } : Caller)).toList ∧
      (d.step now (.send l token read)).2 = (d.node.beginSend (α := Json) l now).2.reply? := by
  simp only [step]
  rcases d.node.beginSend (α := Json) l now with ⟨node, f | r | p⟩
  · exact ⟨rfl, (List.append_nil _).symm, rfl⟩
  · exact ⟨rfl, (List.append_nil _).symm, rfl⟩
  · exact ⟨rfl, rfl, rfl⟩

/-- A caller that goes on leaves with its outcome, or waits on. -/
theorem steps_resume (d : Desk) (now : Instant) (k : Nat) (first : Glance) :
    d.Steps now (.resume k first) (d.step now (.resume k first)).1 := by
  cases hc : d.callers[k]? with
  | none =>
    refine .stays (by simp) ?_ ?_
    · simp [step, settled, op?, hc]
    · simp [step, hc]
  | some c =>
    have hp : d.requests[k]? = some c.pending := by simp [requests, hc]
    -- What matters is what is under the ticket once the request was withdrawn, if it was.
    cases ho : (d.settled now (.resume k first)).outcome? c.pending.ticket with
    | some o =>
      obtain ⟨hlist, hcallers, -⟩ := step_resume_of_some hc ho
      refine .leaves rfl hc ho hlist ?_
      rw [requests, hcallers, ← List.eraseIdx_map]
      rfl
    | none =>
      obtain ⟨hlist, hcallers, -⟩ := step_resume_of_none hc ho
      refine .stays (by simp) hlist ?_
      -- What a caller notes about its token is no matter of the waitlist.
      obtain ⟨hk, heq⟩ := List.getElem?_eq_some_iff.mp hp
      rw [requests, hcallers, List.map_set, ← heq]
      exact List.set_getElem_self hk

/-- Every move sends a request, lets a caller leave, or settles requests only. -/
theorem steps_step (d : Desk) (now : Instant) (m : Move) : d.Steps now m (d.step now m).1 := by
  cases hm : m.isOfCaller with
  | true =>
    cases m with
    | send l token read =>
      obtain ⟨hnode, hcallers, -⟩ := d.step_send now l token read
      refine .sends rfl rfl hnode ?_
      rw [requests, hcallers, List.map_append]
      cases (d.node.beginSend (α := Json) l now).2.pending? <;> rfl
    | resume k first => exact d.steps_resume now k first
    | answer | sweep | cancel | stop | meanwhile => simp [Move.isOfCaller] at hm
  | false =>
    obtain ⟨hlist, hcallers⟩ := step_of_op d now m hm
    refine .stays ?_ hlist (by rw [requests, hcallers]; rfl)
    rintro l token read rfl
    simp [Move.isOfCaller] at hm

/-! ### The callers are served -/

/-- The node's waitlist and its callers fit together. -/
def Sound (d : Desk) : Prop := d.waitlist.Serves d.requests

/-- At first there is nothing to serve. -/
theorem sound_opened (n : Node) : (opened n).Sound := Waitlist.serves_empty

/-- Nothing has been delivered under the next ticket. -/
theorem fresh_of_sound {d : Desk} (h : d.Sound) :
    ∀ x ∈ d.node.waitlist.outcomes, x.1 ≠ d.node.waitlist.nextTicket := by
  exact fun x hx => Nat.ne_of_lt (h.ticket_lt (Or.inr (List.mem_map_of_mem hx)))

/-- The callers are served after a move has settled requests, and before anybody takes an outcome.
-/
theorem Sound.settled {d : Desk} (h : d.Sound) (now : Instant) (m : Move) :
    (d.settled now m).Serves d.requests := by
  obtain ⟨n, hsettles⟩ := settles_settled h.tidy now m
  exact h.settles hsettles

/-- A request that begins in one of its ways leaves the waitlist serving the callers, and the new
one if it waits. -/
theorem serves_of_departs {n n' : Node} {l : Letter} {now : Instant} {s : SendStart Json}
    {ps : List Pending} (h : n.waitlist.Serves ps) (hs : n.Departs l now n' s) :
    n'.waitlist.Serves (ps ++ s.pending?.toList) := by
  cases hs with
  | notStarted | unwritten => simpa [SendStart.pending?] using h
  | dispatched hrun hbody hdispatched =>
    -- Only a request that is awaited adds a caller, and it takes the next ticket.
    cases hdispatched with
    | duplicate hlisted hkeeps => simpa [SendStart.pending?, hkeeps.waitlist] using h
    | undelivered hnew hinside hlink hlist hnext =>
      rw [hlist]
      simpa [SendStart.pending?] using h.skip hnext
    | accepted hnew hdetached hlist =>
      rw [hlist]
      have hserves := h.list hnew (Text.correlationForm_correlationForm _)
        (by simp [Node.entry, hdetached])
      simpa [SendStart.pending?] using hserves
    | awaited hnew hdetached hlist =>
      rw [hlist]
      exact h.enlist hnew (Text.correlationForm_correlationForm _) (by simp [Node.entry, hdetached])

/-- Every move keeps the waitlist and the callers together. -/
theorem serves_step {d : Desk} (h : d.Sound) (now : Instant) (m : Move) :
    (d.step now m).1.Sound := by
  cases d.steps_step now m with
  | @sends l token read s hm hs hnode hrequests =>
    have hdeparts := d.node.departs_beginSend (α := Json) l now (fresh_of_sound h)
    rw [Sound, waitlist, hnode, hrequests, hs]
    exact serves_of_departs h hdeparts
  | leaves hm hc ho hlist hrequests =>
    -- First requests are settled, then the caller takes its outcome.
    have hserves := h.settled now m
    rw [Sound, hlist, hrequests]
    exact hserves.collect (by simp [requests, hc]) (hserves.mem_settledTickets.mpr ⟨_, ho⟩)
  | stays hm hlist hrequests =>
    rw [Sound, hlist, hrequests]
    exact h.settled now m

/-- After every run the waitlist and the callers fit together. -/
theorem serves_run {d : Desk} (h : d.Sound) (ms : List (Instant × Move)) : (d.run ms).Sound := by
  -- By induction from the end, since a run goes move by move.
  induction ms using List.reverseRecOn with
  | nil => exact h
  | append_singleton ms x ih =>
    rw [run_append_singleton]
    exact serves_step ih x.1 x.2

/-! ### The list and the outcomes after a move -/

/-- A move that sends nothing takes off the list what it ends. -/
theorem pending_step {d : Desk} (h : d.Sound) {now : Instant} {m : Move}
    (hm : ∀ l token read, m ≠ .send l token read) :
    (d.step now m).1.waitlist.pending =
      d.waitlist.pending.filter fun r => (d.outcomeBy now m r).isNone := by
  obtain ⟨n, hsettles⟩ := settles_settled h.tidy now m
  rw [← hsettles.pending]
  -- A caller that leaves takes an outcome, and nothing that waits.
  cases d.steps_step now m with
  | sends heq => exact absurd heq (hm _ _ _)
  | leaves heq hc ho hlist => rw [hlist]; rfl
  | stays heq hlist => rw [hlist]

end Desk

end CommandMesh
