import CommandMesh.Node.Outbound
import CommandMesh.Proofs.Waitlist.Settlement

/-!
# `CommandMesh.Proofs.Node.Departure`: how a request begins

`Node.beginSend` ends in one of six ways, whose conditions exclude each other. `Node.Dispatched` has
a constructor for each way in which a message can be dispatched, and `Node.Departs` adds those in
which a request never gets so far. Each says what the caller is told and what the node is left with:
its waitlist and the messages that it has posted.

The relations are read by everything that follows a request on its way, so that nobody has to open
`beginSend` again. They leave out what is of no matter to a request: the log, the counters, and what
was drawn from the supply of random choices. `Keeps` is the frame of this module, for what neither
lists nor posts anything.

The one hypothesis is that nothing has been delivered under the next ticket. It is needed in one
place only: a request that is listed and then cannot be sent is cancelled, and the cancellation that
was delivered under its ticket is thrown away. If an outcome were already there under that ticket,
it would be thrown away too. Every waitlist that serves its callers has this property.

* `emit_cases`: a message is posted, or the link is down and the node is as it was.
* `waitlist_retractSend`: of a request that is retracted nothing stays but that its ticket was
  handed out.
* `dispatched_dispatch`, `departs_beginSend`: every message, and every request, goes one of these
  ways.

The link is taken to be up or down for good, as it was set up; a link that fails in the middle of a
run is not modelled.
-/

set_option autoImplicit false

namespace CommandMesh

namespace Waitlist

/-- The request that is listed last is settled under its id if no other one has this id. -/
theorem settle_append {w : Waitlist} {rest : List Waiting} {r : Waiting}
    (hpending : w.pending = rest ++ [r]) (hnew : r.id ∉ rest.map (·.id)) (o : Outcome) :
    w.settle r.id o = some (({ w with pending := rest } : Waitlist).deliver r o) := by
  have hmiss : ∀ r' ∈ rest, ¬ (r'.id == r.id) = true := fun r' hr' heq =>
    hnew (List.mem_map.mpr ⟨r', hr', by simpa using heq⟩)
  -- No request before the last one has its id, so the last one is found and taken off.
  have hfind : (rest ++ [r]).find? (·.id == r.id) = some r := by
    rw [List.find?_append, List.find?_eq_none.mpr hmiss]
    simp
  have herase : (rest ++ [r]).eraseP (·.id == r.id) = rest := by
    rw [List.eraseP_append_right _ hmiss, List.eraseP_cons_of_pos (by simp), List.append_nil]
  simp only [settle, find?, hpending, hfind, herase, Option.map_some]

end Waitlist

/-- The request that is waited for from now on, if there is one. -/
def SendStart.pending? {α : Type} : SendStart α → Option Pending
  | .waits p => some p
  | .failed _ | .ended _ => none

/-- What the caller is told at once. -/
def SendStart.reply? {α : Type} : SendStart α → Option (Except Failure (Response α))
  | .failed f => some (.error f)
  | .ended r => some (.ok r)
  | .waits _ => none

namespace Node

variable {α : Type} {n n' : Node}

/-! ### What stays the same -/

/-- The waitlist and the messages that were posted are as before. -/
structure Keeps (n n' : Node) : Prop where
  waitlist : n'.waitlist = n.waitlist
  outbox : n'.outbox = n.outbox
  loopback : n'.loopback = n.loopback

/-- A node keeps what it has. -/
theorem Keeps.refl (n : Node) : Keeps n n := ⟨rfl, rfl, rfl⟩

/-- A log entry touches neither the waitlist nor the messages. -/
theorem keeps_report (n : Node) (x : LogEntry) : Keeps n (n.report x) := by
  unfold report
  split <;> exact ⟨rfl, rfl, rfl⟩

/-- Making up the response that tells of a fault touches neither the waitlist nor the messages. -/
theorem keeps_faultResponse (n : Node) (id context error : String) :
    Keeps n (n.faultResponse (α := α) id context error).1 :=
  -- The tracking id is drawn before anything is logged.
  let drawn := (n.draw Supply.fresh).1
  have h := keeps_report drawn _
  ⟨h.waitlist, h.outbox, h.loopback⟩

/-! ### Messages -/

/-- The message is posted inside the node, or over its link, which is up. -/
inductive Posts (n : Node) (e : Envelope) (n' : Node) : Prop where
  | inside : e.loopback = true → n'.loopback = n.loopback ++ [e] → n'.outbox = n.outbox →
      Posts n e n'
  | outside : e.loopback = false → n.setup.link = .bus → n'.outbox = n.outbox ++ [e] →
      n'.loopback = n.loopback → Posts n e n'

/-- A message that is posted by a node is posted by any that had the same setup and the same
messages before. -/
theorem Posts.of_same {m : Node} {e : Envelope} (h : m.Posts e n') (hsetup : m.setup = n.setup)
    (houtbox : m.outbox = n.outbox) (hloopback : m.loopback = n.loopback) : n.Posts e n' := by
  cases h with
  | inside he hpost hsame => exact .inside he (hloopback ▸ hpost) (houtbox ▸ hsame)
  | outside he hup hpost hsame =>
    exact .outside he (hsetup ▸ hup) (houtbox ▸ hpost) (hloopback ▸ hsame)

/-- A message is posted, and nothing else changes that matters to requests, or it is meant for the
link and the link is down. -/
theorem emit_cases (n : Node) (e : Envelope) :
    (∃ n', n.emit e = .ok n' ∧ n.Posts e n' ∧ n'.waitlist = n.waitlist) ∨
      ∃ reason, n.emit e = .error reason ∧ e.loopback = false ∧ n.setup.link = .dead reason := by
  unfold emit submit
  -- The link matters only to a message that leaves the node.
  cases he : e.loopback with
  | true => exact Or.inl ⟨_, rfl, .inside he rfl rfl, rfl⟩
  | false =>
    cases hlink : n.setup.link with
    | bus => exact Or.inl ⟨_, rfl, .outside he hlink rfl rfl, rfl⟩
    | dead reason => exact Or.inr ⟨reason, rfl, rfl, rfl⟩

/-- What a message is listed as. It has the next ticket if it is awaited. -/
def entry (n : Node) (options : SendOptions) (e : Envelope) (now : Instant) : Waiting :=
  ⟨Text.correlationForm e.key, e, now, options.wait.getD n.setup.policy.requestSpan,
    if options.detached then none else some n.waitlist.nextTicket⟩

/-- The node once a message is listed. -/
def listed (n : Node) (options : SendOptions) (e : Envelope) (now : Instant) : Node :=
  { n with waitlist := { n.waitlist with
    pending := n.waitlist.pending ++ [n.entry options e now]
    nextTicket := if options.detached then n.waitlist.nextTicket else n.waitlist.nextTicket + 1 } }

/-- What becomes of a message that is dispatched, and of the node that sends it. -/
inductive Dispatched (n : Node) (options : SendOptions) (e : Envelope) (now : Instant) :
    Node → SendStart α → Prop where
  /-- Another request waits under the same id. -/
  | duplicate {n' : Node} :
      (n.entry options e now).id ∈ n.waitlist.pending.map (·.id) → Keeps n n' →
      Dispatched n options e now n' (.failed (.duplicateCorrelation (n.entry options e now).id))
  /-- The link is down. A ticket that was handed out is not handed out again. -/
  | undelivered {n' : Node} {reason text : String} {next : Nat} :
      (n.entry options e now).id ∉ n.waitlist.pending.map (·.id) →
      e.loopback = false → n.setup.link = .dead reason →
      n'.waitlist = { n.waitlist with nextTicket := next } → n.waitlist.nextTicket ≤ next →
      n'.outbox = n.outbox → n'.loopback = n.loopback →
      Dispatched n options e now n'
        (.ended ⟨(n.entry options e now).id, faultStatus, text, none⟩)
  /-- Nobody waits for the answer. -/
  | accepted {n' : Node} :
      (n.entry options e now).id ∉ n.waitlist.pending.map (·.id) → options.detached = true →
      n'.waitlist = { n.waitlist with
        pending := n.waitlist.pending ++ [n.entry options e now] } →
      n.Posts e n' →
      Dispatched n options e now n'
        (.ended ⟨(n.entry options e now).id, acceptedStatus, "Accepted", none⟩)
  /-- The caller waits, with the next ticket. -/
  | awaited {n' : Node} :
      (n.entry options e now).id ∉ n.waitlist.pending.map (·.id) → options.detached = false →
      n'.waitlist = { n.waitlist with
        pending := n.waitlist.pending ++ [n.entry options e now]
        nextTicket := n.waitlist.nextTicket + 1 } →
      n.Posts e n' →
      Dispatched n options e now n'
        (.waits ⟨(n.entry options e now).id, n.waitlist.nextTicket, (n.entry options e now).ttl⟩)

/-- The message that goes out for a letter with this body. -/
def letterMessage (n : Node) (l : Letter) (body : List UInt8) : Envelope :=
  (n.draw (n.requestMessage l body)).2

/-- What becomes of a request at first, and of the node that sends it. -/
inductive Departs (n : Node) (l : Letter) (now : Instant) : Node → SendStart α → Prop where
  | notStarted : n.running = false → Departs n l now n (.failed (.notStarted n.setup.name))
  /-- The payload cannot be written. -/
  | unwritten {f : Failure} : n.running = true → l.body = .error f →
      Departs n l now n (.failed f)
  | dispatched {n' : Node} {s : SendStart α} {body : List UInt8} : n.running = true →
      l.body = .ok body → n.Dispatched l.options (n.letterMessage l body) now n' s →
      Departs n l now n' s

/-! ### Requests that are retracted -/

/-- Of a request that is retracted nothing stays but that its ticket was handed out. -/
theorem waitlist_retractSend {w : Waitlist} {r : Waiting} {next : Nat}
    (hn : n.waitlist = { w with pending := w.pending ++ [r], nextTicket := next })
    (hfree : w.find? r.id = none) (hnormal : Text.correlationForm r.id = r.id)
    (hfresh : ∀ x ∈ w.outcomes, r.ticket ≠ some x.1) :
    (n.retractSend r.id r.ticket).waitlist = { w with nextTicket := next } := by
  have hcancel : (n.cancelSend r.id).waitlist =
      { w with
        nextTicket := next
        outcomes := w.outcomes ++ (r.mail (some .cancelled)).toList } := by
    show (n.waitlist.cancel r.id).getD n.waitlist = _
    rw [hn, Waitlist.cancel, hnormal,
      Waitlist.settle_append rfl (Waitlist.find?_eq_none_iff.mp hfree), Option.getD_some,
      Waitlist.deliver_eq]
  -- Without a ticket the cancellation was delivered to nobody, and there is nothing to discard.
  cases hticket : r.ticket with
  | none =>
    show (n.cancelSend r.id).waitlist = _
    rw [hcancel, Waiting.mail, hticket]
    simp
  | some ticket =>
    show (n.cancelSend r.id).waitlist.discard ticket = _
    -- What the discard takes away is the cancellation that was just delivered, and nothing else.
    have hkeep : w.outcomes.filter (·.1 != ticket) = w.outcomes :=
      List.filter_eq_self.mpr fun x hx => by
        have hne : x.1 ≠ ticket := fun heq => hfresh x hx (by rw [hticket, heq])
        simpa using hne
    rw [hcancel, Waiting.mail, hticket]
    simp [Waitlist.discard, hkeep]

/-- Retracting a request takes back no message that was posted outside. -/
theorem outbox_retractSend (n : Node) (id : String) (ticket : Option Nat) :
    (n.retractSend id ticket).outbox = n.outbox := by
  cases ticket <;> rfl

/-- Retracting a request takes back no message that was posted inside. -/
theorem loopback_retractSend (n : Node) (id : String) (ticket : Option Nat) :
    (n.retractSend id ticket).loopback = n.loopback := by
  cases ticket <;> rfl

/-! ### Every message -/

section

variable {options : SendOptions} {e : Envelope} {now : Instant}

/-- A message under an id that waits is refused. -/
theorem dispatch_of_some {r : Waiting}
    (h : n.waitlist.find? (Text.correlationForm e.key) = some r) :
    n.dispatch (α := α) options e now =
      (n, .failed (.duplicateCorrelation (Text.correlationForm e.key))) := by
  simp only [dispatch, Waitlist.register, Text.correlationForm_correlationForm, h]

/-- A message under a new id is listed. -/
theorem register_entry (h : n.waitlist.find? (Text.correlationForm e.key) = none) :
    n.waitlist.register now (Text.correlationForm e.key) e
        (options.wait.getD n.setup.policy.requestSpan) (!options.detached) =
      .ok ((n.listed options e now).waitlist, (n.entry options e now).ticket) := by
  unfold Waitlist.register listed entry
  simp only [Text.correlationForm_correlationForm, h]
  cases options.detached <;> rfl

/-- A message that was listed and sent is waited for, unless its caller asked not to. -/
theorem dispatch_of_emitted (h : n.waitlist.find? (Text.correlationForm e.key) = none)
    (hemit : (n.listed options e now).emit e = .ok n') :
    n.dispatch (α := α) options e now = (n',
      if options.detached then
        .ended ⟨(n.entry options e now).id, acceptedStatus, "Accepted", none⟩
      else
        .waits ⟨(n.entry options e now).id, n.waitlist.nextTicket,
          (n.entry options e now).ttl⟩) := by
  simp only [dispatch, register_entry h]
  rw [show ({ n with waitlist := (n.listed options e now).waitlist } : Node) =
    n.listed options e now from rfl, hemit]
  unfold entry
  cases options.detached <;> rfl

/-- A message that was listed and cannot be sent is retracted, and its caller is told of a fault. -/
theorem dispatch_of_stuck {reason : String}
    (h : n.waitlist.find? (Text.correlationForm e.key) = none)
    (hemit : (n.listed options e now).emit e = .error reason) :
    n.dispatch (α := α) options e now =
      let told := ((n.listed options e now).retractSend (n.entry options e now).id
        (n.entry options e now).ticket).faultResponse (n.entry options e now).id
          "Dispatch failed" reason
      (told.1, .ended told.2) := by
  simp only [dispatch, register_entry h]
  rw [show ({ n with waitlist := (n.listed options e now).waitlist } : Node) =
    n.listed options e now from rfl, hemit]
  rfl

/-- A message that is listed and cannot be sent leaves nothing behind. -/
theorem dispatched_of_stuck {reason : String}
    (hfree : n.waitlist.find? (n.entry options e now).id = none)
    (hfresh : ∀ x ∈ n.waitlist.outcomes, x.1 ≠ n.waitlist.nextTicket)
    (hinside : e.loopback = false) (hlink : n.setup.link = .dead reason) :
    let told := ((n.listed options e now).retractSend (n.entry options e now).id
      (n.entry options e now).ticket).faultResponse (α := α) (n.entry options e now).id
        "Dispatch failed" reason
    n.Dispatched options e now told.1 (.ended told.2) := by
  intro told
  have hkeeps : Keeps _ told.1 := keeps_faultResponse _ _ _ _
  have hticket : ∀ x ∈ n.waitlist.outcomes, (n.entry options e now).ticket ≠ some x.1 := by
    intro x hx heq
    unfold entry at heq
    dsimp only at heq
    split at heq
    · simp at heq
    · exact hfresh x hx (Option.some.inj heq).symm
  -- The fault is made up after the request was retracted, and changes nothing of that.
  have hundone : told.1.waitlist = _ :=
    hkeeps.waitlist.trans
      (waitlist_retractSend rfl hfree (Text.correlationForm_correlationForm e.key) hticket)
  refine .undelivered (Waitlist.find?_eq_none_iff.mp hfree) hinside hlink hundone ?_ ?_ ?_
  · split <;> omega
  · rw [hkeeps.outbox, outbox_retractSend]
    rfl
  · rw [hkeeps.loopback, loopback_retractSend]
    rfl

/-- Every message is refused, or listed and sent, or not sent and retracted. -/
theorem dispatched_dispatch (hfresh : ∀ x ∈ n.waitlist.outcomes, x.1 ≠ n.waitlist.nextTicket) :
    n.Dispatched options e now (n.dispatch (α := α) options e now).1
      (n.dispatch (α := α) options e now).2 := by
  -- The id is looked up before anything is listed, so a refused message changes nothing at all.
  cases hfind : n.waitlist.find? (Text.correlationForm e.key) with
  | some r =>
    have hlisted : Text.correlationForm e.key ∈ n.waitlist.pending.map (·.id) := by
      by_contra hnone
      rw [Waitlist.find?_eq_none_iff.mpr hnone] at hfind
      exact absurd hfind (by simp)
    rw [dispatch_of_some hfind]
    exact .duplicate hlisted (Keeps.refl n)
  | none =>
    have hnew := Waitlist.find?_eq_none_iff.mp hfind
    rcases (n.listed options e now).emit_cases e with
      ⟨n', hemit, hposts, hlist⟩ | ⟨reason, hemit, hinside, hlink⟩
    · -- The message is posted by the node that has listed it, which differs in its waitlist only.
      have hposts' : n.Posts e n' := hposts.of_same rfl rfl rfl
      rw [dispatch_of_emitted hfind hemit]
      cases hdetached : options.detached with
      | true => exact .accepted hnew hdetached (by rw [hlist, listed, hdetached]; rfl) hposts'
      | false => exact .awaited hnew hdetached (by rw [hlist, listed, hdetached]; rfl) hposts'
    · rw [dispatch_of_stuck hfind hemit]
      exact dispatched_of_stuck hfind hfresh hinside hlink

/-- A dispatch does not depend on what was drawn before it. -/
theorem Dispatched.of_draw {β : Type} {f : Fresh β} {s : SendStart α}
    (h : (n.draw f).1.Dispatched options e now n' s) : n.Dispatched options e now n' s := by
  -- Drawing advances the supply only, which no constructor speaks of.
  cases h with
  | duplicate hlisted hkeeps =>
    exact .duplicate hlisted ⟨hkeeps.waitlist, hkeeps.outbox, hkeeps.loopback⟩
  | undelivered hnew hinside hlink hlist hnext hout hloop =>
    exact .undelivered hnew hinside hlink hlist hnext hout hloop
  | accepted hnew hdetached hlist hposts =>
    exact .accepted hnew hdetached hlist (hposts.of_same rfl rfl rfl)
  | awaited hnew hdetached hlist hposts =>
    exact .awaited hnew hdetached hlist (hposts.of_same rfl rfl rfl)

end

/-- Every request begins in one of the ways. -/
theorem departs_beginSend (n : Node) (l : Letter) (now : Instant)
    (hfresh : ∀ x ∈ n.waitlist.outcomes, x.1 ≠ n.waitlist.nextTicket) :
    n.Departs l now (n.beginSend (α := α) l now).1 (n.beginSend (α := α) l now).2 := by
  -- The checks come in this order: whether the node runs, whether the payload can be written, and
  -- then all that a dispatch looks at.
  cases hrun : n.running with
  | false =>
    have hfailed : n.beginSend (α := α) l now = (n, .failed (.notStarted n.setup.name)) := by
      simp [beginSend, hrun]
    rw [hfailed]
    exact .notStarted hrun
  | true =>
    cases hbody : l.body with
    | error f =>
      have hfailed : n.beginSend (α := α) l now = (n, .failed f) := by
        simp [beginSend, hrun, hbody]
      rw [hfailed]
      exact .unwritten hrun hbody
    | ok body =>
      have hsend : n.beginSend (α := α) l now =
          (n.draw (n.requestMessage l body)).1.dispatch l.options (n.letterMessage l body) now := by
        simp only [beginSend, hrun, hbody]
        rfl
      rw [hsend]
      exact .dispatched hrun hbody (Dispatched.of_draw (dispatched_dispatch hfresh))

end Node

end CommandMesh
