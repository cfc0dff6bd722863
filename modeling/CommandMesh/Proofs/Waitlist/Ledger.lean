import CommandMesh.Waitlist
import Mathlib.Data.List.Basic

/-!
# `CommandMesh.Proofs.Waitlist.Ledger`: the history of a waitlist

A ledger has an `Account` for every request that a waitlist accepted, in the order of acceptance. An
account is never struck out: it is open until an operation ends its request, and then it is closed
by that operation for good. So a ledger says what a waitlist only lets one guess: which requests are
still to be settled, and why the others were.

`WaitlistOp` has a constructor for each of the five operations, and a run is a list of them with the
instants at which they are performed. Nothing is assumed of the instants: they may stand still or
run backwards, and a registration and its sweep may fall together. `WaitlistOp.Ends` says which
operation ends a request with which outcome. It is the specification, a relation with one
constructor for each cause; `WaitlistOp.outcomeFor` is the same as a function, and
`outcomeFor_eq_some_iff` says that the two agree. `Ledger.record` is the whole of what an operation
does to a ledger.

A ledger is not part of what runs. It is kept beside the waitlist to state what became of the
requests that have left it, and the module about settlement shows that the two stay in step. Here
are only the facts about the ledger itself:

* `outcomeFor_eq_some_iff`: the function decides the relation.
* `Ledger.mem_record` and `Ledger.mem_run`: where an account comes from, after one operation and
  after a run.
* `Ledger.opened_by_registration`: an account of a run was opened by a registration, and what closed
  it is a later operation that ends its request.
* `Ledger.openEntries_map_heed`, `Ledger.settledBy_eq`, `Ledger.filterMap_outcomeBy`: what an
  operation does to all accounts at once is what it does to the open ones that it ends.

Not covered: who waits for the outcome, which is the matter of the callers of a node.
-/

set_option autoImplicit false

namespace CommandMesh

/-! ### Operations and their replies -/

/-- What is done with a waitlist. -/
inductive WaitlistOp where
  | register (id : String) (request : Envelope) (ttl : Span) (awaited : Bool)
  | complete (id : String) (answer : Envelope)
  | cancel (id : String)
  | sweep
  | shutdown

/-- The id that an operation is about, unless it is about all requests. -/
def WaitlistOp.id? : WaitlistOp → Option String
  | register id _ _ _ | complete id _ | cancel id => some id
  | sweep | shutdown => none

/-- What an operation on a waitlist gives. -/
inductive WaitlistReply where
  /-- The request was accepted, under this ticket if it is awaited. -/
  | registered (ticket : Option Nat)
  | refused (f : Failure)
  /-- Whether there was a request to settle. -/
  | settled (found : Bool)
  /-- So many requests were settled. -/
  | counted (n : Nat)

namespace WaitlistReply

/-- Whether a request was accepted. -/
def isAccepted : WaitlistReply → Bool
  | registered _ => true
  | _ => false

/-- How many requests an operation says it has settled. -/
def released : WaitlistReply → Nat
  | settled true => 1
  | counted n => n
  | _ => 0

end WaitlistReply

/-- The request that is listed for an operation at `now` with this reply: that of a registration
which was accepted. -/
def WaitlistOp.listed (now : Instant) : WaitlistOp → WaitlistReply → Option Waiting
  | .register id request ttl _, .registered ticket =>
    some ⟨Text.correlationForm id, request, now, ttl, ticket⟩
  | _, _ => none

/-- The operation, performed at `now`, ends the request with this outcome. -/
inductive WaitlistOp.Ends : WaitlistOp → Instant → Waiting → Outcome → Prop where
  /-- An answer under the id of the request, however it is written. -/
  | answer {id : String} {answer : Envelope} {now : Instant} {r : Waiting} :
      Text.correlationForm id = r.id → Ends (.complete id answer) now r (.answered answer)
  /-- A cancellation under the id of the request, however it is written. -/
  | withdrawal {id : String} {now : Instant} {r : Waiting} :
      Text.correlationForm id = r.id → Ends (.cancel id) now r .cancelled
  /-- A sweep after the time of the request is over. -/
  | expiry {now : Instant} {r : Waiting} :
      r.since + r.ttl < now → Ends .sweep now r .timedOut
  | closure {now : Instant} {r : Waiting} : Ends .shutdown now r .cancelled

/-- The outcome that an operation ends the request with, if it ends it. -/
def WaitlistOp.outcomeFor (op : WaitlistOp) (now : Instant) (r : Waiting) : Option Outcome :=
  match op with
  | .register _ _ _ _ => none
  | .complete id answer =>
    if Text.correlationForm id = r.id then some (.answered answer) else none
  | .cancel id => if Text.correlationForm id = r.id then some .cancelled else none
  | .sweep => if r.isExpired now then some .timedOut else none
  | .shutdown => some .cancelled

/-- What is delivered under the ticket of a request with this outcome, if the request is awaited. -/
def Waiting.mail (r : Waiting) (o : Option Outcome) : Option (Nat × Outcome) :=
  r.ticket.bind fun ticket => o.map (ticket, ·)

/-- An outcome that was there first is delivered first, so what is delivered with either of two
outcomes is what the first delivers, or else the second. -/
theorem Waiting.mail_or (r : Waiting) (o o' : Option Outcome) :
    r.mail (o.or o') = (r.mail o).or (r.mail o') := by
  cases ht : r.ticket <;> cases o <;> simp [mail, ht]

/-- Without an outcome nothing is delivered. -/
@[simp] theorem Waiting.mail_none (r : Waiting) : r.mail none = none := by
  cases ht : r.ticket <;> simp [mail, ht]

/-- A request has expired when its time has passed completely; at the very end of it, it has not. -/
theorem Waiting.isExpired_iff (r : Waiting) (now : Instant) :
    r.isExpired now = true ↔ r.since + r.ttl < now := by
  simp only [isExpired, decide_eq_true_eq]
  exact Nat.lt_sub_iff_add_lt'

/-- `outcomeFor` gives an outcome exactly if the operation ends the request with it. -/
theorem WaitlistOp.outcomeFor_eq_some_iff {op : WaitlistOp} {now : Instant} {r : Waiting}
    {o : Outcome} : op.outcomeFor now r = some o ↔ op.Ends now r o := by
  -- From the function to the relation every operation has its own cause, from the relation to the
  -- function every cause its own branch.
  constructor
  · intro h
    cases op with
    | register id request ttl awaited => simp [outcomeFor] at h
    | complete id answer =>
      simp only [outcomeFor, Option.ite_none_right_eq_some, Option.some.injEq] at h
      exact h.2 ▸ Ends.answer h.1
    | cancel id =>
      simp only [outcomeFor, Option.ite_none_right_eq_some, Option.some.injEq] at h
      exact h.2 ▸ Ends.withdrawal h.1
    | sweep =>
      simp only [outcomeFor, Option.ite_none_right_eq_some, Option.some.injEq] at h
      exact h.2 ▸ Ends.expiry ((r.isExpired_iff now).mp h.1)
    | shutdown =>
      have ho : Outcome.cancelled = o := Option.some.inj h
      exact ho ▸ Ends.closure
  · intro h
    cases h with
    | answer hid => simp [outcomeFor, hid]
    | withdrawal hid => simp [outcomeFor, hid]
    | expiry hlate => simp [outcomeFor, (r.isExpired_iff now).mpr hlate]
    | closure => rfl

/-! ### Ledgers -/

/-- A request that was accepted, and what closed it. -/
structure Account where
  entry : Waiting
  /-- The operation that ended the request, and when; `none` while the request is to be settled. -/
  closing : Option (Instant × WaitlistOp) := none

namespace Account

/-- Whether the request is still to be settled. -/
def isOpen (a : Account) : Bool := a.closing.isNone

/-- The outcome of the request, if it was settled. -/
def outcome? (a : Account) : Option Outcome :=
  a.closing.bind fun (now, op) => op.outcomeFor now a.entry

/-- The outcome that an operation settles the request with, if it does. A request that was settled
stays as it is. -/
def outcomeBy (a : Account) (now : Instant) (op : WaitlistOp) : Option Outcome :=
  if a.isOpen then op.outcomeFor now a.entry else none

/-- The account after an operation. -/
def heed (now : Instant) (op : WaitlistOp) (a : Account) : Account :=
  if (a.outcomeBy now op).isSome then { a with closing := some (now, op) } else a

/-- An operation never changes the request of an account. -/
@[simp] theorem heed_entry (now : Instant) (op : WaitlistOp) (a : Account) :
    (a.heed now op).entry = a.entry := by
  unfold heed
  split <;> rfl

/-- An account stays open exactly if it was open and the operation does not end its request. -/
theorem isOpen_heed (now : Instant) (op : WaitlistOp) (a : Account) :
    (a.heed now op).isOpen = (a.isOpen && (op.outcomeFor now a.entry).isNone) := by
  unfold heed outcomeBy
  -- A closed account ignores every operation, whatever it would give.
  cases hopen : a.isOpen with
  | false => simpa using hopen
  | true =>
    cases hend : op.outcomeFor now a.entry with
    | none => simpa using hopen
    | some o => simp [isOpen]

/-- What an open account is settled with is what the operation ends its request with. -/
theorem outcomeFor_of_outcomeBy {now : Instant} {op : WaitlistOp} {a : Account} {o : Outcome}
    (h : a.outcomeBy now op = some o) : op.outcomeFor now a.entry = some o := by
  unfold outcomeBy at h
  split at h
  · exact h
  · simp at h

/-- A request that was settled is not settled again. -/
theorem outcomeBy_of_outcome? {now : Instant} {op : WaitlistOp} {a : Account} {o : Outcome}
    (h : a.outcome? = some o) : a.outcomeBy now op = none := by
  have hclosed : a.isOpen = false := by
    cases hc : a.closing with
    | none => simp [outcome?, hc] at h
    | some _ => simp [isOpen, hc]
  simp [outcomeBy, hclosed]

/-- A request has its outcome from before, or the one that the operation settles it with. -/
theorem outcome?_heed (now : Instant) (op : WaitlistOp) (a : Account) :
    (a.heed now op).outcome? = a.outcome?.or (a.outcomeBy now op) := by
  unfold heed
  -- A settled account is not heard again; an open one takes what the operation gives it.
  cases ho : a.outcome? with
  | some o => simp [outcomeBy_of_outcome? ho, ho]
  | none =>
    cases hby : a.outcomeBy now op with
    | none => simpa using ho
    | some o => simp [outcome?, outcomeFor_of_outcomeBy hby]

end Account

/-- The history of a waitlist: all requests that it accepted, in order. -/
abbrev Ledger := List Account

namespace Ledger

/-- The requests that are still to be settled. -/
def openEntries (l : Ledger) : List Waiting := (l.filter Account.isOpen).map (·.entry)

/-- How many receivers were handed out. -/
def tickets (l : Ledger) : Nat := l.countP (·.entry.ticket.isSome)

/-- How many requests an operation settles. -/
def settledBy (l : Ledger) (now : Instant) (op : WaitlistOp) : Nat :=
  l.countP fun a => (a.outcomeBy now op).isSome

/-- The account that a registration opens. -/
def opening (l : Ledger) (now : Instant) (id : String) (request : Envelope) (ttl : Span)
    (awaited : Bool) : Account where
  entry := ⟨Text.correlationForm id, request, now, ttl, if awaited then some l.tickets else none⟩

/-- Records an operation and says what it replies. A registration opens an account unless one
is open under the same id; every other operation closes the accounts that it ends. -/
def record (l : Ledger) (now : Instant) (op : WaitlistOp) : Ledger × WaitlistReply :=
  match op with
  | .register id request ttl awaited =>
    if l.openEntries.any (·.id == Text.correlationForm id) then
      (l, .refused (.duplicateCorrelation (Text.correlationForm id)))
    else
      let a := l.opening now id request ttl awaited
      (l ++ [a], .registered a.entry.ticket)
  | .complete _ _ | .cancel _ => (l.map (Account.heed now op), .settled (0 < l.settledBy now op))
  | .sweep | .shutdown => (l.map (Account.heed now op), .counted (l.settledBy now op))

/-- Records operations in turn, and gives their replies. -/
def run (l : Ledger) : List (Instant × WaitlistOp) → Ledger × List WaitlistReply
  | [] => (l, [])
  | (now, op) :: ops =>
    let (l, reply) := l.record now op
    let (l, replies) := l.run ops
    (l, reply :: replies)

/-- A run is its first operation and then the others, from what the first left. -/
theorem run_cons (l : Ledger) (now : Instant) (op : WaitlistOp)
    (ops : List (Instant × WaitlistOp)) :
    l.run ((now, op) :: ops) = (((l.record now op).1.run ops).1,
      (l.record now op).2 :: ((l.record now op).1.run ops).2) := rfl

/-! ### Where accounts come from -/

/-- The operation, performed at `now`, registers this request. -/
def Registers (now : Instant) (op : WaitlistOp) (r : Waiting) : Prop :=
  ∃ id, op = .register id r.request r.ttl r.ticket.isSome ∧ r.id = Text.correlationForm id ∧
    r.since = now

/-- If the account is closed, one of the operations did it, and it ends the request. -/
def ClosedWithin (ops : List (Instant × WaitlistOp)) (a : Account) : Prop :=
  ∀ now op, a.closing = some (now, op) → (now, op) ∈ ops ∧ ∃ o, op.Ends now a.entry o

/-- An account after an operation is one from before, which the operation may have closed, or one
that the operation opened. -/
theorem mem_record {l : Ledger} {now : Instant} {op : WaitlistOp} {a : Account}
    (h : a ∈ (l.record now op).1) :
    (∃ b ∈ l, a = b.heed now op) ∨ a.closing = none ∧ Registers now op a.entry := by
  -- A registration ends no request, so it leaves the accounts that were there alone.
  have hheed : ∀ id request ttl awaited (b : Account),
      b.heed now (.register id request ttl awaited) = b := by
    intro id request ttl awaited b
    simp [Account.heed, Account.outcomeBy, WaitlistOp.outcomeFor]
  cases op with
  | register id request ttl awaited =>
    unfold record at h
    dsimp only at h
    split at h
    · exact Or.inl ⟨a, h, (hheed _ _ _ _ a).symm⟩
    · rcases List.mem_append.mp h with h | h
      · exact Or.inl ⟨a, h, (hheed _ _ _ _ a).symm⟩
      · rw [List.mem_singleton.mp h]
        refine Or.inr ⟨rfl, id, ?_, rfl, rfl⟩
        cases awaited <;> rfl
  | complete | cancel | sweep | shutdown =>
    obtain ⟨b, hb, rfl⟩ := List.mem_map.mp h
    exact Or.inl ⟨b, hb, rfl⟩

/-- An operation lists a request in the ledger if its reply says so, and changes no other. -/
theorem map_entry_record (l : Ledger) (now : Instant) (op : WaitlistOp) :
    (l.record now op).1.map (·.entry) =
      l.map (·.entry) ++ (op.listed now (l.record now op).2).toList := by
  -- Closing an account keeps its request, so only an accepted registration makes the list longer.
  have hheed : (l.map (Account.heed now op)).map (·.entry) = l.map (·.entry) := by
    rw [List.map_map]
    exact List.map_congr_left fun a _ => by simp
  cases op with
  | register id request ttl awaited =>
    unfold record
    dsimp only
    split
    · simp [WaitlistOp.listed]
    · simp [WaitlistOp.listed, opening]
  | complete | cancel | sweep | shutdown =>
    rw [WaitlistOp.listed, Option.toList_none, List.append_nil]
    · exact hheed
    · simp

/-- The accounts of a run are those of the registrations that were accepted, in their order. -/
theorem map_entry_run (l : Ledger) (ops : List (Instant × WaitlistOp)) :
    (l.run ops).1.map (·.entry) = l.map (·.entry) ++
      (ops.zip (l.run ops).2).filterMap fun ((now, op), reply) => op.listed now reply := by
  induction ops generalizing l with
  | nil => simp [run]
  | cons x ops ih =>
    obtain ⟨now, op⟩ := x
    rw [run_cons, ih, map_entry_record, List.append_assoc, List.zip_cons_cons,
      List.filterMap_cons]
    cases hlisted : op.listed now (l.record now op).2 <;> simp only [hlisted] <;> rfl

/-- What was closed by one of some operations was closed by one of any list that has them all. -/
theorem ClosedWithin.mono {ops ops' : List (Instant × WaitlistOp)} {a : Account}
    (h : ClosedWithin ops a) (hsub : ∀ x ∈ ops, x ∈ ops') : ClosedWithin ops' a := by
  intro now op hclosing
  obtain ⟨hmem, hends⟩ := h now op hclosing
  exact ⟨hsub _ hmem, hends⟩

/-- An operation leaves an account as it was, or closes it because it ends its request. -/
theorem closing_heed (now : Instant) (op : WaitlistOp) (a : Account) :
    (a.heed now op).closing = a.closing ∨ ClosedWithin [(now, op)] (a.heed now op) := by
  unfold Account.heed
  cases hby : a.outcomeBy now op with
  | none => exact Or.inl rfl
  | some o =>
    refine Or.inr fun now' op' hclosing => ?_
    obtain ⟨rfl, rfl⟩ : now = now' ∧ op = op' := by simpa using hclosing
    have hends := WaitlistOp.outcomeFor_eq_some_iff.mp (Account.outcomeFor_of_outcomeBy hby)
    exact ⟨List.mem_singleton_self _, o, hends⟩

/-- An account after a run was there before, or a registration of the run opened it. What closed it
during the run is an operation that ends its request, and one that came after the registration. -/
theorem mem_run {l : Ledger} {ops : List (Instant × WaitlistOp)} {a : Account}
    (h : a ∈ (l.run ops).1) :
    (∃ b ∈ l, a.entry = b.entry ∧ (a.closing = b.closing ∨ ClosedWithin ops a)) ∨
      ∃ before now op after, ops = before ++ (now, op) :: after ∧ Registers now op a.entry ∧
        ClosedWithin after a := by
  -- By induction on the operations: the ledger changes with each of them, and what is said of the
  -- rest is said of the accounts that the first one left.
  induction ops generalizing l with
  | nil => exact Or.inl ⟨a, h, rfl, Or.inl rfl⟩
  | cons x ops ih =>
    obtain ⟨now, op⟩ := x
    rcases ih h with ⟨b, hb, hentry, hclosing⟩ | ⟨before, now', op', after, hops, hreg, hclosed⟩
    -- Of an account that was there after the first operation: either it was there before it, or
    -- the operation opened it.
    · rcases mem_record hb with ⟨b', hb', rfl⟩ | ⟨hopen, hreg⟩
      · refine Or.inl ⟨b', hb', by rw [hentry, Account.heed_entry], ?_⟩
        rcases hclosing with hclosing | hclosed
        · rcases closing_heed now op b' with hsame | hclosed
          · exact Or.inl (hclosing.trans hsame)
          · have hnow : ClosedWithin [(now, op)] a := by
              intro now' op' ha
              rw [hentry]
              exact hclosed now' op' (hclosing ▸ ha)
            exact Or.inr (hnow.mono (by simp))
        · exact Or.inr (hclosed.mono fun _ => List.mem_cons_of_mem _)
      · -- The account was opened by the first operation, so whatever closed it came later.
        refine Or.inr ⟨[], now, op, ops, rfl, hentry ▸ hreg, ?_⟩
        rcases hclosing with hclosing | hclosed
        · intro now' op' ha
          rw [hclosing, hopen] at ha
          exact absurd ha (by simp)
        · exact hclosed
    · exact Or.inr ⟨(now, op) :: before, now', op', after, by rw [hops]; rfl, hreg, hclosed⟩

/-- Every account of a run that began without any was opened by a registration of the run, and what
closed it is a later operation that ends its request. -/
theorem opened_by_registration {ops : List (Instant × WaitlistOp)} {a : Account}
    (h : a ∈ (Ledger.run [] ops).1) :
    ∃ before now op after, ops = before ++ (now, op) :: after ∧ Registers now op a.entry ∧
      ClosedWithin after a := by
  rcases mem_run h with ⟨b, hb, -⟩ | hopened
  · simp at hb
  · exact hopened

/-! ### What an operation does to all accounts -/

/-- The open requests after an operation are those of before that it does not end. -/
theorem openEntries_map_heed (l : Ledger) (now : Instant) (op : WaitlistOp) :
    openEntries (l.map (Account.heed now op)) =
      l.openEntries.filter fun r => (op.outcomeFor now r).isNone := by
  induction l with
  | nil => rfl
  | cons a l ih =>
    simp only [openEntries, List.map_cons, List.filter_cons, Account.isOpen_heed] at ih ⊢
    cases hopen : a.isOpen with
    -- A closed account stays closed.
    | false => simpa [hopen] using ih
    | true =>
      cases hend : op.outcomeFor now a.entry with
      | none => simpa [hopen, hend] using ih
      | some o => simpa [hopen, hend] using ih

/-- The requests that an operation settles are the open ones that it ends. -/
theorem settledBy_eq (l : Ledger) (now : Instant) (op : WaitlistOp) :
    l.settledBy now op = l.openEntries.countP fun r => (op.outcomeFor now r).isSome := by
  unfold settledBy openEntries
  rw [List.countP_map, List.countP_filter]
  refine List.countP_congr fun a _ => ?_
  cases hopen : a.isOpen <;> simp [Account.outcomeBy, hopen]

/-- What an operation delivers goes to the open requests that it ends. -/
theorem filterMap_outcomeBy (l : Ledger) (now : Instant) (op : WaitlistOp) :
    l.filterMap (fun a => a.entry.mail (a.outcomeBy now op)) =
      l.openEntries.filterMap fun r => r.mail (op.outcomeFor now r) := by
  unfold openEntries
  rw [List.filterMap_map, List.filterMap_filter]
  refine List.filterMap_congr fun a _ => ?_
  cases hopen : a.isOpen <;> cases ht : a.entry.ticket <;>
    simp [Account.outcomeBy, Waiting.mail, hopen, ht]

/-- An operation that closes accounts hands out no ticket. -/
theorem tickets_map_heed (l : Ledger) (now : Instant) (op : WaitlistOp) :
    tickets (l.map (Account.heed now op)) = l.tickets := by
  unfold tickets
  rw [List.countP_map]
  exact List.countP_congr fun a _ => by simp

/-- A new account comes last among the open ones. -/
theorem openEntries_append (l : Ledger) (r : Waiting) :
    openEntries (l ++ [⟨r, none⟩]) = l.openEntries ++ [r] := by
  unfold openEntries
  rw [List.filter_append, List.map_append]
  rfl

/-- A new account counts as one ticket more if its request is awaited. -/
theorem tickets_append (l : Ledger) (a : Account) :
    tickets (l ++ [a]) = if a.entry.ticket.isSome then l.tickets + 1 else l.tickets := by
  unfold tickets
  rw [List.countP_append, List.countP_singleton]
  split <;> rfl

end Ledger

end CommandMesh
