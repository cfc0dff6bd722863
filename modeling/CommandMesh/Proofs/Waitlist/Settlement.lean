import CommandMesh.Proofs.Text.NormalForm
import CommandMesh.Proofs.Waitlist.Ledger
import Mathlib.Algebra.GroupWithZero.Nat
import Mathlib.Data.List.Nodup

/-!
# `CommandMesh.Proofs.Waitlist.Settlement`: every request is settled once, and for a reason

A `Waitlist` is compared with the `Ledger` of the same operations, which never forgets a request.
The waitlist that runs holds only what is still to be settled and the outcomes that were delivered;
the ledger has an account for every request that was ever accepted. `Mirrors` says how the two
correspond, and it is the invariant of this module: one operation keeps it (`Mirrors.perform`), and
so does a run (`run_mirrors`).

`Settles` is what all the ways to settle requests have in common: they take those requests off the
list, send each of them its outcome, and count them. An answer and a cancellation settle the request
under one id; a sweep and a shutdown go through a list of ids and settle each in turn. Both are
brought to the same form, so the four operations need one argument and not four.

All of this rests on `Tidy`: no two requests on the list have the same id, and every id is in normal
form. The sweep relies on the first half, since it collects the ids of the requests that are over
and then settles by id; a second request under one of these ids would go with it. The shutdown
relies on the second half, since it brings the ids into normal form once more before it looks them
up. A run that begins with the empty waitlist is tidy at every moment, so no theorem about such a
run has a hypothesis.

* `settles_settleEach`: settling ids in turn settles the requests under these ids together.
* `settles_perform`: an operation that is no registration settles the requests that it ends.
* `run_mirrors`: after any run the waitlist holds the open requests of the ledger, has delivered the
  outcomes of the others, and has replied what the ledger says.
* `Mirrors.outcomes_of_ticket`: under the ticket of a request the outcome of its account is
  delivered, and nothing else.
* `settles_each_request_once`: the requests that were accepted and are not on the list any more have
  been settled once each, by an operation that ends them.

What is taken for granted is that operations do not overlap: each is performed on the waitlist that
the one before it left. When the operations come, and from which part of a node, is left open.
-/

set_option autoImplicit false

namespace CommandMesh

/-- What two functions pick from a list, none of them where the other does, is what they pick
together. -/
theorem filterMap_append_perm {α β : Type} {f g : α → Option β} :
    ∀ l : List α, (∀ a ∈ l, f a = none ∨ g a = none) →
      (l.filterMap f ++ l.filterMap g).Perm (l.filterMap fun a => (f a).or (g a))
  | [], _ => List.Perm.refl _
  | a :: l, h => by
    have ih := filterMap_append_perm l fun b hb => h b (List.mem_cons_of_mem _ hb)
    -- What one function picks keeps its place, and what the other picks comes later than in the
    -- joint list.
    cases hf : f a with
    | none =>
      cases hg : g a with
      | none => simpa [hf, hg] using ih
      | some b => simpa [hf, hg] using List.perm_middle.trans (ih.cons b)
    | some b =>
      have hg : g a = none := by
        rcases h a List.mem_cons_self with hnone | hnone
        · rw [hf] at hnone
          exact absurd hnone (by simp)
        · exact hnone
      simpa [hf, hg] using ih.cons b

namespace Waitlist

/-! ### Runs -/

/-- Performs an operation on a waitlist. -/
def perform (w : Waitlist) (now : Instant) (op : WaitlistOp) : Waitlist × WaitlistReply :=
  match op with
  | .register id request ttl awaited =>
    match w.register now id request ttl awaited with
    | .ok (w, ticket) => (w, .registered ticket)
    | .error f => (w, .refused f)
  | .complete id answer =>
    match w.complete id answer with
    | some w => (w, .settled true)
    | none => (w, .settled false)
  | .cancel id =>
    match w.cancel id with
    | some w => (w, .settled true)
    | none => (w, .settled false)
  | .sweep =>
    let (w, n) := w.sweep now
    (w, .counted n)
  | .shutdown =>
    let (w, n) := w.shutdown
    (w, .counted n)

/-- Performs operations in turn, and gives their replies. -/
def run (w : Waitlist) : List (Instant × WaitlistOp) → Waitlist × List WaitlistReply
  | [] => (w, [])
  | (now, op) :: ops =>
    let (w, reply) := w.perform now op
    let (w, replies) := w.run ops
    (w, reply :: replies)

/-- A run is its first operation and then the others, from what the first left. -/
theorem run_cons (w : Waitlist) (now : Instant) (op : WaitlistOp)
    (ops : List (Instant × WaitlistOp)) :
    w.run ((now, op) :: ops) = (((w.perform now op).1.run ops).1,
      (w.perform now op).2 :: ((w.perform now op).1.run ops).2) := rfl

/-! ### What settling does -/

/-- The requests that are kept have different ids, all in normal form. -/
structure Tidy (w : Waitlist) : Prop where
  keyed : (w.pending.map (·.id)).Nodup
  normal : ∀ r ∈ w.pending, Text.correlationForm r.id = r.id

/-- From `w` to `w'` the `n` requests to which `p` gives an outcome were settled with it, and
nothing else happened. -/
structure Settles (w : Waitlist) (p : Waiting → Option Outcome) (w' : Waitlist) (n : Nat) :
    Prop where
  pending : w'.pending = w.pending.filter fun r => (p r).isNone
  nextTicket : w'.nextTicket = w.nextTicket
  outcomes : w'.outcomes.Perm (w.outcomes ++ w.pending.filterMap fun r => r.mail (p r))
  count : n = w.pending.countP fun r => (p r).isSome

/-- If no request gets an outcome, all of them are kept. -/
theorem filter_of_none {p : Waiting → Option Outcome} {rs : List Waiting}
    (h : ∀ r ∈ rs, p r = none) : rs.filter (fun r => (p r).isNone) = rs :=
  List.filter_eq_self.mpr fun r hr => by rw [h r hr]; rfl

/-- If no request gets an outcome, nothing is delivered. -/
theorem mail_of_none {p : Waiting → Option Outcome} {rs : List Waiting}
    (h : ∀ r ∈ rs, p r = none) : rs.filterMap (fun r => r.mail (p r)) = [] := by
  refine List.filterMap_eq_nil_iff.mpr fun r hr => ?_
  rw [h r hr, Waiting.mail_none]

/-- If no request gets an outcome, none is counted. -/
theorem countP_of_none {p : Waiting → Option Outcome} {rs : List Waiting}
    (h : ∀ r ∈ rs, p r = none) : rs.countP (fun r => (p r).isSome) = 0 := by
  refine List.countP_eq_zero.mpr fun r hr => ?_
  simp [h r hr]

/-- Each request is counted at the first of two steps that gives it an outcome. -/
theorem countP_or (p q : Waiting → Option Outcome) (rs : List Waiting) :
    rs.countP (fun r => (p r).isSome) +
        (rs.filter fun r => (p r).isNone).countP (fun r => (q r).isSome) =
      rs.countP fun r => ((p r).or (q r)).isSome := by
  induction rs with
  | nil => rfl
  | cons r rest ih => cases hp : p r <;> cases hq : q r <;> simp [hp, hq] at ih ⊢ <;> omega

/-- Each outcome is delivered at the first of two steps that gives it. -/
theorem mail_or (p q : Waiting → Option Outcome) (rs : List Waiting) :
    (rs.filterMap (fun r => r.mail (p r)) ++
        (rs.filter fun r => (p r).isNone).filterMap fun r => r.mail (q r)).Perm
      (rs.filterMap fun r => r.mail ((p r).or (q r))) := by
  rw [List.filterMap_filter]
  have hboth := filterMap_append_perm (f := fun r : Waiting => r.mail (p r))
    (g := fun r => if (p r).isNone then r.mail (q r) else none) rs fun r _ => by
      cases p r with
      | none => exact Or.inl r.mail_none
      | some o => exact Or.inr rfl
  refine hboth.trans (List.Perm.of_eq (List.filterMap_congr fun r _ => ?_))
  cases p r with
  | none => simp
  | some o => simp

namespace Settles

variable {w w' w'' : Waitlist} {p q : Waiting → Option Outcome} {m n : Nat}

/-- Where there is no request to settle, nothing happens. -/
theorem refl (h : ∀ r ∈ w.pending, p r = none) : Settles w p w 0 where
  pending := (filter_of_none h).symm
  nextTicket := rfl
  outcomes := by rw [mail_of_none h, List.append_nil]
  count := (countP_of_none h).symm

/-- Only what is given to the requests that are kept counts. -/
theorem congr (h : Settles w p w' n) (hpq : ∀ r ∈ w.pending, p r = q r) : Settles w q w' n where
  pending := by
    rw [h.pending]
    exact List.filter_congr fun r hr => by rw [hpq r hr]
  nextTicket := h.nextTicket
  outcomes := by
    have hsame : w.pending.filterMap (fun r => r.mail (p r)) =
        w.pending.filterMap fun r => r.mail (q r) :=
      List.filterMap_congr fun r hr => by rw [hpq r hr]
    rw [← hsame]
    exact h.outcomes
  count := by
    rw [h.count]
    exact List.countP_congr fun r hr => by rw [hpq r hr]

/-- What is settled in two steps is settled in one. -/
theorem trans (h : Settles w p w' m) (h' : Settles w' q w'' n) :
    Settles w (fun r => (p r).or (q r)) w'' (m + n) where
  pending := by
    rw [h'.pending, h.pending, List.filter_filter]
    refine List.filter_congr fun r _ => ?_
    cases p r <;> simp
  nextTicket := h'.nextTicket.trans h.nextTicket
  outcomes := by
    -- The second step finds only what the first one left, so it settles nothing again.
    have hearly := h.outcomes.append_right (w'.pending.filterMap fun r => r.mail (q r))
    rw [h.pending, List.append_assoc] at hearly
    have hlate := h'.outcomes
    rw [h.pending] at hlate
    exact hlate.trans (hearly.trans ((mail_or p q w.pending).append_left w.outcomes))
  count := by rw [h.count, h'.count, h.pending, countP_or]

/-- Every request that was on the list is still there or was counted. -/
theorem length (h : Settles w p w' n) : w'.pending.length + n = w.pending.length := by
  have hnone : ∀ r : Waiting, decide (¬ (p r).isSome = true) = (p r).isNone := by
    intro r
    cases p r <;> rfl
  rw [h.pending, h.count, ← List.countP_eq_length_filter, Nat.add_comm,
    List.length_eq_countP_add_countP fun r => (p r).isSome]
  simp only [hnone]

/-- Requests under an id other than that of those settled stay as they are. -/
theorem filter_ne {id : String} (h : Settles w p w' n) (hp : ∀ r, r.id ≠ id → p r = none) :
    w'.pending.filter (·.id != id) = w.pending.filter (·.id != id) := by
  rw [h.pending, List.filter_filter]
  refine List.filter_congr fun r _ => ?_
  by_cases hr : r.id = id
  · simp [hr]
  · simp [hp r hr]

end Settles

/-- The request is settled under this id. -/
def hit (id : String) (o : Outcome) (r : Waiting) : Option Outcome :=
  if id = r.id then some o else none

/-- Where a request is found under an id of a tidy list, no other request has this id. -/
theorem Tidy.find?_eq_some {w : Waitlist} (hw : w.Tidy) {id : String} {r : Waiting}
    (h : w.find? id = some r) :
    r.id = id ∧ ∃ before after, w.pending = before ++ r :: after ∧
      (∀ r' ∈ before, r'.id ≠ id) ∧ ∀ r' ∈ after, r'.id ≠ id := by
  obtain ⟨hid, before, after, hsplit, hbefore⟩ := List.find?_eq_some_iff_append.mp h
  have hid : r.id = id := by simpa using hid
  refine ⟨hid, before, after, hsplit, fun r' hr' => by simpa using hbefore r' hr', ?_⟩
  -- A second request under the id, further down, would stand against the ids being kept apart.
  intro r' hr' heq
  have hkeyed := hw.keyed
  rw [hsplit, List.map_append, List.map_cons, List.nodup_append] at hkeyed
  refine (List.nodup_cons.mp hkeyed.2.1).1 (List.mem_map.mpr ⟨r', hr', ?_⟩)
  rw [heq, hid]

/-- An outcome is delivered under the ticket of the request, after those that were delivered before
it; a request without a ticket gets none. -/
theorem deliver_eq (w : Waitlist) (r : Waiting) (o : Outcome) :
    w.deliver r o = { w with outcomes := w.outcomes ++ (r.mail (some o)).toList } := by
  unfold deliver Waiting.mail
  cases r.ticket with
  | none => simp
  | some ticket => rfl

/-- Settling a request under its id settles that request, and it alone. -/
theorem settles_of_settle_eq_some {w w' : Waitlist} (hw : w.Tidy) {id : String} {o : Outcome}
    (h : w.settle id o = some w') : Settles w (hit id o) w' 1 := by
  obtain ⟨r, hfind, rfl⟩ := Option.map_eq_some_iff.mp h
  obtain ⟨rfl, before, after, hsplit, hbefore, hafter⟩ := hw.find?_eq_some hfind
  -- Ids are kept apart, so nothing but `r` is hit on either side of it.
  have hmiss : ∀ r' : Waiting, r'.id ≠ r.id → hit r.id o r' = none := fun r' hne => by
    simp [hit, Ne.symm hne]
  have hhit : hit r.id o r = some o := by simp [hit]
  have hbefore' : ∀ r' ∈ before, hit r.id o r' = none := fun r' hr' => hmiss r' (hbefore r' hr')
  have hafter' : ∀ r' ∈ after, hit r.id o r' = none := fun r' hr' => hmiss r' (hafter r' hr')
  have herase : w.pending.eraseP (·.id == r.id) = before ++ after := by
    rw [hsplit, List.eraseP_append_right _ fun r' hr' => by simpa using hbefore r' hr',
      List.eraseP_cons_of_pos (by simp)]
  -- With the request between `before` and `after`, each field is read off the three parts.
  rw [deliver_eq]
  refine ⟨?_, rfl, ?_, ?_⟩
  · show w.pending.eraseP (·.id == r.id) = _
    rw [herase, hsplit, List.filter_append, List.filter_cons_of_neg (by simp [hhit]),
      filter_of_none hbefore', filter_of_none hafter']
  · rw [hsplit, List.filterMap_append, List.filterMap_cons, mail_of_none hbefore',
      mail_of_none hafter', hhit]
    cases r.mail (some o) <;> exact List.Perm.refl _
  · rw [hsplit, List.countP_append, List.countP_cons_of_pos (by simp [hhit]),
      countP_of_none hbefore', countP_of_none hafter']

/-- An id under which nothing can be settled is that of no request. -/
theorem settles_of_settle_eq_none {w : Waitlist} {id : String} {o : Outcome}
    (h : w.settle id o = none) : Settles w (hit id o) w 0 := by
  have hnone : w.find? id = none := Option.map_eq_none_iff.mp h
  refine Settles.refl fun r hr => ?_
  have hne : r.id ≠ id := by simpa using List.find?_eq_none.mp hnone r hr
  simp [hit, Ne.symm hne]

/-- What settles requests keeps the list tidy: the requests that stay are some of those that were
there. -/
theorem Tidy.of_settles {w w' : Waitlist} {p : Waiting → Option Outcome} {n : Nat} (hw : w.Tidy)
    (h : Settles w p w' n) : w'.Tidy where
  keyed := by
    rw [h.pending]
    exact hw.keyed.sublist (List.filter_sublist.map _)
  normal := by
    intro r hr
    rw [h.pending] at hr
    exact hw.normal r (List.mem_of_mem_filter hr)

/-- Settling ids in turn, each after it was brought into a form, settles the requests that have one
of these ids. -/
theorem settles_settleEach (form : String → String) (o : Outcome) :
    ∀ (ids : List String) {w : Waitlist}, w.Tidy →
      Settles w (fun r => if r.id ∈ ids.map form then some o else none)
        (settleEach (fun w id => w.settle (form id) o) ids w).1
        (settleEach (fun w id => w.settle (form id) o) ids w).2
  | [], w, _ => Settles.refl fun r _ => by simp
  | id :: ids, w, hw => by
    -- The first id settles its request, and the others what is left.
    have hor : ∀ r : Waiting, (hit (form id) o r).or (if r.id ∈ ids.map form then some o else none)
        = if r.id ∈ (id :: ids).map form then some o else none := by
      intro r
      by_cases hid : form id = r.id
      · simp [hit, hid]
      · simp [hit, hid, Ne.symm hid]
    unfold settleEach
    -- An id that is not on the list any more is passed over and not counted.
    cases hs : w.settle (form id) o with
    | some w' =>
      have hfirst := settles_of_settle_eq_some hw hs
      have hrest := settles_settleEach form o ids (hw.of_settles hfirst)
      have hall := (hfirst.trans hrest).congr fun r _ => hor r
      rw [Nat.add_comm] at hall
      exact hall
    | none =>
      have hfirst := settles_of_settle_eq_none hs
      have hrest := settles_settleEach form o ids hw
      have hall := (hfirst.trans hrest).congr fun r _ => hor r
      rw [Nat.zero_add] at hall
      exact hall

/-- A sweep settles the requests whose time is over. -/
theorem settles_sweep {w : Waitlist} (hw : w.Tidy) (now : Instant) :
    Settles w (WaitlistOp.sweep.outcomeFor now) (w.sweep now).1 (w.sweep now).2 := by
  refine (settles_settleEach id .timedOut _ hw).congr fun r hr => ?_
  -- The sweep goes by ids, and no two requests on the list share one.
  have hmem : r.id ∈ ((w.pending.filter (·.isExpired now)).map (·.id)).map id ↔
      r.isExpired now = true := by
    rw [List.map_id]
    constructor
    · intro h
      obtain ⟨r', hr', hid⟩ := List.mem_map.mp h
      obtain ⟨hr', hexp⟩ := List.mem_filter.mp hr'
      rwa [List.inj_on_of_nodup_map hw.keyed hr' hr hid] at hexp
    · exact fun h => List.mem_map.mpr ⟨r, List.mem_filter.mpr ⟨hr, h⟩, rfl⟩
  simp only [hmem, WaitlistOp.outcomeFor]

/-- A shutdown settles every request. -/
theorem settles_shutdown {w : Waitlist} (hw : w.Tidy) (now : Instant) :
    Settles w (WaitlistOp.shutdown.outcomeFor now) w.shutdown.1 w.shutdown.2 := by
  refine (settles_settleEach Text.correlationForm .cancelled _ hw).congr fun r hr => ?_
  -- The ids are in normal form already, so bringing them into it once more changes none.
  have hmem : r.id ∈ (w.pending.map (·.id)).map Text.correlationForm :=
    List.mem_map.mpr ⟨r.id, List.mem_map_of_mem hr, hw.normal r hr⟩
  simp only [hmem, if_true, WaitlistOp.outcomeFor]

/-- An operation that is no registration settles the requests that it ends, and says how many. -/
theorem settles_perform {w : Waitlist} (hw : w.Tidy) (now : Instant) (op : WaitlistOp)
    (hop : ∀ id request ttl awaited, op ≠ .register id request ttl awaited) :
    Settles w (op.outcomeFor now) (w.perform now op).1 (w.perform now op).2.released := by
  cases op with
  | register id request ttl awaited => exact absurd rfl (hop id request ttl awaited)
  | complete id answer =>
    -- An answer is looked up in normal form and settles that one request, or finds none.
    unfold perform complete
    dsimp only
    cases hs : w.settle (Text.correlationForm id) (.answered answer) with
    | some w' => exact settles_of_settle_eq_some hw hs
    | none => exact settles_of_settle_eq_none hs
  | cancel id =>
    unfold perform cancel
    dsimp only
    cases hs : w.settle (Text.correlationForm id) .cancelled with
    | some w' => exact settles_of_settle_eq_some hw hs
    | none => exact settles_of_settle_eq_none hs
  | sweep => exact settles_sweep hw now
  | shutdown => exact settles_shutdown hw now

/-- Only a registration is ever accepted. -/
theorem isAccepted_perform (w : Waitlist) (now : Instant) {op : WaitlistOp}
    (hop : ∀ id request ttl awaited, op ≠ .register id request ttl awaited) :
    (w.perform now op).2.isAccepted = false := by
  cases op with
  | register id request ttl awaited => exact absurd rfl (hop id request ttl awaited)
  | complete id answer =>
    unfold perform
    dsimp only
    cases w.complete id answer <;> rfl
  | cancel id =>
    unfold perform
    dsimp only
    cases w.cancel id <;> rfl
  | sweep => rfl
  | shutdown => rfl

/-- A registration under an id that is being waited for is refused by that name, and leaves the
waitlist as it was. -/
theorem perform_register_of_some {w : Waitlist} {now : Instant} {id : String} {request : Envelope}
    {ttl : Span} {awaited : Bool} {r : Waiting}
    (h : w.find? (Text.correlationForm id) = some r) :
    w.perform now (.register id request ttl awaited) =
      (w, .refused (.duplicateCorrelation (Text.correlationForm id))) := by
  simp only [perform, register, h]

/-- The request that a registration adds. -/
def added (w : Waitlist) (now : Instant) (id : String) (request : Envelope) (ttl : Span)
    (awaited : Bool) : Waiting :=
  ⟨Text.correlationForm id, request, now, ttl, if awaited then some w.nextTicket else none⟩

/-- A registration is accepted if no request waits under its id, and the request comes last. -/
theorem perform_register_of_none {w : Waitlist} {now : Instant} {id : String} {request : Envelope}
    {ttl : Span} {awaited : Bool} (h : w.find? (Text.correlationForm id) = none) :
    w.perform now (.register id request ttl awaited) =
      ({ w with
          pending := w.pending ++ [w.added now id request ttl awaited]
          nextTicket := if awaited then w.nextTicket + 1 else w.nextTicket },
        .registered (w.added now id request ttl awaited).ticket) := by
  simp only [perform, register, h, added]

/-- Nothing is found under an id exactly if no request on the list has it. -/
theorem find?_eq_none_iff {w : Waitlist} {id : String} :
    w.find? id = none ↔ id ∉ w.pending.map (·.id) := by
  simp [find?, List.find?_eq_none]

/-- A request under a new id is listed. -/
theorem Tidy.append {w : Waitlist} (hw : w.Tidy) {r : Waiting}
    (hnew : r.id ∉ w.pending.map (·.id)) (hnormal : Text.correlationForm r.id = r.id) (next : Nat) :
    Tidy { w with pending := w.pending ++ [r], nextTicket := next } where
  keyed := by
    rw [List.map_append, List.map_singleton]
    exact List.nodup_append.mpr ⟨hw.keyed, List.nodup_singleton _, by simpa using hnew⟩
  normal := by
    intro r' hr'
    rcases List.mem_append.mp hr' with hr' | hr'
    · exact hw.normal r' hr'
    · rw [List.mem_singleton.mp hr']
      exact hnormal

/-- The request that a registration adds keeps the list tidy, since its id was brought into normal
form and was not there. -/
theorem Tidy.add {w : Waitlist} (hw : w.Tidy) {now : Instant} {id : String} {request : Envelope}
    {ttl : Span} {awaited : Bool} (h : w.find? (Text.correlationForm id) = none) (next : Nat) :
    Tidy { w with
      pending := w.pending ++ [w.added now id request ttl awaited]
      nextTicket := next } :=
  have hnew : (w.added now id request ttl awaited).id ∉ w.pending.map (·.id) :=
    find?_eq_none_iff.mp h
  hw.append hnew (Text.correlationForm_correlationForm id) next

/-! ### The waitlist and its ledger -/

/-- The waitlist holds the open requests of the ledger in their order, and has delivered the
outcomes of the others. -/
structure Mirrors (w : Waitlist) (l : Ledger) : Prop where
  pending : w.pending = l.openEntries
  tickets : w.nextTicket = l.tickets
  /-- Tickets are numbered in the order of the accounts. -/
  numbered : l.filterMap (·.entry.ticket) = List.range l.tickets
  /-- Each outcome is delivered once. -/
  outcomes : w.outcomes.Perm (l.filterMap fun a => a.entry.mail a.outcome?)

/-- At first there is nothing on either side. -/
theorem mirrors_nil : Mirrors {} [] where
  pending := rfl
  tickets := rfl
  numbered := rfl
  outcomes := List.Perm.refl _

/-- An operation that settles requests is recorded by closing their accounts. -/
theorem Mirrors.settle {w w' : Waitlist} {l : Ledger} (h : Mirrors w l) {now : Instant}
    {op : WaitlistOp} {n : Nat} (hs : Settles w (op.outcomeFor now) w' n) :
    Mirrors w' (l.map (Account.heed now op)) ∧ n = l.settledBy now op := by
  refine ⟨⟨?_, ?_, ?_, ?_⟩, ?_⟩
  · rw [hs.pending, h.pending, Ledger.openEntries_map_heed]
  · rw [hs.nextTicket, h.tickets, Ledger.tickets_map_heed]
  -- Closing an account changes no ticket.
  · rw [Ledger.tickets_map_heed, ← h.numbered, List.filterMap_map]
    exact List.filterMap_congr fun a _ => by simp
  · -- An account has its outcome from before, or gets it now.
    have hmail := filterMap_append_perm (f := fun a : Account => a.entry.mail a.outcome?)
      (g := fun a => a.entry.mail (a.outcomeBy now op)) l fun a _ => by
        cases ho : a.outcome? with
        | none => exact Or.inl a.entry.mail_none
        | some o =>
          rw [Account.outcomeBy_of_outcome? ho]
          exact Or.inr a.entry.mail_none
    have hheed : (l.filterMap fun a => (a.entry.mail a.outcome?).or
        (a.entry.mail (a.outcomeBy now op))) =
          (l.map (Account.heed now op)).filterMap fun a => a.entry.mail a.outcome? := by
      rw [List.filterMap_map]
      refine List.filterMap_congr fun a _ => ?_
      simp only [Function.comp_apply, Account.heed_entry, Account.outcome?_heed, Waiting.mail_or]
    have hnew := hs.outcomes
    rw [h.pending, ← Ledger.filterMap_outcomeBy] at hnew
    rw [← hheed]
    exact hnew.trans ((h.outcomes.append_right _).trans hmail)
  · rw [hs.count, h.pending, Ledger.settledBy_eq]

/-- A registration that is accepted is recorded as a new account, with the ticket that it hands
out. -/
theorem Mirrors.add {w : Waitlist} {l : Ledger} (h : Mirrors w l) (now : Instant) (id : String)
    (request : Envelope) (ttl : Span) (awaited : Bool) :
    w.added now id request ttl awaited = (l.opening now id request ttl awaited).entry ∧
      Mirrors { w with
          pending := w.pending ++ [w.added now id request ttl awaited]
          nextTicket := if awaited then w.nextTicket + 1 else w.nextTicket }
        (l ++ [l.opening now id request ttl awaited]) := by
  have hadded : w.added now id request ttl awaited =
      (l.opening now id request ttl awaited).entry := by
    simp only [added, Ledger.opening, h.tickets]
  refine ⟨hadded, ?_, ?_, ?_, ?_⟩
  · show w.pending ++ _ = _
    rw [hadded, h.pending]
    exact (Ledger.openEntries_append l _).symm
  · show (if awaited then w.nextTicket + 1 else w.nextTicket) = _
    rw [Ledger.tickets_append, h.tickets]
    cases awaited <;> rfl
  · -- The new account has the next number, if it has one at all.
    rw [Ledger.tickets_append, List.filterMap_append, h.numbered]
    cases awaited with
    | false => simp [Ledger.opening]
    | true => simp [Ledger.opening, List.range_succ]
  · rw [List.filterMap_append]
    have hnone : (l.opening now id request ttl awaited).outcome? = none := rfl
    cases awaited <;> simpa [Waiting.mail, hnone] using h.outcomes

/-- Every operation keeps the list tidy. -/
theorem Tidy.perform {w : Waitlist} (hw : w.Tidy) (now : Instant) (op : WaitlistOp) :
    (w.perform now op).1.Tidy := by
  cases op with
  | register id request ttl awaited =>
    cases hfind : w.find? (Text.correlationForm id) with
    | some r => rwa [perform_register_of_some hfind]
    | none =>
      rw [perform_register_of_none hfind]
      exact hw.add hfind _
  | complete | cancel | sweep | shutdown =>
    exact hw.of_settles (settles_perform hw now _ (by simp))

/-- Every operation does to the waitlist, and replies, what its record in the ledger says. -/
theorem Mirrors.perform {w : Waitlist} {l : Ledger} (hw : w.Tidy) (h : Mirrors w l) (now : Instant)
    (op : WaitlistOp) :
    Mirrors (w.perform now op).1 (l.record now op).1 ∧
      (w.perform now op).2 = (l.record now op).2 := by
  cases op with
  | register id request ttl awaited =>
    -- Both refuse an id just if a request under it is to be settled.
    have hany : l.openEntries.any (·.id == Text.correlationForm id) =
        (w.find? (Text.correlationForm id)).isSome := by
      rw [← h.pending, find?, Bool.eq_iff_iff, List.find?_isSome, List.any_eq_true]
    unfold Ledger.record
    dsimp only
    rw [hany]
    cases hfind : w.find? (Text.correlationForm id) with
    | some r =>
      rw [perform_register_of_some hfind]
      exact ⟨h, rfl⟩
    | none =>
      obtain ⟨hadded, hadd⟩ := h.add now id request ttl awaited
      rw [perform_register_of_none hfind]
      exact ⟨hadd, by rw [hadded]; rfl⟩
  | complete id answer =>
    -- The other operations settle what they end, and their reply is the number of requests that
    -- they settled.
    obtain ⟨hl, hn⟩ := h.settle (settles_perform hw now (.complete id answer) (by simp))
    refine ⟨hl, ?_⟩
    simp only [Ledger.record, ← hn, Waitlist.perform]
    cases w.complete id answer <;> rfl
  | cancel id =>
    obtain ⟨hl, hn⟩ := h.settle (settles_perform hw now (.cancel id) (by simp))
    refine ⟨hl, ?_⟩
    simp only [Ledger.record, ← hn, Waitlist.perform]
    cases w.cancel id <;> rfl
  | sweep =>
    obtain ⟨hl, hn⟩ := h.settle (settles_perform hw now (.sweep) (by simp))
    exact ⟨hl, congrArg WaitlistReply.counted hn⟩
  | shutdown =>
    obtain ⟨hl, hn⟩ := h.settle (settles_perform hw now (.shutdown) (by simp))
    exact ⟨hl, congrArg WaitlistReply.counted hn⟩

/-- A run does to the waitlist, and replies, what its record in the ledger says, and keeps the ids
apart and in normal form. -/
theorem run_mirrors {w : Waitlist} {l : Ledger} (hw : w.Tidy) (h : Mirrors w l)
    (ops : List (Instant × WaitlistOp)) :
    (w.run ops).1.Tidy ∧ Mirrors (w.run ops).1 (l.run ops).1 ∧ (w.run ops).2 = (l.run ops).2 := by
  induction ops generalizing w l with
  | nil => exact ⟨hw, h, rfl⟩
  | cons x ops ih =>
    obtain ⟨now, op⟩ := x
    obtain ⟨hstep, hreply⟩ := h.perform hw now op
    obtain ⟨htidy, hrest, hreplies⟩ := ih (hw.perform now op) hstep
    -- The rest of the run starts from what the first operation gave on both sides.
    rw [run_cons, Ledger.run_cons, hreply, hreplies]
    exact ⟨htidy, hrest, rfl⟩

/-! ### Accounts of a run -/

/-- An operation adds the request that it accepts, and takes off those that it says it settles. -/
theorem Tidy.length_perform {w : Waitlist} (hw : w.Tidy) (now : Instant) (op : WaitlistOp) :
    (w.perform now op).1.pending.length + (w.perform now op).2.released =
      w.pending.length + (if (w.perform now op).2.isAccepted then 1 else 0) := by
  cases op with
  | register id request ttl awaited =>
    cases hfind : w.find? (Text.correlationForm id) with
    | some r =>
      rw [perform_register_of_some hfind]
      rfl
    | none =>
      rw [perform_register_of_none hfind]
      simp [WaitlistReply.released, WaitlistReply.isAccepted]
  | complete | cancel | sweep | shutdown =>
    rw [(settles_perform hw now _ (by simp)).length, isAccepted_perform w now (by simp)]
    rfl

/-- What was on the list before a run or accepted during it is on the list or settled. -/
theorem Tidy.length_run {w : Waitlist} (hw : w.Tidy) (ops : List (Instant × WaitlistOp)) :
    w.pending.length + (w.run ops).2.countP (·.isAccepted) =
      (w.run ops).1.pending.length + ((w.run ops).2.map (·.released)).sum := by
  induction ops generalizing w with
  | nil => rfl
  | cons x ops ih =>
    obtain ⟨now, op⟩ := x
    -- What one operation adds and takes off balances, and the balances add up.
    have hstep := hw.length_perform now op
    have hrest := ih (hw.perform now op)
    simp only [run_cons, List.countP_cons, List.map_cons, List.sum_cons]
    omega

/-- An operation under one id leaves the requests under all others as they are. -/
theorem Tidy.filter_perform {w : Waitlist} (hw : w.Tidy) (now : Instant) (op : WaitlistOp)
    {id : String} (hid : op.id? = some id) :
    (w.perform now op).1.pending.filter (·.id != Text.correlationForm id) =
      w.pending.filter (·.id != Text.correlationForm id) := by
  cases op with
  | register id' request ttl awaited =>
    -- A registration adds a request under its own id, or none; the others settle under theirs.
    obtain rfl : id' = id := Option.some.inj hid
    cases hfind : w.find? (Text.correlationForm id') with
    | some r => rw [perform_register_of_some hfind]
    | none =>
      rw [perform_register_of_none hfind]
      simp [added]
  | complete id' answer =>
    obtain rfl : id' = id := Option.some.inj hid
    refine (settles_perform hw now (.complete id' answer) (by simp)).filter_ne fun r hr => ?_
    simp [WaitlistOp.outcomeFor, Ne.symm hr]
  | cancel id' =>
    obtain rfl : id' = id := Option.some.inj hid
    refine (settles_perform hw now (.cancel id') (by simp)).filter_ne fun r hr => ?_
    simp [WaitlistOp.outcomeFor, Ne.symm hr]
  | sweep => simp [WaitlistOp.id?] at hid
  | shutdown => simp [WaitlistOp.id?] at hid

/-! ### Deliveries -/

/-- Under a ticket no outcome is delivered but that of its request. -/
theorem Mirrors.outcomes_of_ticket {w : Waitlist} {l : Ledger} (h : Mirrors w l) {a : Account}
    (ha : a ∈ l) {k : Nat} (hk : a.entry.ticket = some k) :
    w.outcomes.filter (·.1 == k) = (a.outcome?.map (k, ·)).toList := by
  have hnodup : (l.filterMap (·.entry.ticket)).Nodup := by
    rw [h.numbered]
    exact List.nodup_range
  obtain ⟨before, after, rfl⟩ := List.append_of_mem ha
  rw [List.filterMap_append,
    List.filterMap_cons_some (f := fun b : Account => b.entry.ticket) hk,
    List.nodup_append] at hnodup
  -- No other account has this ticket, so nothing that goes to another one is under it.
  have hother : ∀ accounts : Ledger, k ∉ accounts.filterMap (·.entry.ticket) →
      (accounts.filterMap fun b => b.entry.mail b.outcome?).filter (·.1 == k) = [] := by
    intro accounts hnone
    refine List.filter_eq_nil_iff.mpr fun x hx => ?_
    obtain ⟨b, hb, hmail⟩ := List.mem_filterMap.mp hx
    obtain ⟨ticket, hticket, hout⟩ := Option.bind_eq_some_iff.mp hmail
    obtain ⟨o, -, rfl⟩ := Option.map_eq_some_iff.mp hout
    have hne : ticket ≠ k := by
      rintro rfl
      exact hnone (List.mem_filterMap.mpr ⟨b, hb, hticket⟩)
    simpa using hne
  have hbefore := hother before fun hmem => hnodup.2.2 k hmem k List.mem_cons_self rfl
  have hafter := hother after (List.nodup_cons.mp hnodup.2.1).1
  have hmail : a.entry.mail a.outcome? = a.outcome?.map (k, ·) := by
    rw [Waiting.mail, hk, Option.bind_some]
  have hperm := h.outcomes.filter (·.1 == k)
  rw [List.filterMap_append, List.filterMap_cons, hmail, List.filter_append, hbefore,
    List.nil_append] at hperm
  -- What is left of the deliveries is that of the account itself, if it has an outcome.
  cases ho : a.outcome? with
  | none =>
    rw [ho] at hperm
    exact List.Perm.eq_nil (by simpa [hafter] using hperm)
  | some o =>
    rw [ho] at hperm
    exact List.perm_singleton.mp (by simpa [hafter] using hperm)

/-- Whatever is delivered is delivered under a ticket that was handed out. -/
theorem Mirrors.ticket_of_outcome {w : Waitlist} {l : Ledger} (h : Mirrors w l) {k : Nat}
    {o : Outcome} (ho : (k, o) ∈ w.outcomes) : ∃ a ∈ l, a.entry.ticket = some k := by
  obtain ⟨a, ha, hmail⟩ := List.mem_filterMap.mp (h.outcomes.mem_iff.mp ho)
  obtain ⟨ticket, hticket, hout⟩ := Option.bind_eq_some_iff.mp hmail
  obtain ⟨o', -, heq⟩ := Option.map_eq_some_iff.mp hout
  obtain rfl : ticket = k := congrArg Prod.fst heq
  exact ⟨a, ha, hticket⟩

/-- Of the waitlist and the ledger that some operations gave, and of what they replied: every
request that was accepted is still to be settled, or was settled once and for a reason. -/
structure SettledOnce (ops : List (Instant × WaitlistOp)) (w : Waitlist × List WaitlistReply)
    (l : Ledger × List WaitlistReply) : Prop where
  replies : w.2 = l.2
  /-- There is an account for each registration that was accepted, and for nothing else. -/
  accounts : l.1.map (·.entry) =
    (ops.zip w.2).filterMap fun ((now, op), reply) => op.listed now reply
  /-- An account was closed, if it was, after the registration, by what ended the request. -/
  reasons : ∀ a ∈ l.1, ∃ before now op after, ops = before ++ (now, op) :: after ∧
    Ledger.Registers now op a.entry ∧ Ledger.ClosedWithin after a
  /-- The list holds the requests that were accepted and not settled. -/
  pending : w.1.pending = l.1.openEntries
  keyed : (w.1.pending.map (·.id)).Nodup
  frame : ∀ now op id, op.id? = some id →
    (w.1.perform now op).1.pending.filter (·.id != Text.correlationForm id) =
      w.1.pending.filter (·.id != Text.correlationForm id)
  balance : w.2.countP (·.isAccepted) = w.1.pending.length + (w.2.map (·.released)).sum
  /-- No ticket is handed out twice. -/
  tickets : (l.1.filterMap (·.entry.ticket)).Nodup
  addressed : ∀ k o, (k, o) ∈ w.1.outcomes → ∃ a ∈ l.1, a.entry.ticket = some k
  /-- Nothing is delivered before the request is settled. -/
  undelivered : ∀ a ∈ l.1, ∀ k, a.entry.ticket = some k → a.closing = none →
    w.1.outcomes.filter (·.1 == k) = []
  /-- One outcome is delivered when the request is settled: the one it was settled with. -/
  delivered : ∀ a ∈ l.1, ∀ k now op, a.entry.ticket = some k → a.closing = some (now, op) →
    ∃ o, op.Ends now a.entry o ∧ w.1.outcomes.filter (·.1 == k) = [(k, o)]
  sweep : ∀ now : Instant,
    (w.1.sweep now).1.pending = w.1.pending.filter fun r => ¬ r.since + r.ttl < now
  shutdown : w.1.shutdown.1.pending = []

/-- Every request that was accepted in a run is settled once, by an operation that ends it, unless
it is still on the list. -/
theorem settles_each_request_once (ops : List (Instant × WaitlistOp)) :
    SettledOnce ops (Waitlist.run {} ops) (Ledger.run [] ops) := by
  -- The empty waitlist is tidy and mirrors the empty ledger, so both are so after the run.
  have htidy : Tidy {} := ⟨List.nodup_nil, by simp⟩
  obtain ⟨hw, h, hreplies⟩ := run_mirrors htidy mirrors_nil ops
  exact {
    replies := hreplies
    accounts := by
      rw [hreplies, Ledger.map_entry_run]
      rfl
    reasons := fun a ha => Ledger.opened_by_registration ha
    pending := h.pending
    keyed := hw.keyed
    frame := fun now op id hid => hw.filter_perform now op hid
    balance := by
      have hlength := htidy.length_run ops
      rwa [List.length_nil, Nat.zero_add] at hlength
    tickets := by
      rw [h.numbered]
      exact List.nodup_range
    addressed := fun k o ho => h.ticket_of_outcome ho
    undelivered := by
      intro a ha k hk hopen
      rw [h.outcomes_of_ticket ha hk, Account.outcome?, hopen]
      rfl
    delivered := by
      intro a ha k now op hk hclosing
      obtain ⟨-, -, -, after, -, -, hclosed⟩ := Ledger.opened_by_registration ha
      obtain ⟨-, o, hends⟩ := hclosed now op hclosing
      have houtcome : a.outcome? = some o := by
        rw [Account.outcome?, hclosing]
        exact WaitlistOp.outcomeFor_eq_some_iff.mpr hends
      exact ⟨o, hends, by rw [h.outcomes_of_ticket ha hk, houtcome]; rfl⟩
    sweep := by
      intro now
      rw [(settles_sweep hw now).pending]
      refine List.filter_congr fun r _ => ?_
      by_cases hlate : r.since + r.ttl < now
      · simp [WaitlistOp.outcomeFor, (r.isExpired_iff now).mpr hlate, hlate]
      · have hearly : r.isExpired now = false :=
          Bool.eq_false_iff.mpr (mt (r.isExpired_iff now).mp hlate)
        simp [WaitlistOp.outcomeFor, hearly, hlate]
    shutdown := by
      rw [(settles_shutdown hw 0).pending]
      exact List.filter_eq_nil_iff.mpr fun r _ => by simp [WaitlistOp.outcomeFor] }

end Waitlist

end CommandMesh
