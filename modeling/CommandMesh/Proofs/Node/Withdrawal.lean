import CommandMesh.Proofs.Node.Desk

/-!
# `CommandMesh.Proofs.Node.Withdrawal`: who cancels a request

A caller that sees that its token was cancelled withdraws its request by its id. If its own request
was settled before, another one may wait under that id by then, and it is that one which is
cancelled. `Desk.Robbed` says that this has happened to a caller that waits.

A `Desk` is a node with its callers, over any run that begins with a new waitlist: requests are sent
with ids of their own or fresh ones, answers come in, tokens are cancelled, the node sweeps and
stops, and callers go on in any order. A caller that goes on may look at its token first or at the
outcome of its request first (`Glance`), and nothing is supposed about which. Only where it looks at
the token first, and the outcome is there already, can it withdraw a request that is not its own.

Ids come back: once a request is off the list its id may be taken by another one. Tickets do not,
and a caller waits under its ticket. So where an outcome comes from is followed by tickets
(`mem_outcomes_run`), and what a move ends by ids; that a request on the list has the id its caller
knows ties the two together. The theorems:

* `mem_outcomes_run`: the outcome that waits under a ticket is what a move has settled the request
  with.
* `takes_eq`: what a caller takes that goes on: the outcome under its ticket, or a cancellation of
  its own.
* `takes_cancelled_iff`: a request ends as cancelled if its own caller cancels it in time, if the
  node is stopped, or if another caller withdraws late under its id, and else never.
* `takes_cancelled_of_robbed`: a run in which that last thing happens.
-/

set_option autoImplicit false

namespace CommandMesh

namespace Desk

variable {d : Desk} {now : Instant} {m : Move}

/-! ### Tickets are not used again -/

/-- A request that begins never takes back a ticket. -/
theorem nextTicket_of_departs {n n' : Node} {l : Letter} {s : SendStart Json}
    (h : n.Departs l now n' s) : n.waitlist.nextTicket ≤ n'.waitlist.nextTicket := by
  cases h with
  | notStarted | unwritten => exact Nat.le_refl _
  | dispatched hrun hbody hdispatched =>
    cases hdispatched with
    | duplicate hlisted hkeeps => exact Nat.le_of_eq (by rw [hkeeps.waitlist])
    | undelivered hnew hinside hlink hlist hnext => rwa [hlist]
    | accepted hnew hdetached hlist => exact Nat.le_of_eq (by rw [hlist])
    | awaited hnew hdetached hlist =>
      rw [hlist]
      exact Nat.le_succ _

/-- Only a request that begins to wait takes a ticket, and it takes the next one. -/
theorem ticket_of_departs {n n' : Node} {l : Letter} {s : SendStart Json} {p : Pending}
    (h : n.Departs l now n' s) (hp : s.pending? = some p) :
    p.ticket = n.waitlist.nextTicket := by
  cases h with
  | notStarted | unwritten => simp [SendStart.pending?] at hp
  | dispatched hrun hbody hdispatched =>
    cases hdispatched with
    | duplicate | undelivered | accepted => simp [SendStart.pending?] at hp
    | awaited => rw [← Option.some.inj hp]

/-- No outcome comes about when a request is sent. -/
theorem outcomes_of_departs {n n' : Node} {l : Letter} {s : SendStart Json}
    (h : n.Departs l now n' s) : n'.waitlist.outcomes = n.waitlist.outcomes := by
  cases h with
  | notStarted | unwritten => rfl
  | dispatched hrun hbody hdispatched =>
    cases hdispatched with
    | duplicate hlisted hkeeps => rw [hkeeps.waitlist]
    | undelivered hnew hinside hlink hlist => rw [hlist]
    | accepted hnew hdetached hlist => rw [hlist]
    | awaited hnew hdetached hlist => rw [hlist]

/-- A move hands out tickets in their order, and who waits after it has waited before or has one of
them. -/
theorem tickets_step (h : d.Sound) (now : Instant) (m : Move) :
    d.waitlist.nextTicket ≤ (d.step now m).1.waitlist.nextTicket ∧
      ∀ p ∈ (d.step now m).1.requests, p ∈ d.requests ∨ d.waitlist.nextTicket ≤ p.ticket := by
  obtain ⟨n, hsettles⟩ := settles_settled h.tidy now m
  have hnext : d.waitlist.nextTicket ≤ (d.settled now m).nextTicket :=
    Nat.le_of_eq hsettles.nextTicket.symm
  cases d.steps_step now m with
  | @sends l token read s hm hs hnode hrequests =>
    have hdeparts := d.node.departs_beginSend (α := Json) l now (fresh_of_sound h)
    rw [waitlist, waitlist, hnode, hrequests]
    refine ⟨nextTicket_of_departs hdeparts, fun p hp => ?_⟩
    rcases List.mem_append.mp hp with hp | hp
    · exact Or.inl hp
    · have hwaits : (d.node.beginSend (α := Json) l now).2.pending? = some p :=
        hs ▸ Option.mem_toList.mp hp
      exact Or.inr (Nat.le_of_eq (ticket_of_departs hdeparts hwaits).symm)
  | leaves hm hc ho hlist hrequests =>
    rw [hlist, hrequests]
    exact ⟨hnext, fun p hp => Or.inl (List.mem_of_mem_eraseIdx hp)⟩
  | stays hm hlist hrequests =>
    rw [hlist, hrequests]
    exact ⟨hnext, fun p hp => Or.inl hp⟩

/-- So do moves in turn. -/
theorem tickets_run (h : d.Sound) (ms : List (Instant × Move)) :
    d.waitlist.nextTicket ≤ (d.run ms).waitlist.nextTicket ∧
      ∀ p ∈ (d.run ms).requests, p ∈ d.requests ∨ d.waitlist.nextTicket ≤ p.ticket := by
  induction ms using List.reverseRecOn with
  | nil => exact ⟨Nat.le_refl _, fun p hp => Or.inl hp⟩
  | append_singleton ms x ih =>
    obtain ⟨hle, hmem⟩ := tickets_step (serves_run h ms) x.1 x.2
    rw [run_append_singleton]
    refine ⟨Nat.le_trans ih.1 hle, fun p hp => ?_⟩
    rcases hmem p hp with hp | hticket
    · exact ih.2 p hp
    · exact Or.inr (Nat.le_trans ih.1 hticket)

/-- A caller that waits after a run, with a ticket that was handed out before it, waits before. -/
theorem mem_requests_of_run (h : d.Sound) (ms : List (Instant × Move)) {p : Pending}
    (hp : p ∈ (d.run ms).requests) (hlt : p.ticket < d.waitlist.nextTicket) : p ∈ d.requests := by
  rcases (tickets_run h ms).2 p hp with hp | hle
  · exact hp
  · omega

/-! ### Where outcomes come from -/

/-- The outcome that a move settles a request with is delivered under its ticket. -/
theorem mem_outcomes_settled (h : d.Sound) {t : Nat} {o : Outcome} :
    (t, o) ∈ (d.settled now m).outcomes ↔ (t, o) ∈ d.waitlist.outcomes ∨
      ∃ r ∈ d.waitlist.pending, r.ticket = some t ∧ d.outcomeBy now m r = some o := by
  obtain ⟨n, hsettles⟩ := settles_settled h.tidy now m
  rw [hsettles.outcomes.mem_iff, List.mem_append, List.mem_filterMap]
  refine or_congr_right (exists_congr fun r => and_congr_right fun _ => ?_)
  cases hticket : r.ticket <;> cases ho : d.outcomeBy now m r <;> simp [Waiting.mail, hticket]

/-- While a caller waits, the outcome under its ticket is there from before, or the move has settled
its request with it. -/
theorem mem_outcomes_step (h : d.Sound) {p : Pending} (hp : p ∈ (d.step now m).1.requests)
    {o : Outcome} :
    (p.ticket, o) ∈ (d.step now m).1.waitlist.outcomes ↔
      (p.ticket, o) ∈ d.waitlist.outcomes ∨
        ∃ r ∈ d.waitlist.pending, r.ticket = some p.ticket ∧ d.outcomeBy now m r = some o := by
  rw [← mem_outcomes_settled h]
  cases d.steps_step now m with
  | @sends l token read s hm hs hnode hrequests =>
    have hdeparts := d.node.departs_beginSend (α := Json) l now (fresh_of_sound h)
    have hsame : (d.settled now m).outcomes = d.waitlist.outcomes := by rw [hm]; rfl
    rw [waitlist, hnode, outcomes_of_departs hdeparts, hsame]
    rfl
  | @leaves k first c o' hm hc ho hlist hrequests =>
    -- The outcome that is taken is that of a caller that waits no more.
    have hne : p.ticket ≠ c.pending.ticket :=
      h.ticket_ne (by simp [requests, hc]) (hrequests ▸ hp)
    rw [hlist]
    simp [Waitlist.discard, hne]
  | stays hm hlist hrequests => rw [hlist]

/-- While a caller waits, the outcome under its ticket is the one with which a move has settled its
request. -/
theorem mem_outcomes_run (n : Node) (ms : List (Instant × Move)) {p : Pending}
    (hp : p ∈ ((opened n).run ms).requests) {o : Outcome} :
    (p.ticket, o) ∈ ((opened n).run ms).waitlist.outcomes ↔
      ∃ before now m after r, ms = before ++ (now, m) :: after ∧
        r ∈ ((opened n).run before).waitlist.pending ∧ r.ticket = some p.ticket ∧
          ((opened n).run before).outcomeBy now m r = some o := by
  induction ms using List.reverseRecOn with
  | nil => simp [run, opened, waitlist]
  | append_singleton ms x ih =>
    obtain ⟨now, m⟩ := x
    have hsound := serves_run (sound_opened n) ms
    rw [run_append_singleton] at hp
    have hbefore : p.ticket < ((opened n).run ms).waitlist.nextTicket →
        p ∈ ((opened n).run ms).requests := fun hlt =>
      mem_requests_of_run hsound [(now, m)] hp hlt
    rw [run_append_singleton, mem_outcomes_step hsound hp]
    constructor
    · rintro (hold | ⟨r, hr, hticket, ho⟩)
      · have hlt := hsound.ticket_lt (Or.inr (List.mem_map_of_mem hold))
        obtain ⟨before, now', m', after, r, rfl, hr⟩ := (ih (hbefore hlt)).mp hold
        exact ⟨before, now', m', after ++ [(now, m)], r, by simp, hr⟩
      · exact ⟨ms, now, m, [], r, rfl, hr, hticket, ho⟩
    · rintro ⟨before, now', m', after, r, hsplit, hr, hticket, ho⟩
      rcases append_singleton_eq_iff.mp hsplit with ⟨rfl, heq, -⟩ | ⟨rest, rfl, rfl⟩
      · obtain ⟨rfl, rfl⟩ := Prod.mk.inj heq
        exact Or.inr ⟨r, hr, hticket, ho⟩
      · -- The ticket was handed out before that earlier move, so its caller has waited since.
        have hlt := (serves_run (sound_opened n) before).ticket_lt
          (Or.inl (Waitlist.mem_openTickets.mpr ⟨r, hr, hticket⟩))
        have hle := (tickets_run (serves_run (sound_opened n) before) ((now', m') :: rest)).1
        rw [← run_append] at hle
        exact Or.inl ((ih (hbefore (Nat.lt_of_lt_of_le hlt hle))).mpr
          ⟨before, now', m', rest, r, rfl, hr, hticket, ho⟩)

/-! ### What a caller takes -/

/-- The outcome with which the caller at this place leaves if it goes on. -/
def takes (d : Desk) (k : Nat) (first : Glance) : Option Outcome :=
  d.callers[k]?.bind fun c => (d.node.resumeSend c.pending (d.sees c) first).2

/-- What is on the list under the id of a caller that withdraws is cancelled. -/
theorem outcomeBy_resume (h : d.Sound) {k : Nat} {c : Caller} (hc : d.callers[k]? = some c)
    (first : Glance) (r : Waiting) :
    d.outcomeBy now (.resume k first) r =
      if d.withdraws c first = true ∧ c.pending.id = r.id then some .cancelled else none := by
  have hp : c.pending ∈ d.requests := List.mem_map_of_mem (List.mem_of_getElem? hc)
  unfold outcomeBy
  rw [op?_resume hc]
  cases d.withdraws c first <;> simp [WaitlistOp.outcomeFor, h.normal _ hp]

/-- What a caller takes is the outcome under its ticket once it has withdrawn, if it does. -/
theorem takes_eq_outcome? {k : Nat} {c : Caller} (hc : d.callers[k]? = some c) (first : Glance)
    (now : Instant) :
    d.takes k first = (d.settled now (.resume k first)).outcome? c.pending.ticket := by
  unfold takes
  rw [hc, Option.bind_some, resumeSend_eq, Node.takeOutcome, waitlist_withdrawn hc first now]
  split <;> rename_i ho <;> rw [ho]

/-- A caller that goes on takes the outcome under its ticket. If there is none and it sees that its
token was cancelled, it cancels its own request. -/
theorem takes_eq (h : d.Sound) {k : Nat} {c : Caller} (hc : d.callers[k]? = some c)
    (first : Glance) :
    d.takes k first = (d.waitlist.outcome? c.pending.ticket).or
      (if d.sees c then some .cancelled else none) := by
  have hp : c.pending ∈ d.requests := List.mem_map_of_mem (List.mem_of_getElem? hc)
  have hsettled := h.settled 0 (.resume k first)
  rw [takes_eq_outcome? hc first 0]
  cases ho : d.waitlist.outcome? c.pending.ticket with
  | some o =>
    -- An outcome that was delivered before is not delivered again.
    have hmem := h.outcome?_eq_some_iff.mp ho
    exact hsettled.outcome?_eq_some_iff.mpr ((mem_outcomes_settled h).mpr (Or.inl hmem))
  | none =>
    cases hsees : d.sees c with
    | true =>
      obtain ⟨r, hr, hticket, hid⟩ := h.listed_of_unsettled hp ho
      have hwithdraws : d.withdraws c first = true := by simp [withdraws, hsees, ho]
      have hcancelled : d.outcomeBy 0 (.resume k first) r = some .cancelled := by
        simp [outcomeBy_resume h hc, hwithdraws, hid]
      exact hsettled.outcome?_eq_some_iff.mpr
        ((mem_outcomes_settled h).mpr (Or.inr ⟨r, hr, hticket, hcancelled⟩))
    | false =>
      have hnone : d.op? (.resume k first) = none := by
        rw [op?_resume hc]
        simp [withdraws, hsees]
      simp [settled, hnone, ho]

/-! ### Cancelled requests -/

/-- The request of a caller that waits was on the list when the node was stopped. -/
def Closed (d : Desk) (ms : List (Instant × Move)) (c : Caller) : Prop :=
  ∃ before now after, ms = before ++ (now, .stop) :: after ∧
    (d.run before).node.running = true ∧
      ∃ r ∈ (d.run before).waitlist.pending, r.ticket = some c.pending.ticket

/-- The request of a caller that waits was on the list when another caller, whose own request was
settled before, saw that its token was cancelled and withdrew under the same id. -/
def Robbed (d : Desk) (ms : List (Instant × Move)) (c : Caller) : Prop :=
  ∃ before now k other after, ms = before ++ (now, .resume k .cancellation) :: after ∧
    (d.run before).callers[k]? = some other ∧ (d.run before).sees other = true ∧
      other.pending.ticket ≠ c.pending.ticket ∧ other.pending.id = c.pending.id ∧
        (∃ o, (d.run before).waitlist.outcome? other.pending.ticket = some o) ∧
          ∃ r ∈ (d.run before).waitlist.pending, r.ticket = some c.pending.ticket

/-- A caller that withdraws its own request leaves. -/
theorem not_mem_requests_of_withdraws (h : d.Sound) {k : Nat} {c : Caller} {first : Glance}
    (hc : d.callers[k]? = some c) (hwithdraws : d.withdraws c first = true)
    (hnone : d.waitlist.outcome? c.pending.ticket = none) {p : Pending}
    (hp : p ∈ (d.step now (.resume k first)).1.requests) : p.ticket ≠ c.pending.ticket := by
  have hsees : d.sees c = true := (Bool.and_eq_true_iff.mp hwithdraws).1
  have htakes : d.takes k first = some .cancelled := by simp [takes_eq h hc, hnone, hsees]
  rw [takes_eq_outcome? hc first now] at htakes
  obtain ⟨-, hcallers, -⟩ := step_resume_of_some hc htakes
  rw [requests, hcallers, ← List.eraseIdx_map] at hp
  exact h.ticket_ne (by simp [requests, hc]) hp

/-- Where a caller withdraws under the id of a request on the list that is not its own, its own one
was settled before, and the caller has looked at the cancellation first. -/
theorem settled_of_withdraws (h : d.Sound) {k : Nat} {c : Caller} {first : Glance} {r : Waiting}
    (hc : d.callers[k]? = some c) (hwithdraws : d.withdraws c first = true)
    (hr : r ∈ d.waitlist.pending) (hid : c.pending.id = r.id)
    (hne : r.ticket ≠ some c.pending.ticket) :
    (∃ o, d.waitlist.outcome? c.pending.ticket = some o) ∧ first = .cancellation := by
  have hp : c.pending ∈ d.requests := List.mem_map_of_mem (List.mem_of_getElem? hc)
  cases ho : d.waitlist.outcome? c.pending.ticket with
  | none =>
    -- Its own request would be on the list under the same id.
    obtain ⟨r', hr', hticket, hid'⟩ := h.listed_of_unsettled hp ho
    obtain rfl : r' = r := List.inj_on_of_nodup_map h.tidy.keyed hr' hr (hid'.trans hid)
    exact absurd hticket hne
  | some o =>
    exact ⟨⟨o, rfl⟩, by simpa [withdraws, ho] using (Bool.and_eq_true_iff.mp hwithdraws).2⟩

/-- A move that cancels a request stops the node, or lets a caller withdraw under its id. -/
theorem cancelled_by_iff (h : d.Sound) {r : Waiting} :
    d.outcomeBy now m r = some .cancelled ↔
      m = .stop ∧ d.node.running = true ∨
        ∃ k first c, m = .resume k first ∧ d.callers[k]? = some c ∧ d.withdraws c first = true ∧
          c.pending.id = r.id := by
  cases m with
  | send | cancel | meanwhile => simp [outcomeBy, op?]
  | answer e => cases hreply : e.inReplyTo <;> simp [outcomeBy, op?, WaitlistOp.outcomeFor, hreply]
  | sweep => simp [outcomeBy, op?, WaitlistOp.outcomeFor]
  | stop => cases hrun : d.node.running <;> simp [outcomeBy, op?, WaitlistOp.outcomeFor, hrun]
  | resume k first =>
    cases hc : d.callers[k]? with
    | none =>
      have hnone : d.outcomeBy now (.resume k first) r = none := by simp [outcomeBy, op?, hc]
      rw [hnone]
      simp only [reduceCtorEq, false_and, false_or, false_iff, not_exists, not_and]
      rintro k' first' c heq hc'
      obtain ⟨rfl, rfl⟩ := Move.resume.inj heq
      rw [hc] at hc'
      exact absurd hc' (by simp)
    | some c =>
      rw [outcomeBy_resume h hc]
      simp [hc]

/-- After every run, the outcome under the ticket of a caller that waits is a cancellation exactly
if the node was stopped meanwhile, or another caller has withdrawn late under the same id. -/
theorem outcome?_cancelled_iff (n : Node) (ms : List (Instant × Move)) {c : Caller}
    (hc : c ∈ ((opened n).run ms).callers) :
    ((opened n).run ms).waitlist.outcome? c.pending.ticket = some .cancelled ↔
      (opened n).Closed ms c ∨ (opened n).Robbed ms c := by
  have hp : c.pending ∈ ((opened n).run ms).requests := List.mem_map_of_mem hc
  rw [(serves_run (sound_opened n) ms).outcome?_eq_some_iff, mem_outcomes_run n ms hp]
  constructor
  · rintro ⟨before, now, m, after, r, rfl, hr, hticket, ho⟩
    have hsound := serves_run (sound_opened n) before
    have hnext := serves_step hsound now m
    rcases (cancelled_by_iff hsound).mp ho with
      ⟨rfl, hrun⟩ | ⟨k, first, other, rfl, hother, hwithdraws, hid⟩
    · exact Or.inl ⟨before, now, after, rfl, hrun, r, hr, hticket⟩
    · -- The caller waits before and after this move, so it is not the one that withdraws.
      have hlt := hsound.ticket_lt (Or.inl (Waitlist.mem_openTickets.mpr ⟨r, hr, hticket⟩))
      rw [run_append] at hp
      have hwaited := mem_requests_of_run hsound _ hp hlt
      have hwaits : c.pending ∈ (((opened n).run before).step now (.resume k first)).1.requests :=
        mem_requests_of_run hnext _ hp
          (Nat.lt_of_lt_of_le hlt (tickets_step hsound now (.resume k first)).1)
      -- A caller that withdraws its own request leaves, and this one stays.
      have hne : other.pending.ticket ≠ c.pending.ticket := by
        intro heq
        refine not_mem_requests_of_withdraws hsound hother hwithdraws ?_ hwaits heq.symm
        cases ho' : ((opened n).run before).waitlist.outcome? other.pending.ticket with
        | none => rfl
        | some o => exact absurd hticket (heq ▸ hsound.not_listed_of_settled ho' hr)
      have hsettled := settled_of_withdraws hsound hother hwithdraws hr hid
        (by rw [hticket]; simpa using hne.symm)
      obtain ⟨⟨o, ho'⟩, rfl⟩ := hsettled
      have hsees := (Bool.and_eq_true_iff.mp hwithdraws).1
      exact Or.inr ⟨before, now, k, other, after, rfl, hother, hsees, hne,
        hid.trans (hsound.known r hr _ hwaited hticket), ⟨o, ho'⟩, r, hr, hticket⟩
  · -- Both ways, the move is one that cancels whatever is on the list under that id.
    rintro (⟨before, now, after, rfl, hrun, r, hr, hticket⟩ |
      ⟨before, now, k, other, after, rfl, hother, hsees, -, hid, -, r, hr, hticket⟩)
    · exact ⟨before, now, .stop, after, r, rfl, hr, hticket,
        (cancelled_by_iff (serves_run (sound_opened n) before)).mpr (Or.inl ⟨rfl, hrun⟩)⟩
    · have hsound := serves_run (sound_opened n) before
      have hlt := hsound.ticket_lt (Or.inl (Waitlist.mem_openTickets.mpr ⟨r, hr, hticket⟩))
      rw [run_append] at hp
      -- The request on the list is that of the caller, which knows its id.
      have hknown := hsound.known r hr _ (mem_requests_of_run hsound _ hp hlt) hticket
      have hwithdraws : ((opened n).run before).withdraws other .cancellation = true := by
        simp [withdraws, hsees]
      exact ⟨before, now, _, after, r, rfl, hr, hticket, (cancelled_by_iff hsound).mpr
        (Or.inr ⟨k, .cancellation, other, rfl, hother, hwithdraws, hid.trans hknown.symm⟩)⟩

/-- After every run, a caller that goes on leaves with a cancellation exactly if it sees that its
own token was cancelled while its request has no outcome, or the node was stopped while the request
was on the list, or another caller, which was answered already, has withdrawn under the same id. -/
theorem takes_cancelled_iff (n : Node) (ms : List (Instant × Move)) (k : Nat) (first : Glance) :
    ((opened n).run ms).takes k first = some .cancelled ↔
      ∃ c, ((opened n).run ms).callers[k]? = some c ∧
        (((opened n).run ms).sees c = true ∧
            ((opened n).run ms).waitlist.outcome? c.pending.ticket = none ∨
          (opened n).Closed ms c ∨ (opened n).Robbed ms c) := by
  have hsound := serves_run (sound_opened n) ms
  constructor
  · intro htakes
    obtain ⟨c, hc, -⟩ := Option.bind_eq_some_iff.mp htakes
    refine ⟨c, hc, ?_⟩
    rw [takes_eq hsound hc] at htakes
    rw [← outcome?_cancelled_iff n ms (List.mem_of_getElem? hc)]
    -- An outcome that is there decides, whatever the caller has seen of its token.
    cases ho : ((opened n).run ms).waitlist.outcome? c.pending.ticket with
    | none =>
      rw [ho] at htakes
      exact Or.inl ⟨by simpa using htakes, rfl⟩
    | some o =>
      rw [ho] at htakes
      exact Or.inr (by simpa using htakes)
  · rintro ⟨c, hc, hcases⟩
    rw [takes_eq hsound hc]
    rw [← outcome?_cancelled_iff n ms (List.mem_of_getElem? hc)] at hcases
    rcases hcases with ⟨hsees, hnone⟩ | ho
    · simp [hnone, hsees]
    · simp [ho]

/-! ### A run in which a request is cancelled for another caller -/

/-- A request under the id "X". -/
def sampleLetter : Letter where
  channel := "jobs"
  kind := "billing"
  action := "run"
  body := .ok []
  options := { correlation := some "x" }

/-- The answer to it. -/
def sampleAnswer : Envelope :=
  { Envelope.blank "response" "a" "response" "b" "2" with inReplyTo := some "x" }

/-- A caller is answered, and before it goes on its token is cancelled and another caller sends a
request under the same id. The first caller looks at its token first and withdraws, and the second
one, which has no token, leaves with a cancellation. -/
theorem takes_cancelled_of_robbed :
    let d := (opened { Backlog.sample with running := true }).run
      [(0, .send sampleLetter (some 0) fun _ => .ok .null), (0, .answer sampleAnswer),
        (0, .cancel 0), (0, .send sampleLetter none fun _ => .ok .null),
        (0, .resume 0 .cancellation)]
    d.callers.map (·.token) = [none] ∧ d.node.running = true ∧
      d.takes 0 .outcome = some .cancelled := by
  decide +kernel

end Desk

end CommandMesh
