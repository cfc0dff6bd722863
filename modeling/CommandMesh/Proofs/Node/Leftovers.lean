import CommandMesh.Proofs.Node.Desk

/-!
# `CommandMesh.Proofs.Node.Leftovers`: what requests leave behind

A request that is refused, or cannot be written or sent, leaves the list as it was, and one that is
waited for is off the list when its caller leaves. So what stays, once nobody waits, are requests
that the node accepted from a caller that did not wait. `Node.Accepts` says that a request begins
so, and `Desk.Spared` that none of some moves has ended it.

A `Desk` is a node with the callers that wait for it, over any run that begins with a new waitlist.
Requests are sent, answers come in, tokens are cancelled, callers go on in any order, the node
sweeps and stops, and does anything else in between. What the bodies of requests and answers are
is open, and so is what a caller makes of an answer.

A request that nobody waits for has no ticket, so what stays is told by the tickets: an entry with
one belongs to a caller, and one without was accepted so. It stays on the list until an answer comes
or it is too old at a sweep, which is what it is there for. The theorems:

* `Node.Departs.mem_pending_iff`: of the requests without a ticket, a departure lists the one that
  it accepts.
* `Desk.mem_unawaited_step`, `Desk.mem_unawaited_run`: the requests without a ticket on the list are
  those that were accepted so and spared since.
* `Desk.requests_leave_nothing`: the ways in which requests end, and what is left when nobody waits.
-/

set_option autoImplicit false

namespace CommandMesh

namespace Node

/-- A request that began so is one that nobody waits for, and the node has accepted it as this
entry. -/
def Accepts (n : Node) (l : Letter) (now : Instant) (s : SendStart Json) (r : Waiting) : Prop :=
  ∃ body, l.options.detached = true ∧ l.body = .ok body ∧
    r = n.entry l.options (n.letterMessage l body) now ∧
    s = .ended ⟨r.id, acceptedStatus, "Accepted", none⟩

/-- Of the requests without a ticket, a departure lists the one that it accepts. -/
theorem Departs.mem_pending_iff {n n' : Node} {l : Letter} {now : Instant} {s : SendStart Json}
    {r : Waiting} (h : n.Departs l now n' s) :
    r ∈ n'.waitlist.pending ∧ r.ticket = none ↔
      r ∈ n.waitlist.pending ∧ r.ticket = none ∨ n.Accepts l now s r := by
  unfold Accepts
  cases h with
  | notStarted => simp
  | unwritten => simp
  | dispatched hrun hbody hdispatched =>
    cases hdispatched with
    | duplicate hlisted hkeeps => simp [hkeeps.waitlist]
    | undelivered hnew hinside hlink hlist hnext =>
      -- A fault is not taken for an acceptance.
      have hstatus : faultStatus ≠ acceptedStatus := by decide
      simp [hlist, hstatus]
    | accepted hnew hdetached hlist =>
      have hticket : ∀ e, (n.entry l.options e now).ticket = none := fun e => by
        simp [entry, hdetached]
      simp only [hlist, List.mem_append, List.mem_singleton]
      constructor
      · rintro ⟨hr | rfl, hnone⟩
        · exact Or.inl ⟨hr, hnone⟩
        · exact Or.inr ⟨_, hdetached, hbody, rfl, rfl⟩
      · rintro (⟨hr, hnone⟩ | ⟨body', -, hbody', rfl, -⟩)
        · exact ⟨Or.inl hr, hnone⟩
        · obtain rfl := Except.ok.inj (hbody.symm.trans hbody')
          exact ⟨Or.inr rfl, hticket _⟩
    | awaited hnew hdetached hlist =>
      simp only [hlist, List.mem_append, List.mem_singleton]
      constructor
      · rintro ⟨hr | rfl, hnone⟩
        · exact Or.inl ⟨hr, hnone⟩
        · simp [entry, hdetached] at hnone
      · -- The caller waits, so the request is not one that nobody waits for.
        rintro (⟨hr, hnone⟩ | ⟨-, hdetached', -⟩)
        · exact ⟨Or.inl hr, hnone⟩
        · rw [hdetached] at hdetached'
          exact absurd hdetached' (by simp)

end Node

namespace Desk

/-- The move is a request that nobody waits for, and the node accepts it as this entry. -/
def Accepts (d : Desk) (now : Instant) (m : Move) (r : Waiting) : Prop :=
  ∃ l token read, m = .send l token read ∧ d.node.Accepts l now (d.node.beginSend l now).2 r

/-- None of the moves ends the request, whether by an answer, a cancellation, a sweep or a stop. -/
def Spared (d : Desk) (ms : List (Instant × Move)) (r : Waiting) : Prop :=
  ∀ before now m after, ms = before ++ (now, m) :: after →
    ∀ op, (d.run before).op? m = some op → ∀ o, ¬ op.Ends now r o

variable {d : Desk} {now : Instant} {m : Move} {r : Waiting}

/-! ### One move -/

/-- A move spares a request exactly if its operation on the list, if it has one, does not end it. -/
theorem outcomeBy_eq_none_iff :
    d.outcomeBy now m r = none ↔ ∀ op, d.op? m = some op → ∀ o, ¬ op.Ends now r o := by
  unfold outcomeBy
  rw [Option.bind_eq_none_iff]
  refine forall_congr' fun op => forall_congr' fun _ => ?_
  rw [Option.eq_none_iff_forall_ne_some]
  exact forall_congr' fun o => not_congr WaitlistOp.outcomeFor_eq_some_iff

/-- After a move the requests without a ticket are those of before that it does not end, and the one
that it accepts. -/
theorem mem_unawaited_step (h : d.Sound) :
    r ∈ (d.step now m).1.waitlist.pending ∧ r.ticket = none ↔
      (r ∈ d.waitlist.pending ∧ r.ticket = none) ∧ d.outcomeBy now m r = none ∨
        d.Accepts now m r := by
  -- Only a send can list a request. All other moves can only take some off.
  by_cases hm : ∃ l token read, m = .send l token read
  · obtain ⟨l, token, read, rfl⟩ := hm
    obtain ⟨hnode, -⟩ := d.step_send now l token read
    have hdeparts := (d.node.departs_beginSend l now (fresh_of_sound h)).mem_pending_iff (r := r)
    have hnone : d.outcomeBy now (.send l token read) r = none := rfl
    have haccepts : d.Accepts now (.send l token read) r ↔
        d.node.Accepts l now (d.node.beginSend l now).2 r := by
      constructor
      · rintro ⟨l', token', read', heq, haccepts⟩
        obtain ⟨rfl, rfl, rfl⟩ := Move.send.inj heq
        exact haccepts
      · exact fun haccepts => ⟨l, token, read, rfl, haccepts⟩
    rw [waitlist, hnode, haccepts, hdeparts]
    simp [hnone, waitlist]
  · have hno : ¬ d.Accepts now m r := by
      rintro ⟨l, token, read, rfl, -⟩
      exact hm ⟨l, token, read, rfl⟩
    have hsend : ∀ l token read, m ≠ .send l token read := fun l token read heq =>
      hm ⟨l, token, read, heq⟩
    rw [pending_step h hsend, List.mem_filter, Option.isNone_iff_eq_none]
    simp only [hno, or_false, and_right_comm]

/-! ### Runs -/

/-- A request is spared while nothing happens. -/
theorem spared_nil (d : Desk) (r : Waiting) : d.Spared [] r := by
  intro before now m after hsplit
  simp at hsplit

/-- A request is spared by moves in turn exactly if it is spared by those before the last, and by
that. -/
theorem spared_append_singleton {ms : List (Instant × Move)} :
    d.Spared (ms ++ [(now, m)]) r ↔ d.Spared ms r ∧ (d.run ms).outcomeBy now m r = none := by
  rw [outcomeBy_eq_none_iff]
  constructor
  · intro h
    refine ⟨?_, h ms now m [] rfl⟩
    rintro before now' m' after rfl
    exact h before now' m' (after ++ [(now, m)]) (by simp)
  · rintro ⟨hbefore, hlast⟩ before now' m' after hsplit
    rcases append_singleton_eq_iff.mp hsplit with ⟨rfl, heq, -⟩ | ⟨rest, -, rfl⟩
    · obtain ⟨rfl, rfl⟩ := Prod.mk.inj heq
      exact hlast
    · exact hbefore before now' m' rest rfl

/-- After a run the requests without a ticket are those that were accepted in it and spared
since. -/
theorem mem_unawaited_run (n : Node) (ms : List (Instant × Move)) :
    r ∈ ((opened n).run ms).waitlist.pending ∧ r.ticket = none ↔
      ∃ before now m after, ms = before ++ (now, m) :: after ∧
        ((opened n).run before).Accepts now m r ∧
          ((opened n).run (before ++ [(now, m)])).Spared after r := by
  induction ms using List.reverseRecOn with
  | nil => simp [run, opened, waitlist]
  | append_singleton ms x ih =>
    obtain ⟨now, m⟩ := x
    rw [run_append_singleton, mem_unawaited_step (serves_run (sound_opened n) ms), ih]
    -- Such a request is from before and spared by the last move, or accepted in it.
    constructor
    · rintro (⟨⟨before, now', m', after, rfl, haccepts, hspared⟩, hlast⟩ | haccepts)
      · refine ⟨before, now', m', after ++ [(now, m)], by simp, haccepts, ?_⟩
        refine spared_append_singleton.mpr ⟨hspared, ?_⟩
        rwa [← run_append, List.append_assoc]
      · exact ⟨ms, now, m, [], rfl, haccepts, spared_nil _ r⟩
    · rintro ⟨before, now', m', after, hsplit, haccepts, hspared⟩
      rcases append_singleton_eq_iff.mp hsplit with ⟨rfl, heq, -⟩ | ⟨rest, rfl, rfl⟩
      · obtain ⟨rfl, rfl⟩ := Prod.mk.inj heq
        exact Or.inr haccepts
      · obtain ⟨hspared, hlast⟩ := spared_append_singleton.mp hspared
        refine Or.inl ⟨⟨before, now', m', rest, rfl, haccepts, hspared⟩, ?_⟩
        rwa [← run_append, List.append_assoc] at hlast

/-- Of the run of a node that began with a new waitlist: how the next request ends, and what is on
the list. -/
structure LeavesNothing (d : Desk) (ms : List (Instant × Move)) : Prop where
  /-- The next request begins in one of the ways, with what each leaves behind. -/
  departs : ∀ l now, (d.run ms).node.Departs l now ((d.run ms).node.beginSend (α := Json) l now).1
    ((d.run ms).node.beginSend (α := Json) l now).2
  /-- A caller that waits leaves with the response to an outcome, and its request is off the list
  then. -/
  leaves : ∀ now k first c reply, (d.run ms).callers[k]? = some c →
    ((d.run ms).step now (.resume k first)).2 = some reply →
      (∃ n o, reply = .ok (Node.settleSend n c.read c.pending o).2) ∧
        ∀ r ∈ ((d.run ms).step now (.resume k first)).1.waitlist.pending,
          r.ticket ≠ some c.pending.ticket
  /-- Requests on the list have different ids. -/
  keyed : ((d.run ms).waitlist.pending.map (·.id)).Nodup
  /-- When nobody waits, what is on the list was accepted without a caller that waits, and was not
  answered, cancelled, swept or shut down since. -/
  leftovers : (d.run ms).callers = [] → ∀ r, r ∈ (d.run ms).waitlist.pending ↔
    ∃ before now m after, ms = before ++ (now, m) :: after ∧ (d.run before).Accepts now m r ∧
      (d.run (before ++ [(now, m)])).Spared after r

/-- A caller leaves with the response to an outcome, and has no request on the list then. -/
theorem settled_of_step_resume (h : d.Sound) {k : Nat} {c : Caller} {first : Glance}
    {reply : Except Failure (Response Json)} (hc : d.callers[k]? = some c)
    (hreply : (d.step now (.resume k first)).2 = some reply) :
    (∃ n o, reply = .ok (Node.settleSend n c.read c.pending o).2) ∧
      ∀ r ∈ (d.step now (.resume k first)).1.waitlist.pending,
        r.ticket ≠ some c.pending.ticket := by
  cases ho : (d.settled now (.resume k first)).outcome? c.pending.ticket with
  | some o =>
    obtain ⟨hlist, -, n, hout⟩ := step_resume_of_some hc ho
    refine ⟨⟨n, o, Option.some.inj (hreply.symm.trans hout)⟩, fun r hr => ?_⟩
    rw [hlist] at hr
    exact (h.settled now (.resume k first)).not_listed_of_settled ho hr
  | none =>
    rw [(step_resume_of_none hc ho).2.2] at hreply
    exact absurd hreply (by simp)

/-- Whatever requests are sent to a node, and whatever comes in between, none of them leaves
anything behind but those that were accepted for nobody to wait for, until they are ended. -/
theorem requests_leave_nothing (n : Node) (ms : List (Instant × Move)) :
    (opened n).LeavesNothing ms := by
  have hsound := serves_run (sound_opened n) ms
  exact {
    departs := fun l now => Node.departs_beginSend _ l now (fresh_of_sound hsound)
    leaves := fun now k first c reply hc hreply => settled_of_step_resume hsound hc hreply
    keyed := hsound.tidy.keyed
    leftovers := by
      intro hnobody r
      rw [← mem_unawaited_run]
      refine ⟨fun hr => ⟨hr, ?_⟩, And.left⟩
      -- A ticket would be that of a caller.
      cases hticket : r.ticket with
      | none => rfl
      | some t =>
        obtain ⟨p, hp, -⟩ := hsound.exists_caller
          (Or.inl (Waitlist.mem_openTickets.mpr ⟨r, hr, hticket⟩))
        simp [requests, hnobody] at hp }

end Desk

end CommandMesh
