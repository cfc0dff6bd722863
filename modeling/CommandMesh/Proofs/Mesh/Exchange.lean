import CommandMesh.Proofs.Mesh.Deal
import CommandMesh.Proofs.Node.Departure
import Mathlib.Algebra.Order.BigOperators.Group.List
import Mathlib.Algebra.Order.Group.Nat

/-!
# `CommandMesh.Proofs.Mesh.Exchange`: how a request gets its answer

`Deal.Holds` is the invariant of an exchange: of the messages that concern the deal there are copies
of the request and of the answer only, every errand with one of them will go on as it should, and
until the client has its answer there is a message or an errand that brings it nearer. The client's
waitlist is compared with `base`, the one that it would have if the request had never been made.

A `Deal.Step` is a step of the exchange. Whatever else happens in the mesh may happen at any time,
as long as it is `Deal.Aloof`: it sends nothing under the id of the request, takes no message of the
exchange away and leaves the routes of the two headers alone. `Deal.Run` counts the steps, and keeps
the answers to other requests that the client has taken meanwhile.

Nothing is assumed of the order in which nodes take messages up and go on with their errands. A step
may come after any number of other things; the bus may hand copies out to any number of nodes; the
request and the answer may be taken up more than once. That the exchange ends follows from `load`,
which counts what is left to do: each message and each errand of the exchange weighs what it can
still cause, every step makes the sum smaller, and what is aloof leaves it as it is. That it ends
with the answer follows from `Lively`.

Time does not pass here. A request that times out or is cancelled is settled by something that is
not aloof, since it delivers an outcome under the ticket of the request, so such runs are left out;
what becomes of them is the matter of the waitlist.

* `Stands.receive_aside`, `Stands.receive_answer`: what other answers, and the answer, do to the
  client's waitlist.
* `holds_step`: a step keeps the invariant and makes less to do.
* `step_or_aloof_listen`, `step_or_aloof_pump`, `aloof_put`: nodes may take messages up at any time,
  and do whatever they like about other messages.
* `holds_aloof`, `load_aloof`: whatever is aloof keeps the invariant and leaves as much to do.
* `holds_run`, `exists_step`: so the exchange comes to its end, and it does not stop before the
  client has the answer.
-/

set_option autoImplicit false

namespace CommandMesh

/-! ### The client's waitlist -/

namespace Waitlist

variable {w : Waitlist} {e : Envelope} {key : String}

/-- To receive an answer is to settle the request that it names, if that waits. -/
theorem receive_of_some {r : Waiting} (hkey : e.inReplyTo = some key)
    (hfind : w.find? (Text.correlationForm key) = some r) :
    w.receive e = { w with
      pending := w.pending.eraseP (·.id == Text.correlationForm key)
      outcomes := w.outcomes ++ (r.mail (some (.answered e))).toList } := by
  simp only [receive, hkey, complete, settle, hfind, Option.map_some, Option.getD_some, deliver_eq]

/-- An answer to a request that does not wait changes nothing. -/
theorem receive_of_none (hkey : e.inReplyTo = some key)
    (hfind : w.find? (Text.correlationForm key) = none) : w.receive e = w := by
  simp only [receive, hkey, complete, settle, hfind, Option.map_none, Option.getD_none]

/-- A message that answers no request changes nothing. -/
theorem receive_of_uncorrelated (hkey : e.inReplyTo = none) : w.receive e = w := by
  simp only [receive, hkey]

/-- A request that is found under an id is on the list and has this id. -/
theorem mem_of_find? {id : String} {r : Waiting} (h : w.find? id = some r) :
    r ∈ w.pending ∧ r.id = id :=
  ⟨List.mem_of_find?_eq_some h, by simpa using List.find?_some h⟩

end Waitlist

namespace Deal

variable {k : Nat} {x : Deal k} {base w : Waitlist} {e : Envelope}

/-- The request's id and ticket are free in a waitlist. -/
structure Free (x : Deal k) (base : Waitlist) : Prop where
  id : x.id ∉ base.pending.map (·.id)
  ticket : ∀ r ∈ base.pending, r.ticket ≠ some x.ticket

/-- The client has its answer. -/
def Answered (x : Deal k) (w : Waitlist) : Prop :=
  ∃ e, x.Answers e ∧ w.outcome? x.ticket = some (.answered e)

/-- The client's waitlist, beside one without the request: the request waits, or it was answered. -/
inductive Stands (x : Deal k) (base w : Waitlist) : Prop where
  | waits {r : Waiting} : r.id = x.id → r.ticket = some x.ticket →
      w.pending = base.pending ++ [r] → w.outcome? x.ticket = none → Stands x base w
  | answered : w.pending = base.pending → x.Answered w → Stands x base w

/-- A message that does not concern the deal answers some other request, however its id is written.
-/
theorem correlationForm_ne_of_aside {key : String} (he : x.concerns e = false)
    (hkey : e.inReplyTo = some key) : Text.correlationForm key ≠ x.id := by
  intro heq
  simp [concerns, Envelope.isAbout, hkey, heq] at he

/-- What is delivered later is found under a ticket only if nothing was found there before. -/
theorem outcome?_append {t : Nat} {os : List (Nat × Outcome)} (hw : w.outcomes = os)
    {w' : Waitlist} {o : Option (Nat × Outcome)} (hw' : w'.outcomes = os ++ o.toList) :
    w'.outcome? t = (w.outcome? t).or (o.toList.lookup t) := by
  rw [Waitlist.outcome?, Waitlist.outcome?, hw, hw', List.lookup_append]

/-- What is delivered under another ticket is not found under this one. -/
theorem lookup_mail {r : Waiting} {t : Nat} (h : r.ticket ≠ some t) (o : Outcome) :
    (r.mail (some o)).toList.lookup t = none := by
  cases hticket : r.ticket with
  | none => simp [Waiting.mail, hticket]
  | some t' =>
    have hother : (t == t') = false := by
      simpa using fun heq => h (by rw [hticket, heq])
    simp [Waiting.mail, hticket, List.lookup_cons, hother]

/-- A list that other answers are taken from stays free for the request. -/
theorem Free.receive (h : x.Free base) (e : Envelope) : x.Free (base.receive e) := by
  have hsub : (base.receive e).pending.Sublist base.pending := by
    cases hkey : e.inReplyTo with
    | none =>
      rw [Waitlist.receive_of_uncorrelated hkey]
    | some key =>
      cases hfind : base.find? (Text.correlationForm key) with
      | none => rw [Waitlist.receive_of_none hkey hfind]
      | some r =>
        rw [Waitlist.receive_of_some hkey hfind]
        exact List.eraseP_sublist
  exact ⟨fun hmem => h.id ((hsub.map _).subset hmem), fun r hr => h.ticket r (hsub.subset hr)⟩

/-- An answer to another request does to the list what it would do without this request. -/
theorem Stands.receive_aside (h : x.Stands base w) (hfree : x.Free base)
    (he : x.concerns e = false) : x.Stands (base.receive e) (w.receive e) := by
  cases hkey : e.inReplyTo with
  | none =>
    rw [Waitlist.receive_of_uncorrelated hkey, Waitlist.receive_of_uncorrelated hkey]
    exact h
  | some key =>
    have hne := correlationForm_ne_of_aside he hkey
    -- The request itself is not found under another id.
    have hfind : w.find? (Text.correlationForm key) = base.find? (Text.correlationForm key) := by
      cases h with
      | @waits r hid _ hpending _ =>
        have hmiss : (r.id == Text.correlationForm key) = false := by
          simpa [hid] using hne.symm
        rw [Waitlist.find?, hpending, List.find?_append]
        simp [Waitlist.find?, hmiss]
      | answered hpending _ => rw [Waitlist.find?, hpending, Waitlist.find?]
    cases hbase : base.find? (Text.correlationForm key) with
    | none =>
      rw [Waitlist.receive_of_none hkey hbase, Waitlist.receive_of_none hkey (hfind.trans hbase)]
      exact h
    | some r' =>
      obtain ⟨hmem, hid'⟩ := Waitlist.mem_of_find? hbase
      have hother := lookup_mail (hfree.ticket r' hmem) (.answered e)
      rw [Waitlist.receive_of_some hkey hbase, Waitlist.receive_of_some hkey (hfind.trans hbase)]
      -- The request is last on the list, so what is struck out before it leaves it where it is.
      cases h with
      | @waits r hid hticket hpending hnone =>
        refine .waits hid hticket ?_ ?_
        · dsimp only
          rw [hpending, List.eraseP_append_left (a := r') (by simp [hid']) _ hmem]
        · rw [outcome?_append rfl rfl, hnone, hother]
          rfl
      | answered hpending hanswered =>
        obtain ⟨a, ha, houtcome⟩ := hanswered
        refine .answered ?_ ⟨a, ha, ?_⟩
        · dsimp only
          rw [hpending]
        · rw [outcome?_append rfl rfl, houtcome]
          rfl

/-- The answer settles the request. A second copy finds it settled. -/
theorem Stands.receive_answer (h : x.Stands base w) (hfree : x.Free base) (he : x.Answers e) :
    (w.receive e).pending = base.pending ∧ x.Answered (w.receive e) := by
  -- The first copy settles the request, which is last on the list; later ones find nothing under
  -- its id.
  cases h with
  | @waits r hid hticket hpending hnone =>
    have hreceive : w.receive e =
        ({ w with pending := base.pending } : Waitlist).deliver r (.answered e) := by
      have hsettle := Waitlist.settle_append hpending (hid ▸ hfree.id) (.answered e)
      rw [hid] at hsettle
      simp only [Waitlist.receive, he.inReplyTo, Waitlist.complete]
      rw [show w.settle (Text.correlationForm x.request.key) _ = _ from hsettle, Option.getD_some]
    rw [hreceive, Waitlist.deliver_eq]
    refine ⟨rfl, e, he, ?_⟩
    rw [outcome?_append (w := w) rfl rfl, hnone, Waiting.mail, hticket]
    simp
  | answered hpending hanswered =>
    have hfind : w.find? x.id = none :=
      Waitlist.find?_eq_none_iff.mpr (hpending ▸ hfree.id)
    rw [Waitlist.receive_of_none he.inReplyTo hfind]
    exact ⟨hpending, hanswered⟩

/-! ### The invariant -/

/-- The client has its answer, or something is under way that brings it nearer. -/
inductive Lively (x : Deal k) (t : Traffic k) : Prop where
  | answered : x.Answered (t.nodes x.client).waitlist → Lively x t
  | asked : x.request ∈ t.mail x.server → Lively x t
  | served {d : Errand k} : d ∈ t.errands → d.node = x.server → d.message = x.request → Lively x t
  | told {e : Envelope} : e ∈ t.mail x.client → x.Answers e → Lively x t
  | taken {d : Errand k} : d ∈ t.errands → d.node = x.client → x.Answers d.message →
      d.stage.isEarly = true → Lively x t

/-- What is so all along the exchange. -/
structure Holds (x : Deal k) (base : Waitlist) (t : Traffic k) : Prop where
  grounded : x.Grounded t
  /-- What was posted has been handed on, as far as it concerns the deal. -/
  posted : ∀ i, ∀ e ∈ (t.nodes i).outbox, x.concerns e = false
  mail : ∀ i, ∀ e ∈ t.mail i, x.concerns e = true → e = x.request ∨ x.Answers e
  errands : ∀ d ∈ t.errands, x.concerns d.message = true → x.Asks d ∨ x.Tells d
  free : x.Free base
  stands : x.Stands base (t.nodes x.client).waitlist
  lively : x.Lively t

/-- What is left to do. -/
def load (x : Deal k) (t : Traffic k) : Nat :=
  ∑ i, ((t.mail i).map x.weight).sum + (t.errands.map x.effort).sum

variable {t t' : Traffic k} {i : Fin k} {es : List Envelope}

/-! ### Taking messages up -/

/-- What has come to a node is still there, or it has just become an errand. -/
theorem mem_mail_takesUp (ht : t.TakesUp i es t') {j : Fin k} {e : Envelope} (he : e ∈ t.mail j) :
    e ∈ t'.mail j ∨ ⟨j, e, .arrived⟩ ∈ t'.errands := by
  rcases List.mem_append.mp ((ht.mail j).mem_iff.mp he) with he | he
  · exact Or.inl he
  · split at he
    · next hj =>
      subst hj
      rw [ht.errands]
      exact Or.inr (List.mem_append_right _ (List.mem_map_of_mem he))
    · exact absurd he (by simp)

/-- To take messages up leaves something that brings the client nearer to its answer. -/
theorem lively_takesUp (h : x.Lively t) (ht : t.TakesUp i es t') : x.Lively t' := by
  -- Errands that were there are there still; a message stays where it was or is an errand now.
  have hold : ∀ d ∈ t.errands, d ∈ t'.errands := fun d hd => by
    rw [ht.errands]
    exact List.mem_append_left _ hd
  cases h with
  | answered hanswered =>
    refine .answered ?_
    rw [ht.waitlist]
    exact hanswered
  | asked hmail =>
    rcases mem_mail_takesUp ht hmail with hmail | herrand
    · exact .asked hmail
    · exact .served herrand rfl rfl
  | served hd hnode hmessage => exact .served (hold _ hd) hnode hmessage
  | told hmail hanswer =>
    rcases mem_mail_takesUp ht hmail with hmail | herrand
    · exact .told hmail hanswer
    · exact .taken herrand rfl hanswer rfl
  | taken hd hnode hanswer hearly => exact .taken (hold _ hd) hnode hanswer hearly

/-- To take messages up keeps what holds. -/
theorem Holds.takesUp (h : x.Holds base t) (ht : t.TakesUp i es t') : x.Holds base t' where
  grounded := h.grounded.of_same (ht.same _)
  posted := by
    intro j
    rw [ht.outbox]
    exact h.posted j
  mail := fun j e he => h.mail j e ((ht.mail j).mem_iff.mpr (List.mem_append_left _ he))
  errands := by
    intro d hd hconcerns
    rw [ht.errands] at hd
    rcases List.mem_append.mp hd with hd | hd
    · exact h.errands d hd hconcerns
    · obtain ⟨e, he, rfl⟩ := List.mem_map.mp hd
      have hmail : e ∈ t.mail i := (ht.mail i).mem_iff.mpr
        (List.mem_append_right _ (by rw [if_pos rfl]; exact he))
      rcases h.mail i e hmail hconcerns with rfl | hanswer
      · exact Or.inl ⟨rfl, trivial⟩
      · exact Or.inr ⟨hanswer, trivial⟩
  free := h.free
  stands := by
    rw [ht.waitlist]
    exact h.stands
  lively := lively_takesUp h.lively ht

/-- A message that was taken up leaves less to do. -/
theorem effort_arrived (i : Fin k) (e : Envelope) :
    x.effort ⟨i, e, .arrived⟩ + (if x.concerns e then 1 else 0) = x.weight e := by
  unfold effort weight
  cases x.concerns e <;> simp [Stage.left]

/-- Two sums that differ at one place differ by what they differ there. -/
theorem sum_eq_add_of_eq_add {f g : Fin k → Nat} {c : Nat} (hi : f i = g i + c)
    (hne : ∀ j, j ≠ i → f j = g j) : ∑ j, f j = ∑ j, g j + c := by
  rw [← Finset.add_sum_erase _ f (Finset.mem_univ i),
    ← Finset.add_sum_erase _ g (Finset.mem_univ i), hi,
    Finset.sum_congr rfl fun j hj => hne j (Finset.ne_of_mem_erase hj)]
  exact Nat.add_right_comm _ _ _

/-- To take up a message that concerns the deal makes less to do. -/
theorem load_takesUp (ht : t.TakesUp i es t') (he : e ∈ es) (hconcerns : x.concerns e = true) :
    x.load t' < x.load t := by
  -- What left the queue of the node is what became an errand, and each message weighs more than its
  -- errand.
  have hmail : ∑ j, ((t.mail j).map x.weight).sum =
      ∑ j, ((t'.mail j).map x.weight).sum + (es.map x.weight).sum := by
    refine sum_eq_add_of_eq_add (i := i) ?_ fun j hj => ?_
    · rw [((ht.mail i).map x.weight).sum_eq, if_pos rfl, List.map_append, List.sum_append]
    · rw [((ht.mail j).map x.weight).sum_eq, if_neg hj, List.append_nil]
  have herrands : (t'.errands.map x.effort).sum =
      (t.errands.map x.effort).sum + (es.map fun e => x.effort ⟨i, e, .arrived⟩).sum := by
    rw [ht.errands, List.map_append, List.sum_append, List.map_map]
    rfl
  -- An errand that has just begun weighs one less than the message did.
  have hless : (es.map fun e => x.effort ⟨i, e, .arrived⟩).sum < (es.map x.weight).sum := by
    refine List.sum_lt_sum _ _ (fun e _ => ?_) ⟨e, he, ?_⟩
    · have hle := effort_arrived (x := x) i e
      omega
    · have hlt := effort_arrived (x := x) i e
      rw [hconcerns, if_pos rfl] at hlt
      omega
  unfold load
  omega

/-- What a node posts weighs as much as everybody's copy of it. -/
theorem sum_mail_put (hwired : t.Wired) {n : Node} {out inside : List Envelope}
    (hadds : (t.nodes i).Adds out inside n)
    (hposted : ∀ e ∈ (t.nodes i).outbox, x.concerns e = false) :
    ∑ j, (((t.put i n).mail j).map x.weight).sum =
      ∑ j, ((t.mail j).map x.weight).sum + k * (out.map x.weight).sum +
        (inside.map x.weight).sum := by
  have hnothing := sum_weight_of_not_concerns hposted
  -- Everybody gets a copy of what goes out, and the node alone what stays inside.
  have hone : ∀ j, (((t.put i n).mail j).map x.weight).sum =
      ((t.mail j).map x.weight).sum + (out.map x.weight).sum +
        if j = i then (inside.map x.weight).sum else 0 := by
    intro j
    rw [Traffic.mail_put hwired hadds, hadds.outbox, Traffic.mail]
    simp only [List.map_append, List.sum_append, hnothing]
    split
    · omega
    · simp only [List.map_nil, List.sum_nil]
      omega
  simp only [hone, Finset.sum_add_distrib, Finset.sum_const, Finset.card_univ, Fintype.card_fin,
    Finset.sum_ite_eq', Finset.mem_univ, if_true, smul_eq_mul]

/-! ### Going on with an errand -/

section

variable {before after : List (Errand k)} {d : Errand k} {out inside : List Envelope} {n : Node}
  {s : Option Stage}

/-- What comes to a node by an errand has come before, or it is an answer. -/
theorem mail_progress (h : x.Holds base t) (hgoes : x.Goes (t.nodes d.node) d out inside n s)
    {j : Fin k} {e : Envelope} (he : e ∈ (t.progress before d after n s).mail j)
    (hconcerns : x.concerns e = true) : e ∈ t.mail j ∨ x.Answers e := by
  have hmail : e ∈ (t.put d.node n).mail j := he
  rw [Traffic.mail_put h.grounded.wired hgoes.adds, hgoes.adds.outbox] at hmail
  simp only [List.mem_append] at hmail
  -- What a node has of the exchange was on the bus, was posted before, is posted now, or was kept
  -- inside.
  rcases hmail with (hqueue | hposted | hout) | hloop | hinside
  · exact Or.inl (List.mem_append_left _ hqueue)
  · rw [h.posted _ e hposted] at hconcerns
    exact absurd hconcerns (by simp)
  · exact Or.inr (hgoes.answers e (List.mem_append_left _ hout) hconcerns)
  · exact Or.inl (List.mem_append_right _ hloop)
  · split at hinside
    · exact Or.inr (hgoes.answers e (List.mem_append_right _ hinside) hconcerns)
    · exact absurd hinside (by simp)

/-- What has come to a node stays there while errands go on. -/
theorem mem_mail_progress (h : x.Holds base t) (hgoes : x.Goes (t.nodes d.node) d out inside n s)
    {j : Fin k} {e : Envelope} (he : e ∈ t.mail j ∨ e ∈ out ∨ e ∈ inside ∧ j = d.node) :
    e ∈ (t.progress before d after n s).mail j := by
  show e ∈ (t.put d.node n).mail j
  rw [Traffic.mail_put h.grounded.wired hgoes.adds, hgoes.adds.outbox]
  simp only [List.mem_append]
  rcases he with he | hout | ⟨hinside, hj⟩
  · rcases List.mem_append.mp he with hqueue | hloop
    · exact Or.inl (Or.inl hqueue)
    · exact Or.inr (Or.inl hloop)
  · exact Or.inl (Or.inr (Or.inr hout))
  · exact Or.inr (Or.inr (by rw [if_pos hj]; exact hinside))

/-- The client's waitlist is that of the node that went on, if the client did, and is as it was
otherwise. -/
theorem waitlist_progress : ((t.progress before d after n s).nodes x.client).waitlist =
    if d.node = x.client then n.waitlist else (t.nodes x.client).waitlist := by
  show (Function.update t.nodes d.node _ x.client).waitlist = _
  by_cases hnode : d.node = x.client
  · rw [hnode, Function.update_self, if_pos rfl]
  · rw [Function.update_of_ne (Ne.symm hnode), if_neg hnode]

/-- The client's waitlist changes by the answer alone. -/
theorem stands_progress (h : x.Holds base t) (hgoes : x.Goes (t.nodes d.node) d out inside n s) :
    x.Stands base ((t.progress before d after n s).nodes x.client).waitlist := by
  rw [waitlist_progress]
  split
  · next hnode =>
    have hstands := h.stands
    rw [← hnode] at hstands
    rcases hgoes.waitlist hnode with hsame | ⟨hanswer, hreceive⟩
    · rw [hsame]
      exact hstands
    · obtain ⟨hpending, hanswered⟩ := hstands.receive_answer h.free hanswer
      rw [hreceive]
      exact .answered hpending hanswered
  · exact h.stands

/-- A client that has its answer keeps it, and one that takes it has it. -/
theorem answered_progress (h : x.Holds base t) (hgoes : x.Goes (t.nodes d.node) d out inside n s)
    (hanswered : x.Answered (t.nodes x.client).waitlist ∨
      d.node = x.client ∧ x.Answers d.message ∧
        n.waitlist = (t.nodes d.node).waitlist.receive d.message) :
    x.Answered ((t.progress before d after n s).nodes x.client).waitlist := by
  have hstands := h.stands
  rw [waitlist_progress]
  rcases hanswered with hanswered | ⟨hnode, hanswer, hreceive⟩
  · split
    · next hnode =>
      rw [← hnode] at hstands hanswered
      rcases hgoes.waitlist hnode with hsame | ⟨hanswer, hreceive⟩
      · rw [hsame]
        exact hanswered
      · rw [hreceive]
        exact (hstands.receive_answer h.free hanswer).2
    · exact hanswered
  · rw [if_pos hnode, hreceive]
    rw [← hnode] at hstands
    exact (hstands.receive_answer h.free hanswer).2

/-- An errand is still there, or it is the one that went on. -/
theorem mem_errands_progress {d' : Errand k} (herrands : t.errands = before ++ d :: after)
    (hd' : d' ∈ t.errands) : d' ∈ (t.progress before d after n s).errands ∨ d' = d := by
  rw [herrands] at hd'
  show d' ∈ before ++ _ ∨ _
  simp only [List.mem_append, List.mem_cons] at hd' ⊢
  rcases hd' with hd' | hd' | hd'
  · exact Or.inl (Or.inl hd')
  · exact Or.inr hd'
  · exact Or.inl (Or.inr (Or.inr hd'))

/-- To go on with an errand of the exchange leaves something that brings the client nearer to its
answer. -/
theorem lively_progress (h : x.Holds base t) (herrands : t.errands = before ++ d :: after)
    (hgoes : x.Goes (t.nodes d.node) d out inside n s) :
    x.Lively (t.progress before d after n s) := by
  -- What is lively may be the errand that goes on; then it is what the errand leads to that is
  -- lively now.
  cases h.lively with
  | answered hanswered => exact .answered (answered_progress h hgoes (Or.inl hanswered))
  | asked hmail => exact .asked (mem_mail_progress h hgoes (Or.inl hmail))
  | told hmail hanswer => exact .told (mem_mail_progress h hgoes (Or.inl hmail)) hanswer
  | @served d' hd' hnode hmessage =>
    rcases mem_errands_progress herrands hd' with hd' | rfl
    · exact .served hd' hnode hmessage
    · rcases hgoes.served hnode hmessage with hsome | ⟨e, hanswer, hposted⟩
      · obtain ⟨s', rfl⟩ := Option.isSome_iff_exists.mp hsome
        exact .served (d := { d' with stage := s' }) (by simp [Traffic.progress]) hnode hmessage
      · -- What the server posts comes to the client, over the bus or because both are one node.
        refine .told (mem_mail_progress h hgoes ?_) hanswer
        rcases hposted with hout | ⟨hinside, hone⟩
        · exact Or.inr (Or.inl hout)
        · exact Or.inr (Or.inr ⟨hinside, by rw [hnode, hone]⟩)
  | @taken d' hd' hnode hanswer hearly =>
    rcases mem_errands_progress herrands hd' with hd' | rfl
    · exact .taken hd' hnode hanswer hearly
    · rcases hgoes.told hnode hanswer hearly with ⟨s', rfl, hearly'⟩ | hreceive
      · exact .taken (d := { d' with stage := s' }) (by simp [Traffic.progress]) hnode hanswer
          hearly'
      · exact .answered (answered_progress h hgoes (Or.inr ⟨hnode, hanswer, hreceive⟩))

/-- To go on with an errand of the exchange keeps what holds. -/
theorem Holds.progress (h : x.Holds base t) (herrands : t.errands = before ++ d :: after)
    (hgoes : x.Goes (t.nodes d.node) d out inside n s) :
    x.Holds base (t.progress before d after n s) where
  grounded :=
    have hsame := Traffic.same_put x.heard hgoes.adds
    h.grounded.of_same ⟨hsame.connection, hsame.fed, hsame.alike⟩
  posted := (Function.forall_update_iff t.nodes fun _ m => ∀ e ∈ m.outbox, x.concerns e = false).mpr
    ⟨by simp, fun j _ => h.posted j⟩
  mail := by
    intro j e he hconcerns
    rcases mail_progress h hgoes he hconcerns with he | hanswer
    · exact h.mail j e he hconcerns
    · exact Or.inr hanswer
  errands := by
    intro d' hd' hconcerns
    have hmem : d' ∈ before ++ ((s.map fun s => { d with stage := s }).toList ++ after) := hd'
    have hold : d' ∈ before ∨ d' ∈ after → x.Asks d' ∨ x.Tells d' := fun hd' => by
      refine h.errands d' ?_ hconcerns
      rw [herrands]
      rcases hd' with hd' | hd' <;> simp [hd']
    simp only [List.mem_append, Option.mem_toList, Option.map_eq_some_iff] at hmem
    rcases hmem with hd' | ⟨s', hs', rfl⟩ | hd'
    · exact hold (Or.inl hd')
    · exact hgoes.next s' hs'
    · exact hold (Or.inr hd')
  free := h.free
  stands := stands_progress h hgoes
  lively := lively_progress h herrands hgoes

/-- To go on with an errand of the exchange makes less to do. -/
theorem load_progress (h : x.Holds base t) (herrands : t.errands = before ++ d :: after)
    (hgoes : x.Goes (t.nodes d.node) d out inside n s) :
    x.load (t.progress before d after n s) < x.load t := by
  have hlighter := hgoes.lighter
  have hmail : ∑ j, (((t.progress before d after n s).mail j).map x.weight).sum = _ :=
    sum_mail_put h.grounded.wired hgoes.adds (h.posted d.node)
  have hold : (t.errands.map x.effort).sum =
      (before.map x.effort).sum + x.effort d + (after.map x.effort).sum := by
    rw [herrands, List.map_append, List.sum_append, List.map_cons, List.sum_cons]
    omega
  have hnew : ((t.progress before d after n s).errands.map x.effort).sum =
      (before.map x.effort).sum + (s.map fun s => x.effort { d with stage := s }).getD 0 +
        (after.map x.effort).sum := by
    show ((before ++ (_ ++ after)).map x.effort).sum = _
    cases s with
    | none => simp
    | some s =>
      simp only [Option.map_some, Option.toList_some, List.map_append, List.sum_append,
        List.map_cons, List.map_nil, List.sum_cons, List.sum_nil, Option.getD_some]
      omega
  -- The errand weighs more than what it posts and what is left of it.
  unfold load
  omega

end

/-! ### Steps -/

/-- A step of the exchange: a message that concerns the deal is taken up, or a node goes on with one
that it has taken up. -/
inductive Step (x : Deal k) (t : Traffic k) : Traffic k → Prop where
  | listen {i : Fin k} {e : Envelope} : e ∈ (t.bus.inbox (t.connection i)).queue →
      x.concerns e = true → Step x t (t.listen i)
  | pump {i : Fin k} {e : Envelope} : e ∈ (t.nodes i).loopback → x.concerns e = true →
      Step x t (t.pump i)
  | advance {before after : List (Errand k)} {d : Errand k} (now : Instant) :
      t.errands = before ++ d :: after → x.concerns d.message = true →
      Step x t (t.advance before d after now)

/-- Every errand of the exchange goes on as it should, whenever its node turns to it. -/
theorem goesOn_of_mem (hx : x.Proper) (h : x.Holds base t) {d : Errand k} (hd : d ∈ t.errands)
    (hconcerns : x.concerns d.message = true) (now : Instant) : x.GoesOn t d now := by
  rcases h.errands d hd hconcerns with hasks | htells
  · exact goes_asks hx h.grounded hasks
  · exact goes_tells hx h.grounded htells

/-- A step keeps what holds and makes less to do. -/
theorem holds_step (hx : x.Proper) (h : x.Holds base t) (hs : x.Step t t') :
    x.Holds base t' ∧ x.load t' < x.load t := by
  cases hs with
  | @listen i e he hconcerns =>
    have htakes := Traffic.takesUp_listen (i := i) h.grounded.wired
    exact ⟨h.takesUp htakes, load_takesUp htakes he hconcerns⟩
  | pump he hconcerns =>
    exact ⟨h.takesUp Traffic.takesUp_pump, load_takesUp Traffic.takesUp_pump he hconcerns⟩
  | advance now herrands hconcerns =>
    obtain ⟨out, inside, hgoes⟩ := goesOn_of_mem hx h (by rw [herrands]; simp) hconcerns now
    exact ⟨h.progress herrands hgoes, load_progress h herrands hgoes⟩

/-- Until the client has its answer, the exchange can go on. -/
theorem exists_step (hx : x.Proper) (h : x.Holds base t)
    (hnone : ¬ x.Answered (t.nodes x.client).waitlist) : ∃ t', x.Step t t' := by
  -- What is lively is a message, which can be taken up, or an errand, which can go on.
  have hmail : ∀ {i e}, e ∈ t.mail i → x.concerns e = true → ∃ t', x.Step t t' := by
    intro i e he hconcerns
    rcases List.mem_append.mp he with hqueue | hloop
    · exact ⟨_, .listen hqueue hconcerns⟩
    · exact ⟨_, .pump hloop hconcerns⟩
  have herrand : ∀ {d}, d ∈ t.errands → x.concerns d.message = true → ∃ t', x.Step t t' := by
    intro d hd hconcerns
    obtain ⟨before, after, hsplit⟩ := List.append_of_mem hd
    exact ⟨_, .advance 0 hsplit hconcerns⟩
  cases h.lively with
  | answered hanswered => exact absurd hanswered hnone
  | asked he => exact hmail he (concerns_request hx)
  | served hd _ hmessage => exact herrand hd (hmessage ▸ concerns_request hx)
  | told he hanswer => exact hmail he hanswer.concerns
  | taken hd _ hanswer _ => exact herrand hd hanswer.concerns

/-! ### Whatever else happens -/

/-- Something happens that is not about the deal. The client may take answers to other requests. -/
structure Aloof (x : Deal k) (others : List Envelope) (t t' : Traffic k) : Prop where
  same : t.Same x.heard t'
  posted : ∀ i, ∀ e ∈ (t'.nodes i).outbox, x.concerns e = false
  mail : ∀ i, ((t'.mail i).filter x.concerns).Perm ((t.mail i).filter x.concerns)
  errands : (t'.errands.filter (x.concerns ·.message)).Perm
    (t.errands.filter (x.concerns ·.message))
  aside : ∀ e ∈ others, x.concerns e = false
  waitlist : (t'.nodes x.client).waitlist =
    others.foldl Waitlist.receive (t.nodes x.client).waitlist

/-- Of messages that do not concern the deal, none does. -/
theorem filter_concerns_eq_nil {es : List Envelope} (h : ∀ e ∈ es, x.concerns e = false) :
    es.filter x.concerns = [] :=
  List.filter_eq_nil_iff.mpr fun e he => by simp [h e he]

/-- A node takes up messages that are not about the deal. -/
theorem aloof_takesUp (ht : t.TakesUp i es t') (hes : ∀ e ∈ es, x.concerns e = false)
    (hposted : ∀ j, ∀ e ∈ (t.nodes j).outbox, x.concerns e = false) : x.Aloof [] t t' where
  same := ht.same _
  posted := by
    intro j
    rw [ht.outbox]
    exact hposted j
  mail := by
    intro j
    have hnothing : (if j = i then es else []).filter x.concerns = [] := by
      split
      · exact filter_concerns_eq_nil hes
      · rfl
    have hperm := (ht.mail j).filter x.concerns
    rw [List.filter_append, hnothing, List.append_nil] at hperm
    exact hperm.symm
  errands := by
    have hnothing : (es.map fun e => (⟨i, e, .arrived⟩ : Errand k)).filter
        (x.concerns ·.message) = [] := by
      refine List.filter_eq_nil_iff.mpr fun d hd => ?_
      obtain ⟨e, he, rfl⟩ := List.mem_map.mp hd
      simp [hes e he]
    rw [ht.errands, List.filter_append, hnothing, List.append_nil]
  aside := by simp
  waitlist := ht.waitlist _

/-- A node may listen at any time. -/
theorem step_or_aloof_listen (h : x.Holds base t) (i : Fin k) :
    x.Step t (t.listen i) ∨ x.Aloof [] t (t.listen i) := by
  by_cases hsome : ∃ e ∈ (t.bus.inbox (t.connection i)).queue, x.concerns e = true
  · obtain ⟨e, he, hconcerns⟩ := hsome
    exact Or.inl (.listen he hconcerns)
  · exact Or.inr (aloof_takesUp (Traffic.takesUp_listen h.grounded.wired)
      (fun e he => by simpa using fun hconcerns => hsome ⟨e, he, hconcerns⟩) h.posted)

/-- A node may take up what stays inside it at any time. -/
theorem step_or_aloof_pump (h : x.Holds base t) (i : Fin k) :
    x.Step t (t.pump i) ∨ x.Aloof [] t (t.pump i) := by
  by_cases hsome : ∃ e ∈ (t.nodes i).loopback, x.concerns e = true
  · obtain ⟨e, he, hconcerns⟩ := hsome
    exact Or.inl (.pump he hconcerns)
  · exact Or.inr (aloof_takesUp Traffic.takesUp_pump
      (fun e he => by simpa using fun hconcerns => hsome ⟨e, he, hconcerns⟩) h.posted)

/-- A node does something and posts messages that are not about the deal. If it is the client, it
may take answers to other requests. -/
theorem aloof_put (hwired : t.Wired) {n : Node} {out inside others : List Envelope}
    (hadds : (t.nodes i).Adds out inside n)
    (hposted : ∀ j, ∀ e ∈ (t.nodes j).outbox, x.concerns e = false)
    (hnew : ∀ e ∈ out ++ inside, x.concerns e = false)
    (hothers : ∀ e ∈ others, x.concerns e = false)
    (hlist : ((t.put i n).nodes x.client).waitlist =
      others.foldl Waitlist.receive (t.nodes x.client).waitlist) :
    x.Aloof others t (t.put i n) where
  same := Traffic.same_put _ hadds
  posted := (Function.forall_update_iff t.nodes fun _ m => ∀ e ∈ m.outbox,
      x.concerns e = false).mpr ⟨by simp, fun j _ => hposted j⟩
  mail := by
    intro j
    have hout : n.outbox.filter x.concerns = [] := by
      rw [hadds.outbox]
      refine filter_concerns_eq_nil fun e he => ?_
      rcases List.mem_append.mp he with he | he
      · exact hposted i e he
      · exact hnew e (List.mem_append_left _ he)
    -- Only the node itself gets what it keeps inside.
    have hinside : (if j = i then inside else []).filter x.concerns = [] := by
      split
      · exact filter_concerns_eq_nil fun e he => hnew e (List.mem_append_right _ he)
      · rfl
    rw [Traffic.mail_put hwired hadds, Traffic.mail]
    simp only [List.filter_append, hout, hinside, List.append_nil]
    exact List.Perm.refl _
  errands := List.Perm.refl _
  aside := hothers
  waitlist := hlist

/-- Any number of answers to other requests do to the list what they would do without this request.
-/
theorem stands_receiveAll (hfree : x.Free base) (h : x.Stands base w) {others : List Envelope}
    (hothers : ∀ e ∈ others, x.concerns e = false) :
    x.Free (others.foldl Waitlist.receive base) ∧
      x.Stands (others.foldl Waitlist.receive base) (others.foldl Waitlist.receive w) := by
  induction others generalizing base w with
  | nil => exact ⟨hfree, h⟩
  | cons e others ih =>
    exact ih (hfree.receive e) (h.receive_aside hfree (hothers e List.mem_cons_self))
      fun e' he' => hothers e' (List.mem_cons_of_mem e he')

/-- An outcome that was delivered is not touched by further answers. -/
theorem answered_receive (h : x.Answered w) (e : Envelope) : x.Answered (w.receive e) := by
  obtain ⟨a, ha, houtcome⟩ := h
  refine ⟨a, ha, ?_⟩
  cases hkey : e.inReplyTo with
  | none => rwa [Waitlist.receive_of_uncorrelated hkey]
  | some key =>
    cases hfind : w.find? (Text.correlationForm key) with
    | none => rwa [Waitlist.receive_of_none hkey hfind]
    | some r =>
      rw [Waitlist.receive_of_some hkey hfind, outcome?_append rfl rfl, houtcome]
      rfl

/-- A client that has its answer keeps it, whatever other answers it takes. -/
theorem answered_receiveAll (h : x.Answered w) (others : List Envelope) :
    x.Answered (others.foldl Waitlist.receive w) := by
  induction others generalizing w with
  | nil => exact h
  | cons e others ih => exact ih (answered_receive h e)

/-- What is aloof brings no message of the exchange, and takes none away. -/
theorem Aloof.mem_mail {others : List Envelope} (ha : x.Aloof others t t') {i : Fin k}
    {e : Envelope} (he : x.concerns e = true) : e ∈ t'.mail i ↔ e ∈ t.mail i := by
  simpa [he] using (ha.mail i).mem_iff (a := e)

/-- What is aloof begins no errand of the exchange, and ends none. -/
theorem Aloof.mem_errands {others : List Envelope} (ha : x.Aloof others t t') {d : Errand k}
    (hd : x.concerns d.message = true) : d ∈ t'.errands ↔ d ∈ t.errands := by
  simpa [hd] using ha.errands.mem_iff (a := d)

/-- Whatever happens aside keeps what holds. -/
theorem holds_aloof (hx : x.Proper) (h : x.Holds base t) {others : List Envelope}
    (ha : x.Aloof others t t') : x.Holds (others.foldl Waitlist.receive base) t' := by
  obtain ⟨hfree, hstands⟩ := stands_receiveAll h.free h.stands ha.aside
  refine ⟨h.grounded.of_same ha.same, ha.posted, ?_, ?_, hfree, ?_, ?_⟩
  · exact fun i e he hconcerns => h.mail i e ((ha.mem_mail hconcerns).mp he) hconcerns
  · exact fun d hd hconcerns => h.errands d ((ha.mem_errands hconcerns).mp hd) hconcerns
  · rw [ha.waitlist]
    exact hstands
  · -- Each way of being lively is about the client, or about a message or an errand of the
    -- exchange.
    have hrequest := concerns_request hx
    cases h.lively with
    | answered hanswered =>
      refine .answered ?_
      rw [ha.waitlist]
      exact answered_receiveAll hanswered others
    | asked he => exact .asked ((ha.mem_mail hrequest).mpr he)
    | served hd hnode hmessage =>
      exact .served ((ha.mem_errands (hmessage ▸ hrequest)).mpr hd) hnode hmessage
    | told he hanswer => exact .told ((ha.mem_mail hanswer.concerns).mpr he) hanswer
    | taken hd hnode hanswer hearly =>
      exact .taken ((ha.mem_errands hanswer.concerns).mpr hd) hnode hanswer hearly

/-- What is not about the deal weighs nothing. -/
theorem sum_filter {α : Type} {p : α → Bool} {f : α → Nat} (hf : ∀ a, p a = false → f a = 0)
    (l : List α) : (l.map f).sum = ((l.filter p).map f).sum := by
  -- By induction on the list: what is filtered out adds nothing.
  induction l with
  | nil => rfl
  | cons a l ih =>
    cases ha : p a with
    | true => rw [List.filter_cons_of_pos ha, List.map_cons, List.sum_cons, ih, List.map_cons,
        List.sum_cons]
    | false =>
      rw [List.filter_cons_of_neg (by simp [ha]), List.map_cons, List.sum_cons, hf a ha, ih,
        Nat.zero_add]

/-- Whatever happens aside leaves as much to do. -/
theorem load_aloof {others : List Envelope} (ha : x.Aloof others t t') : x.load t' = x.load t := by
  have hmail : ∀ i, ((t'.mail i).map x.weight).sum = ((t.mail i).map x.weight).sum := by
    intro i
    have hzero : ∀ e, x.concerns e = false → x.weight e = 0 := fun _ => weight_of_not_concerns
    rw [sum_filter hzero, ((ha.mail i).map x.weight).sum_eq, ← sum_filter hzero]
  have herrands : (t'.errands.map x.effort).sum = (t.errands.map x.effort).sum := by
    have hzero : ∀ d : Errand k, x.concerns d.message = false → x.effort d = 0 := by
      intro d hd
      simp [effort, hd]
    rw [sum_filter hzero, (ha.errands.map x.effort).sum_eq, ← sum_filter hzero]
  unfold load
  rw [herrands, Finset.sum_congr rfl fun i _ => hmail i]

/-! ### Runs -/

/-- A run from a state: so many steps of the exchange, these other answers that the client has
taken, and the state that is reached. -/
inductive Run (x : Deal k) (start : Traffic k) : Nat → List Envelope → Traffic k → Prop where
  | start : Run x start 0 [] start
  | step {steps : Nat} {others : List Envelope} {t t' : Traffic k} : Run x start steps others t →
      x.Step t t' → Run x start (steps + 1) others t'
  | aloof {steps : Nat} {others more : List Envelope} {t t' : Traffic k} :
      Run x start steps others t → x.Aloof more t t' → Run x start steps (others ++ more) t'

/-- What holds at the start holds all along, and every step leaves less to do. -/
theorem holds_run (hx : x.Proper) (h : x.Holds base t) {steps : Nat} {others : List Envelope}
    (hrun : x.Run t steps others t') :
    x.Holds (others.foldl Waitlist.receive base) t' ∧ steps + x.load t' ≤ x.load t := by
  -- By induction on the run: a step lowers the load by one at least, and what is aloof leaves it.
  induction hrun with
  | start => exact ⟨h, by omega⟩
  | step _ hs ih =>
    obtain ⟨hholds, hload⟩ := ih
    obtain ⟨hholds', hload'⟩ := holds_step hx hholds hs
    exact ⟨hholds', by omega⟩
  | aloof _ ha ih =>
    obtain ⟨hholds, hload⟩ := ih
    -- The list without the request takes the same answers, so `base` moves along.
    rw [List.foldl_append, load_aloof ha]
    exact ⟨holds_aloof hx hholds ha, hload⟩

/-- The client's pending requests are what they would be without this one once it has the answer. -/
theorem Holds.pending (h : x.Holds base t) (hanswered : x.Answered (t.nodes x.client).waitlist) :
    (t.nodes x.client).waitlist.pending = base.pending := by
  obtain ⟨a, -, houtcome⟩ := hanswered
  cases h.stands with
  | waits _ _ _ hnone =>
    rw [hnone] at houtcome
    exact absurd houtcome (by simp)
  | answered hpending _ => exact hpending

end Deal

end CommandMesh
