import CommandMesh.Proofs.Node.Departure
import Mathlib.Data.List.Perm.Basic
import Mathlib.Data.List.Nodup

/-!
# `CommandMesh.Proofs.Node.Callers`: a waitlist and the callers that wait

A caller that waits holds a ticket. `Serves w ps` says that the waitlist `w` and the callers with
the requests `ps` fit together: each ticket that a caller holds is that of a request on the list or
of one outcome, and no other tickets are about. A request that nobody waits for has no ticket and
needs no caller.

The main field is `held`, which compares tickets as multisets. Both directions of the claims about a
caller come from it: no caller is forgotten, since its ticket is somewhere, and no outcome is left
lying about, since every ticket that is somewhere has its caller. That the tickets are also
different (`apart`) and were all handed out before (`used`) is what lets a new caller join with the
next one.

What can happen to a waitlist is settled here for good: requests are settled, a ticket is handed out
for nothing, a request is listed with or without a caller, and a caller takes its outcome and
leaves. The modules about the node and the mesh show that their steps are made of these.

* `Serves.settles`, `Serves.skip`, `Serves.list`, `Serves.enlist`, `Serves.collect`: what happens to
  a waitlist and its callers keeps them so.
* `Serves.outcome?_eq_some_iff`: what a caller finds under its ticket is what was delivered there.
* `Serves.listed_of_unsettled`, `Serves.not_listed_of_settled`: a caller's request is on the list or
  has an outcome, and never both.

The callers are held apart from the node, in whatever order they began to wait; nothing is said
about when one of them looks.
-/

set_option autoImplicit false

open scoped List

namespace CommandMesh

namespace Waitlist

/-- The tickets of the requests on the list. -/
def openTickets (w : Waitlist) : List Nat := w.pending.filterMap (·.ticket)

/-- The tickets with an outcome. -/
def settledTickets (w : Waitlist) : List Nat := w.outcomes.map (·.1)

/-- The waitlist serves the callers that wait for these requests. -/
structure Serves (w : Waitlist) (ps : List Pending) : Prop where
  tidy : w.Tidy
  /-- Each caller has a request on the list or an outcome, and nobody else has. -/
  held : (w.openTickets ++ w.settledTickets).Perm (ps.map (·.ticket))
  apart : (ps.map (·.ticket)).Nodup
  /-- Tickets that are in use are not handed out again. -/
  used : ∀ p ∈ ps, p.ticket < w.nextTicket
  /-- Callers know the ids of their requests in normal form. -/
  normal : ∀ p ∈ ps, Text.correlationForm p.id = p.id
  /-- A request is listed under the id that its caller knows. -/
  known : ∀ r ∈ w.pending, ∀ p ∈ ps, r.ticket = some p.ticket → r.id = p.id

/-- A ticket is open if a request on the list has it. -/
theorem mem_openTickets {w : Waitlist} {t : Nat} :
    t ∈ w.openTickets ↔ ∃ r ∈ w.pending, r.ticket = some t :=
  List.mem_filterMap

/-- With no requests and no callers there is nothing that could fail to fit. -/
theorem serves_empty : Serves {} [] where
  tidy := ⟨List.nodup_nil, by simp⟩
  held := List.Perm.refl _
  apart := List.nodup_nil
  used := by simp
  normal := by simp
  known := by simp

/-- What is settled keeps its ticket, for the outcome that is delivered under it. -/
theorem Settles.tickets_perm {w w' : Waitlist} {p : Waiting → Option Outcome} {n : Nat}
    (h : Settles w p w' n) :
    (w'.openTickets ++ w'.settledTickets).Perm (w.openTickets ++ w.settledTickets) := by
  have hmail : (w.pending.filterMap fun r => r.mail (p r)).map (·.1) =
      w.pending.filterMap fun r => if (p r).isSome then r.ticket else none := by
    rw [List.map_filterMap]
    refine List.filterMap_congr fun r _ => ?_
    cases p r <;> cases ht : r.ticket <;> simp [Waiting.mail, ht]
  have hopen : w'.openTickets =
      w.pending.filterMap fun r => if (p r).isNone then r.ticket else none := by
    rw [openTickets, h.pending, List.filterMap_filter]
  -- A ticket is that of a request that stays or of one that is settled.
  have hsplit := filterMap_append_perm
    (f := fun r : Waiting => if (p r).isNone then r.ticket else none)
    (g := fun r => if (p r).isSome then r.ticket else none) w.pending fun r _ => by
      cases p r <;> simp
  have hboth : (w.pending.filterMap fun r => (if (p r).isNone then r.ticket else none).or
      (if (p r).isSome then r.ticket else none)) = w.openTickets := by
    refine List.filterMap_congr fun r _ => ?_
    cases p r <;> simp
  have hsettled : w'.settledTickets.Perm (w.settledTickets ++
      w.pending.filterMap fun r => if (p r).isSome then r.ticket else none) := by
    rw [← hmail, settledTickets, settledTickets, ← List.map_append]
    exact h.outcomes.map _
  rw [hboth, ← hopen] at hsplit
  -- What was settled is moved from the front of the one list to the front of the other.
  calc w'.openTickets ++ w'.settledTickets
      ~ w'.openTickets ++ (w.settledTickets ++ _) := hsettled.append_left _
    _ ~ (w'.openTickets ++ _) ++ w.settledTickets := by
      rw [List.append_assoc]
      exact List.perm_append_comm.append_left _
    _ ~ w.openTickets ++ w.settledTickets := hsplit.append_right _

namespace Serves

variable {w w' : Waitlist} {ps : List Pending}

/-! ### What a caller finds -/

/-- Every ticket on the list or with an outcome is that of a caller. -/
theorem exists_caller (h : Serves w ps) {t : Nat}
    (ht : t ∈ w.openTickets ∨ t ∈ w.settledTickets) : ∃ p ∈ ps, p.ticket = t :=
  List.mem_map.mp (h.held.mem_iff.mp (List.mem_append.mpr ht))

/-- So every such ticket was handed out. -/
theorem ticket_lt (h : Serves w ps) {t : Nat}
    (ht : t ∈ w.openTickets ∨ t ∈ w.settledTickets) : t < w.nextTicket := by
  obtain ⟨p, hp, rfl⟩ := h.exists_caller ht
  exact h.used p hp

/-- No ticket is in use twice, neither on the list, nor among the outcomes, nor in both. -/
theorem tickets_nodup (h : Serves w ps) : (w.openTickets ++ w.settledTickets).Nodup :=
  h.held.nodup_iff.mpr h.apart

/-- An outcome is found under a ticket if it was delivered there. -/
theorem outcome?_eq_some_iff (h : Serves w ps) {t : Nat} {o : Outcome} :
    w.outcome? t = some o ↔ (t, o) ∈ w.outcomes := by
  constructor
  · intro hlookup
    obtain ⟨before, after, hsplit, -⟩ := List.lookup_eq_some_iff.mp hlookup
    rw [hsplit]
    exact List.mem_append_right _ List.mem_cons_self
  · intro hmem
    obtain ⟨before, after, hsplit⟩ := List.append_of_mem hmem
    refine List.lookup_eq_some_iff.mpr ⟨before, after, hsplit, fun x hx => ?_⟩
    -- Nothing else was delivered under this ticket.
    have hnodup := (List.nodup_append.mp h.tickets_nodup).2.1
    rw [settledTickets, hsplit, List.map_append, List.nodup_append] at hnodup
    have hne : x.1 ≠ t := hnodup.2.2 x.1 (List.mem_map_of_mem hx) t (by simp)
    simpa using hne.symm

/-- A ticket is settled if its caller finds an outcome there. -/
theorem mem_settledTickets (h : Serves w ps) {t : Nat} :
    t ∈ w.settledTickets ↔ ∃ o, w.outcome? t = some o := by
  simp only [h.outcome?_eq_some_iff, settledTickets, List.mem_map, Prod.exists,
    exists_and_right, exists_eq_right]

/-- The request of a caller that has no outcome is on the list. -/
theorem listed_of_unsettled (h : Serves w ps) {p : Pending} (hp : p ∈ ps)
    (hnone : w.outcome? p.ticket = none) :
    ∃ r ∈ w.pending, r.ticket = some p.ticket ∧ r.id = p.id := by
  -- The ticket of the caller is open or settled, and it is not settled.
  have hmem := h.held.mem_iff.mpr (List.mem_map_of_mem hp)
  rcases List.mem_append.mp hmem with hopen | hsettled
  · obtain ⟨r, hr, hticket⟩ := mem_openTickets.mp hopen
    exact ⟨r, hr, hticket, h.known r hr p hp hticket⟩
  · obtain ⟨o, ho⟩ := h.mem_settledTickets.mp hsettled
    rw [hnone] at ho
    exact absurd ho (by simp)

/-- A request that has an outcome is not on the list. -/
theorem not_listed_of_settled (h : Serves w ps) {t : Nat} {o : Outcome}
    (ho : w.outcome? t = some o) {r : Waiting} (hr : r ∈ w.pending) : r.ticket ≠ some t := by
  intro hticket
  have hopen := mem_openTickets.mpr ⟨r, hr, hticket⟩
  have hsettled := h.mem_settledTickets.mpr ⟨o, ho⟩
  exact (List.nodup_append.mp h.tickets_nodup).2.2 t hopen t hsettled rfl

/-- Callers have different tickets. -/
theorem ticket_ne (h : Serves w ps) {k : Nat} {p q : Pending} (hp : ps[k]? = some p)
    (hq : q ∈ ps.eraseIdx k) : q.ticket ≠ p.ticket := by
  obtain ⟨hk, rfl⟩ := List.getElem?_eq_some_iff.mp hp
  -- The other callers and this one together are all of them, in another order.
  have hnodup := ((List.getElem_cons_eraseIdx_perm hk).map (·.ticket)).nodup_iff.mpr h.apart
  intro heq
  exact (List.nodup_cons.mp hnodup).1 (List.mem_map.mpr ⟨q, hq, heq⟩)

/-! ### What keeps the service -/

/-- Settling requests moves their tickets to the outcomes. -/
theorem settles {p : Waiting → Option Outcome} {n : Nat} (h : Serves w ps)
    (hs : Settles w p w' n) : Serves w' ps where
  tidy := h.tidy.of_settles hs
  held := hs.tickets_perm.trans h.held
  apart := h.apart
  used := by
    rw [hs.nextTicket]
    exact h.used
  normal := h.normal
  known := by
    intro r hr
    rw [hs.pending] at hr
    exact h.known r (List.mem_of_mem_filter hr)

/-- A ticket that was handed out for nothing does no harm. -/
theorem skip (h : Serves w ps) {next : Nat} (hnext : w.nextTicket ≤ next) :
    Serves { w with nextTicket := next } ps where
  tidy := ⟨h.tidy.keyed, h.tidy.normal⟩
  held := h.held
  apart := h.apart
  used := fun p hp => Nat.lt_of_lt_of_le (h.used p hp) hnext
  normal := h.normal
  known := h.known

/-- A request that is listed adds its own ticket to the open ones, if it has one. -/
theorem openTickets_append (w : Waitlist) (r : Waiting) (next : Nat) :
    openTickets { w with pending := w.pending ++ [r], nextTicket := next } =
      w.openTickets ++ r.ticket.toList := by
  -- The number of the next ticket is no part of what is open.
  show (w.pending ++ [r]).filterMap (·.ticket) = _
  rw [List.filterMap_append]
  cases hr : r.ticket <;> simp [openTickets, hr]

/-- A request that nobody waits for is listed. -/
theorem list (h : Serves w ps) {r : Waiting} (hnew : r.id ∉ w.pending.map (·.id))
    (hnormal : Text.correlationForm r.id = r.id) (hticket : r.ticket = none) :
    Serves { w with pending := w.pending ++ [r] } ps where
  tidy := h.tidy.append hnew hnormal _
  held := by
    -- Without a ticket the request is nobody's, so the tickets in use are as before.
    rw [openTickets_append, hticket, Option.toList_none, List.append_nil]
    exact h.held
  apart := h.apart
  used := h.used
  normal := h.normal
  known := by
    intro r' hr'
    rcases List.mem_append.mp hr' with hr' | hr'
    · exact h.known r' hr'
    · rw [List.mem_singleton.mp hr', hticket]
      simp

/-- A request is listed under the next ticket, for a caller that begins to wait. -/
theorem enlist (h : Serves w ps) {r : Waiting} (hnew : r.id ∉ w.pending.map (·.id))
    (hnormal : Text.correlationForm r.id = r.id) (hticket : r.ticket = some w.nextTicket) :
    Serves { w with pending := w.pending ++ [r], nextTicket := w.nextTicket + 1 }
      (ps ++ [⟨r.id, w.nextTicket, r.ttl⟩]) where
  tidy := h.tidy.append hnew hnormal _
  held := by
    rw [openTickets_append, hticket, List.map_append]
    calc (w.openTickets ++ [w.nextTicket]) ++ w.settledTickets
        ~ (w.openTickets ++ w.settledTickets) ++ [w.nextTicket] := by
          rw [List.append_assoc, List.append_assoc]
          exact List.perm_append_comm.append_left _
      _ ~ ps.map (·.ticket) ++ [w.nextTicket] := h.held.append_right _
  apart := by
    rw [List.map_append, List.map_singleton]
    -- The next ticket is beyond all that are in use.
    refine List.nodup_append.mpr ⟨h.apart, List.nodup_singleton _, ?_⟩
    intro t ht t' ht'
    obtain ⟨p, hp, rfl⟩ := List.mem_map.mp ht
    rw [List.mem_singleton.mp ht']
    exact Nat.ne_of_lt (h.used p hp)
  used := by
    intro p hp
    rcases List.mem_append.mp hp with hp | hp
    · exact Nat.lt_succ_of_lt (h.used p hp)
    · rw [List.mem_singleton.mp hp]
      exact Nat.lt_succ_self _
  normal := by
    intro p hp
    rcases List.mem_append.mp hp with hp | hp
    · exact h.normal p hp
    · rw [List.mem_singleton.mp hp]
      exact hnormal
  known := by
    intro r' hr' p hp heq
    rcases List.mem_append.mp hr' with hr' | hr'
    · rcases List.mem_append.mp hp with hp | hp
      · exact h.known r' hr' p hp heq
      · -- No request has had this ticket before.
        rw [List.mem_singleton.mp hp] at heq
        exact absurd (h.ticket_lt (Or.inl (mem_openTickets.mpr ⟨r', hr', heq⟩)))
          (Nat.lt_irrefl _)
    · rw [List.mem_singleton.mp hr'] at heq ⊢
      rcases List.mem_append.mp hp with hp | hp
      · rw [hticket] at heq
        exact absurd (Option.some.inj heq).symm (Nat.ne_of_lt (h.used p hp))
      · rw [List.mem_singleton.mp hp]

/-- A caller takes the outcome under its ticket and leaves. -/
theorem collect (h : Serves w ps) {k : Nat} {p : Pending} (hp : ps[k]? = some p)
    (hsettled : p.ticket ∈ w.settledTickets) :
    Serves (w.discard p.ticket) (ps.eraseIdx k) where
  tidy := ⟨h.tidy.keyed, h.tidy.normal⟩
  held := by
    obtain ⟨hk, rfl⟩ := List.getElem?_eq_some_iff.mp hp
    have hnodup := (List.nodup_append.mp h.tickets_nodup).2.1
    have hdiscard : (w.discard ps[k].ticket).settledTickets =
        w.settledTickets.erase ps[k].ticket := by
      rw [hnodup.erase_eq_filter, settledTickets, settledTickets, List.filter_map]
      rfl
    -- One ticket goes from both sides.
    refine List.Perm.cons_inv (a := ps[k].ticket) ?_
    calc ps[k].ticket :: (w.openTickets ++ (w.discard ps[k].ticket).settledTickets)
        ~ w.openTickets ++ ps[k].ticket :: w.settledTickets.erase ps[k].ticket := by
          rw [hdiscard]
          exact List.perm_middle.symm
      _ ~ w.openTickets ++ w.settledTickets :=
          (List.perm_cons_erase hsettled).symm.append_left _
      _ ~ ps.map (·.ticket) := h.held
      _ ~ (ps[k] :: ps.eraseIdx k).map (·.ticket) :=
          ((List.getElem_cons_eraseIdx_perm hk).map _).symm
  apart := h.apart.sublist ((List.eraseIdx_sublist ps k).map _)
  used := fun p hp => h.used p (List.mem_of_mem_eraseIdx hp)
  normal := fun p hp => h.normal p (List.mem_of_mem_eraseIdx hp)
  known := fun r hr p hp => h.known r hr p (List.mem_of_mem_eraseIdx hp)

end Serves

end Waitlist

end CommandMesh
