import CommandMesh.Bus
import Mathlib.Data.List.GetD

/-!
# `CommandMesh.Proofs.Bus`: what a connection gets

A bus keeps an inbox for every connection that was ever made and an endpoint for every service that
has a connection. A message goes to the inboxes of all endpoints. It does not go to a connection
that was replaced or removed, which has no endpoint any more, and not to one whose receiver was
dropped. A bus `Feeds` a connection for which neither is the case.

This is the part of the theory of a bus that the hosts of a mesh use: each host reads from its own
connection, and the facts below say that what is submitted in a round arrives there whole and in its
order, and that reading one inbox does not disturb the others. Being fed is kept by submitting and
by taking out. That it ends when a service is connected again or disconnected is not said here;
`CommandMesh.Proofs.Bus.Delivery` follows a connection through everything that can be done with a
bus.

The model assumes that a message that is submitted is in the inboxes at once, in the order of
submission, and that an inbox holds any number of messages. That nobody listens is found out only
when a message is to be delivered; this is why an endpoint is dropped when a message is submitted,
and why `Bus.feeds_submit` asks whether the endpoint stays.

The theorems:

* `Bus.inbox_submit`, `Bus.inbox_submitAll`, `Bus.feeds_submitAll`: a connection that is fed gets
  every message that is submitted, in its turn, and goes on to be fed.
* `Bus.inbox_drain_self`, `Bus.inbox_drain_of_ne`, `Bus.feeds_drain`: taking messages out empties
  one inbox and changes no other.
-/

set_option autoImplicit false

namespace CommandMesh

namespace Bus

variable {b : Bus} {c : Nat}

/-- Messages that are submitted come to the connection. -/
structure Feeds (b : Bus) (c : Nat) : Prop where
  isOpen : b.isOpen c = true
  listening : (b.inbox c).listening = true

/-- A connection without an inbox has nobody who listens. -/
theorem Feeds.lt (h : b.Feeds c) : c < b.inboxes.length := by
  refine Nat.lt_of_not_le fun hle => ?_
  have hdeaf : (b.inbox c).listening = false := by
    rw [inbox, List.getD_eq_default _ _ hle]
  rw [h.listening] at hdeaf
  exact Bool.noConfusion hdeaf

/-- The inbox of a connection that was made is the one under its number. -/
theorem inbox_eq_getElem (h : c < b.inboxes.length) : b.inbox c = b.inboxes[c] :=
  List.getD_eq_getElem _ _ h

/-! ### Submitting -/

/-- A connection that is fed gets the message. -/
theorem inbox_submit (h : b.Feeds c) (e : Envelope) :
    (b.submit e).inbox c = { b.inbox c with queue := (b.inbox c).queue ++ [e] } := by
  have hlistening := h.listening
  rw [inbox_eq_getElem h.lt] at hlistening ⊢
  rw [inbox_eq_getElem (by simpa [submit] using h.lt)]
  simp [submit, h.isOpen, hlistening]

/-- A connection that is fed goes on to be fed after a message was submitted. -/
theorem feeds_submit (h : b.Feeds c) (e : Envelope) : (b.submit e).Feeds c where
  isOpen := by
    obtain ⟨p, hp, hc⟩ := List.any_eq_true.mp h.isOpen
    have hcurrent : p.2 = c := by simpa using hc
    -- An endpoint is dropped only if nobody listens to it.
    refine List.any_eq_true.mpr ⟨p, List.mem_filter.mpr ⟨hp, ?_⟩, hc⟩
    rw [hcurrent]
    exact h.listening
  listening := by
    rw [inbox_submit h]
    exact h.listening

/-- A connection that is fed goes on to be fed, however many messages are submitted. -/
theorem feeds_submitAll (h : b.Feeds c) (es : List Envelope) : (es.foldl submit b).Feeds c := by
  induction es generalizing b with
  | nil => exact h
  | cons e es ih => exact ih (feeds_submit h e)

/-- A connection that is fed gets all messages in their order. -/
theorem inbox_submitAll (h : b.Feeds c) (es : List Envelope) :
    ((es.foldl submit b).inbox c).queue = (b.inbox c).queue ++ es := by
  induction es generalizing b with
  | nil => exact (List.append_nil _).symm
  | cons e es ih =>
    rw [List.foldl_cons, ih (feeds_submit h e), inbox_submit h]
    simp

/-! ### Taking out -/

/-- Nothing is left in an inbox that was emptied. -/
theorem inbox_drain_self (h : b.Feeds c) : ((b.drain c).2.inbox c).queue = [] := by
  have hlt := h.lt
  simp [drain, setInbox, inbox, List.getD_eq_getElem?_getD, hlt]

/-- Emptying one inbox leaves all others as they are. -/
theorem inbox_drain_of_ne {c' : Nat} (h : c' ≠ c) : (b.drain c).2.inbox c' = b.inbox c' := by
  simp [drain, setInbox, inbox, List.getD_eq_getElem?_getD, List.getElem?_set_ne h.symm]

/-- Emptying an inbox stops neither its own connection nor another one from being fed. -/
theorem feeds_drain {c' : Nat} (h : b.Feeds c') : (b.drain c).2.Feeds c' where
  isOpen := h.isOpen
  listening := by
    -- The inbox that is emptied is written anew, and its receiver has to be the old one.
    by_cases heq : c' = c
    · subst heq
      have hlt := h.lt
      have hlistening := h.listening
      rw [inbox_eq_getElem hlt] at hlistening
      simpa [drain, setInbox, inbox, List.getD_eq_getElem?_getD, hlt] using hlistening
    · rw [inbox_drain_of_ne heq]
      exact h.listening

end Bus

end CommandMesh
