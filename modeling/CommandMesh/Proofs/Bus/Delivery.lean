import CommandMesh.Proofs.Bus
import Mathlib.Data.List.Nodup
import Mathlib.Data.List.Perm.Lattice
import Mathlib.Logic.Function.Basic

/-!
# `CommandMesh.Proofs.Bus.Delivery`: what is heard on a bus

`Subscriptions` tell, for anything that is done with a bus, which connection is the current one of
each service and which messages were submitted while it was. They are the specification: they have
no endpoints and no inboxes, and nothing is ever pruned there. A `Watch` is a bus together with all
that was taken out of each connection by and by, one message at a time or all at once. The
main theorem compares the two after any list of operations.

Both start empty and perform the same operations: connecting a service, which replaces the
connection it had, disconnecting it, submitting a message, taking messages out and dropping a
receiver. An operation may name a connection that was never made or whose receiver is gone; there is
then nothing to be taken out or dropped, on both sides. A message is one step of the bus, so that
all connections hear messages in one order, and what the owner of a connection submits is heard by
that connection as well.

The invariant `Watch.Follows` has three parts. `Bus.Attended` says that inboxes and connections are
numbered alike and that somebody listens exactly to a live connection. `Bus.Wired` says that the
endpoints are the current connections, except that one whose receiver was dropped may have lost its
endpoint already: that is found out only when a message is to be delivered. The last part ties what
was heard to what was taken out and what still waits. For a connection that nobody listens to it is
only a beginning, since what waited in its inbox when the receiver was dropped is lost. Each
operation keeps the invariant, by one lemma for each part, and a run keeps it by induction.

The theorems:

* `Bus.inbox_submit_eq`, `Bus.inbox_connect`, `Bus.inbox_setInbox`: what becomes of an inbox.
* `Bus.Wired.isOpen_eq`: to a live connection more may come exactly if it is the current one.
* `Bus.size_submit`: what the size of a bus is once a message was submitted, and with it the
  endpoints without a listener were pruned.
* `Watch.Follows.perform`, `Watch.Follows.run`: whatever is done with the bus, inboxes and what was
  taken out of them go on to be as the subscriptions say.
* `Watch.inbox_perform`: what is done about other connections is not noticed.
* `Watch.delivers_exactly`: what was taken out of a connection and what is still in its inbox are
  together what it was to hear, and more may come exactly if it is the current connection of its
  service.
-/

set_option autoImplicit false

namespace CommandMesh

/-! ### What becomes of an inbox -/

namespace Bus

variable {b : Bus} {c c' : Nat}

/-- A connection that was not made has an empty inbox that nobody listens to. -/
theorem inbox_of_length_le (h : b.inboxes.length ≤ c) : b.inbox c = ⟨[], false⟩ :=
  List.getD_eq_default _ _ h

/-- Writing an inbox changes that one only, and none if the connection was not made. -/
theorem inbox_setInbox (b : Bus) (c c' : Nat) (inbox : Inbox) :
    (b.setInbox c inbox).inbox c' =
      if c = c' ∧ c < b.inboxes.length then inbox else b.inbox c' := by
  unfold setInbox Bus.inbox
  rw [List.getD_eq_getElem?_getD, List.getElem?_set, List.getD_eq_getElem?_getD]
  by_cases heq : c = c'
  · subst heq
    by_cases hlt : c < b.inboxes.length
    · simp [hlt]
    · simp [hlt]
  · simp [heq]

/-- A new connection starts with an empty inbox that is listened to; the others keep theirs. -/
theorem inbox_connect (b : Bus) (service : String) (c : Nat) :
    (b.connect service).1.inbox c = if c = b.inboxes.length then {} else b.inbox c := by
  unfold connect Bus.inbox
  rw [List.getD_eq_getElem?_getD, List.getD_eq_getElem?_getD]
  rcases Nat.lt_trichotomy c b.inboxes.length with hlt | heq | hgt
  · -- A connection that was made before.
    rw [List.getElem?_append_left hlt, if_neg (Nat.ne_of_lt hlt)]
  · simp [heq]
  · rw [if_neg (Nat.ne_of_gt hgt), List.getElem?_eq_none (by simpa using Nat.succ_le_of_lt hgt),
      List.getElem?_eq_none (Nat.le_of_lt hgt)]

/-- An inbox gets the message if the connection is current and somebody listens. -/
theorem inbox_submit_eq (b : Bus) (e : Envelope) (c : Nat) :
    (b.submit e).inbox c = if b.isOpen c ∧ (b.inbox c).listening then
      { b.inbox c with queue := (b.inbox c).queue ++ [e] } else b.inbox c := by
  by_cases hfeeds : b.isOpen c ∧ (b.inbox c).listening
  · rw [if_pos hfeeds, inbox_submit ⟨hfeeds.1, hfeeds.2⟩]
  · -- The message goes past this inbox, if there is one.
    rw [if_neg hfeeds]
    by_cases hlt : c < b.inboxes.length
    · rw [inbox_eq_getElem (by simpa [submit] using hlt)]
      rw [inbox_eq_getElem hlt] at hfeeds ⊢
      simpa [submit] using fun hopen hlistening => absurd ⟨hopen, hlistening⟩ hfeeds
    · rw [inbox_of_length_le (Nat.le_of_not_lt hlt),
        inbox_of_length_le (by simpa [submit] using hlt)]

end Bus

/-! ### What is to be heard -/

/-- Something that is done with a bus. -/
inductive BusOp where
  | connect (service : String)
  | disconnect (service : String)
  /-- Submits a message through the dispatcher of a connection. -/
  | submit (connection : Nat) (e : Envelope)
  /-- Takes the first message of a connection. -/
  | receive (connection : Nat)
  /-- Takes all messages of a connection. -/
  | drain (connection : Nat)
  /-- Drops the receiver of a connection. -/
  | deafen (connection : Nat)

/-- The connections of a bus and what they are to hear. -/
structure Subscriptions where
  /-- The service of each connection, by number. -/
  services : List String := []
  /-- The connection that was made last for a service, unless the service was disconnected. -/
  current : String → Option Nat := fun _ => none
  /-- The connections whose receiver was dropped. -/
  deaf : List Nat := []
  /-- The messages submitted while the connection was the current one of its service. -/
  heard : Nat → List Envelope := fun _ => []

namespace Subscriptions

/-- Whether a connection is the current one of its service. -/
def isCurrent (a : Subscriptions) (c : Nat) : Bool :=
  a.services[c]?.any fun service => a.current service == some c

/-- Whether a connection was made and its receiver is still there. -/
def isLive (a : Subscriptions) (c : Nat) : Bool := c < a.services.length && c ∉ a.deaf

/-- Takes note of something that is done with the bus. It does not matter whose dispatcher a message
is submitted through. -/
def perform (a : Subscriptions) : BusOp → Subscriptions
  | .connect service =>
    { a with
      services := a.services ++ [service]
      current := Function.update a.current service (some a.services.length) }
  | .disconnect service => { a with current := Function.update a.current service none }
  | .submit _ e =>
    { a with heard := fun c => if a.isCurrent c then a.heard c ++ [e] else a.heard c }
  | .receive _ | .drain _ => a
  | .deafen c => if c < a.services.length then { a with deaf := c :: a.deaf } else a

/-- Takes note of all that is done with the bus. -/
def run (a : Subscriptions) (ops : List BusOp) : Subscriptions := ops.foldl perform a

/-- Whether something that is done with the bus is about a connection: about all of them, about its
service or about its receiver. -/
def concerns (a : Subscriptions) (c : Nat) : BusOp → Bool
  | .connect service | .disconnect service => a.services[c]? == some service
  | .submit _ _ => true
  | .receive c' | .drain c' | .deafen c' => c' == c

variable {a : Subscriptions} {c : Nat}

/-- A connection is current if it is the one its own service has now. -/
theorem isCurrent_iff :
    a.isCurrent c ↔ ∃ service, a.services[c]? = some service ∧ a.current service = some c := by
  unfold isCurrent
  cases a.services[c]? <;> simp

/-- A connection is live if it was made and its receiver was not dropped. -/
theorem isLive_iff : a.isLive c ↔ c < a.services.length ∧ c ∉ a.deaf := by
  simp [isLive]

end Subscriptions

/-! ### What is heard -/

/-- A bus and all that was taken out of each connection. -/
structure Watch where
  bus : Bus := {}
  taken : Nat → List Envelope := fun _ => []

namespace Watch

/-- Does something with the bus, and keeps what is taken out. -/
def perform (w : Watch) : BusOp → Watch
  | .connect service => { w with bus := (w.bus.connect service).1 }
  | .disconnect service => { w with bus := (w.bus.disconnect service).getD w.bus }
  | .submit _ e => { w with bus := w.bus.submit e }
  | .receive c =>
    match w.bus.receive? c with
    | some (e, bus) => ⟨bus, Function.update w.taken c (w.taken c ++ [e])⟩
    | none => w
  | .drain c =>
    let (es, bus) := w.bus.drain c
    ⟨bus, Function.update w.taken c (w.taken c ++ es)⟩
  | .deafen c => { w with bus := w.bus.deafen c }

/-- Does things with the bus in turn. -/
def run (w : Watch) (ops : List BusOp) : Watch := ops.foldl perform w

end Watch

namespace Bus

variable {b : Bus} {a : Subscriptions} {c : Nat} {service : String}

/-- Every connection has an inbox, and somebody listens to it until its receiver is dropped. -/
structure Attended (b : Bus) (a : Subscriptions) : Prop where
  made : b.inboxes.length = a.services.length
  listening : ∀ c, (b.inbox c).listening = a.isLive c
  deaf : ∀ c ∈ a.deaf, c < a.services.length

/-- The endpoints are the current connections, apart from those that nobody listens to. -/
structure Wired (b : Bus) (a : Subscriptions) : Prop where
  /-- No service has two endpoints. -/
  keyed : (b.endpoints.map (·.1)).Nodup
  current : ∀ p ∈ b.endpoints, a.services[p.2]? = some p.1 ∧ a.current p.1 = some p.2
  endpoint : ∀ service c, a.current service = some c →
    a.services[c]? = some service ∧ (a.isLive c → (service, c) ∈ b.endpoints)

/-- More may come to a connection exactly if it is the endpoint of some service. -/
theorem isOpen_iff : b.isOpen c ↔ ∃ service, (service, c) ∈ b.endpoints := by
  unfold isOpen
  rw [List.any_eq_true]
  constructor
  · rintro ⟨⟨service, c'⟩, hmem, hc⟩
    obtain rfl : c' = c := by simpa using hc
    exact ⟨service, hmem⟩
  · rintro ⟨service, hmem⟩
    exact ⟨_, hmem, beq_self_eq_true c⟩

/-- A connection that has an endpoint is the current one of its service. -/
theorem Wired.isCurrent_of_isOpen (h : b.Wired a) (hopen : b.isOpen c) : a.isCurrent c := by
  obtain ⟨service, hmem⟩ := isOpen_iff.mp hopen
  exact Subscriptions.isCurrent_iff.mpr ⟨service, h.current _ hmem⟩

/-- To a connection that somebody listens to, more may come exactly if it is current. -/
theorem Wired.isOpen_eq (h : b.Wired a) (hlive : a.isLive c) : b.isOpen c = a.isCurrent c := by
  rw [Bool.eq_iff_iff]
  refine ⟨h.isCurrent_of_isOpen, fun hcurrent => ?_⟩
  -- The endpoint of a live connection is still in its place: only dead ones are pruned.
  obtain ⟨service, -, hservice⟩ := Subscriptions.isCurrent_iff.mp hcurrent
  exact isOpen_iff.mpr ⟨service, (h.endpoint service c hservice).2 hlive⟩

/-! ### Connecting -/

/-- Connecting makes the new connection live and changes nothing about the others. -/
theorem Attended.isLive_connect (h : b.Attended a) (service : String) (c : Nat) :
    (a.perform (.connect service)).isLive c = (c == a.services.length || a.isLive c) := by
  rw [Bool.eq_iff_iff, Subscriptions.isLive_iff, Bool.or_eq_true, Subscriptions.isLive_iff,
    beq_iff_eq]
  show c < (a.services ++ [service]).length ∧ c ∉ a.deaf ↔ _
  rw [List.length_append, List.length_singleton]
  constructor
  · rintro ⟨hlt, hdeaf⟩
    exact (Nat.lt_succ_iff_lt_or_eq.mp hlt).symm.imp_right fun hlt => ⟨hlt, hdeaf⟩
  · rintro (rfl | ⟨hlt, hdeaf⟩)
    · exact ⟨Nat.lt_succ_self _, fun hmem => Nat.lt_irrefl _ (h.deaf _ hmem)⟩
    · exact ⟨Nat.lt_succ_of_lt hlt, hdeaf⟩

/-- Connecting adds one inbox for the one connection that is added. -/
theorem Attended.connect (h : b.Attended a) (service : String) :
    (b.connect service).1.Attended (a.perform (.connect service)) where
  made := by
    show (b.inboxes ++ [_]).length = (a.services ++ [_]).length
    rw [List.length_append, List.length_append, h.made]
    rfl
  listening := by
    intro c
    rw [h.isLive_connect, inbox_connect, h.made]
    by_cases heq : c = a.services.length
    · simp [heq]
    · simp [heq, h.listening]
  deaf := by
    intro c hc
    show c < (a.services ++ [service]).length
    rw [List.length_append]
    exact Nat.lt_add_right _ (h.deaf c hc)

/-- A connection keeps its service when another one is made. -/
theorem services_connect {other : String} (h : a.services[c]? = some other) (service : String) :
    (a.services ++ [service])[c]? = some other := by
  rw [List.getElem?_append_left (List.getElem?_eq_some_iff.mp h).1, h]

/-- Connecting a service puts the new endpoint in the place of the old one, as the new connection
takes the place of the old. -/
theorem Wired.connect (hwired : b.Wired a) (h : b.Attended a) (service : String) :
    (b.connect service).1.Wired (a.perform (.connect service)) where
  keyed := by
    show ((b.endpoints.filter (·.1 != service) ++ [(service, b.inboxes.length)]).map
      (·.1)).Nodup
    rw [List.map_append]
    refine List.nodup_append.mpr ⟨hwired.keyed.sublist (List.filter_sublist.map _),
      List.nodup_singleton _, ?_⟩
    rintro s hs s' hs' rfl
    -- The old endpoint of the service is gone.
    obtain ⟨p, hp, rfl⟩ := List.mem_map.mp hs
    have hother := (List.mem_filter.mp hp).2
    rw [List.mem_singleton.mp hs'] at hother
    simp at hother
  current := by
    intro p hp
    show (a.services ++ [service])[p.2]? = _ ∧ Function.update a.current service _ p.1 = _
    rcases List.mem_append.mp hp with hp | hp
    · obtain ⟨hp, hother⟩ := List.mem_filter.mp hp
      obtain ⟨hs, hcurrent⟩ := hwired.current p hp
      rw [Function.update_of_ne (by simpa using hother)]
      exact ⟨services_connect hs service, hcurrent⟩
    · obtain rfl := List.mem_singleton.mp hp
      rw [Function.update_self, h.made]
      exact ⟨by simp, rfl⟩
  endpoint := by
    intro s c hc
    show (a.services ++ [service])[c]? = some s ∧
      (_ → (s, c) ∈ b.endpoints.filter (·.1 != service) ++ [(service, _)])
    -- The service that is connected has only its new connection; of any other the old endpoint is
    -- still there.
    by_cases hsame : s = service
    · subst hsame
      obtain rfl : a.services.length = c := by simpa [Subscriptions.perform] using hc
      refine ⟨by simp, fun _ => ?_⟩
      rw [h.made]
      exact List.mem_append_right _ (List.mem_singleton_self _)
    · have hold : a.current s = some c := by simpa [Subscriptions.perform, hsame] using hc
      obtain ⟨hs, hmem⟩ := hwired.endpoint s c hold
      refine ⟨services_connect hs service, fun hlive => ?_⟩
      have hne : c ≠ a.services.length := Nat.ne_of_lt (List.getElem?_eq_some_iff.mp hs).1
      have holdlive : a.isLive c := by simpa [h.isLive_connect, hne] using hlive
      exact List.mem_append_left _ (List.mem_filter.mpr ⟨hmem holdlive, by simpa using hsame⟩)

/-! ### Disconnecting -/

/-- Whether or not the service has an endpoint, it has none afterwards. -/
theorem disconnect_eq (b : Bus) (service : String) :
    (b.disconnect service).getD b =
      { b with endpoints := b.endpoints.filter (·.1 != service) } := by
  unfold disconnect
  by_cases hany : b.endpoints.any (·.1 == service)
  · rw [if_pos hany]
    rfl
  · -- There was no endpoint of the service, so nothing is filtered out.
    rw [if_neg hany, List.filter_eq_self.mpr]
    · rfl
    · intro p hp
      rw [bne_iff_ne]
      rintro rfl
      exact hany (List.any_eq_true.mpr ⟨p, hp, beq_self_eq_true _⟩)

/-- Disconnecting a service touches no inbox and no receiver. -/
theorem Attended.disconnect (h : b.Attended a) (service : String) :
    ((b.disconnect service).getD b).Attended (a.perform (.disconnect service)) := by
  rw [disconnect_eq]
  exact ⟨h.made, h.listening, h.deaf⟩

/-- Disconnecting a service takes its endpoint away, and it has no current connection any more. -/
theorem Wired.disconnect (h : b.Wired a) (service : String) :
    ((b.disconnect service).getD b).Wired (a.perform (.disconnect service)) := by
  rw [disconnect_eq]
  refine ⟨h.keyed.sublist (List.filter_sublist.map _), ?_, ?_⟩
  · intro p hp
    obtain ⟨hp, hother⟩ := List.mem_filter.mp hp
    obtain ⟨hs, hcurrent⟩ := h.current p hp
    refine ⟨hs, ?_⟩
    show Function.update a.current service none p.1 = _
    rw [Function.update_of_ne (by simpa using hother), hcurrent]
  · intro s c hc
    have hsame : s ≠ service := by
      rintro rfl
      simp [Subscriptions.perform] at hc
    -- Only another service can still have a current connection.
    have hold : a.current s = some c := by simpa [Subscriptions.perform, hsame] using hc
    obtain ⟨hs, hmem⟩ := h.endpoint s c hold
    exact ⟨hs, fun hlive => List.mem_filter.mpr ⟨hmem hlive, by simpa using hsame⟩⟩

/-! ### Submitting -/

/-- Submitting a message adds to inboxes, but neither makes connections nor drops receivers. -/
theorem Attended.submit (h : b.Attended a) (connection : Nat) (e : Envelope) :
    (b.submit e).Attended (a.perform (.submit connection e)) where
  made := List.length_mapIdx.trans h.made
  listening := by
    intro c
    refine Eq.trans ?_ (h.listening c)
    -- A message changes the queue of an inbox, not whether somebody listens.
    rw [inbox_submit_eq]
    split <;> rfl
  deaf := h.deaf

/-- Submitting a message prunes only endpoints that nobody listens to. -/
theorem Wired.submit (hwired : b.Wired a) (h : b.Attended a) (connection : Nat) (e : Envelope) :
    (b.submit e).Wired (a.perform (.submit connection e)) where
  keyed := hwired.keyed.sublist (List.filter_sublist.map _)
  current := fun p hp => hwired.current p (List.mem_of_mem_filter hp)
  endpoint := by
    intro service c hc
    obtain ⟨hs, hmem⟩ := hwired.endpoint service c hc
    refine ⟨hs, fun hlive => List.mem_filter.mpr ⟨hmem hlive, ?_⟩⟩
    rw [h.listening]
    exact hlive

/-- After a message was submitted, the endpoints are the current connections that somebody listens
to. -/
theorem size_submit (hwired : b.Wired a) (h : b.Attended a) (e : Envelope) :
    (b.submit e).size =
      ((List.range a.services.length).filter fun c => a.isCurrent c && a.isLive c).length := by
  have hafter := hwired.submit h 0 e
  have hnodup : ((b.submit e).endpoints.map (·.2)).Nodup := by
    refine hafter.keyed.of_map.map_on fun p hp q hq heq => ?_
    -- A connection has one service.
    have hp := (hafter.current p hp).1
    have hq := (hafter.current q hq).1
    rw [heq, hq] at hp
    exact Prod.ext (Option.some.inj hp).symm heq
  unfold size
  rw [← List.length_map (·.2)]
  refine ((List.perm_ext_iff_of_nodup hnodup (List.nodup_range.filter _)).mpr
    fun c => ?_).length_eq
  rw [List.mem_map, List.mem_filter, List.mem_range, Bool.and_eq_true]
  constructor
  · rintro ⟨p, hp, rfl⟩
    have hlistens := (List.mem_filter.mp hp).2
    have hservice := hafter.current p hp
    rw [h.listening] at hlistens
    exact ⟨(List.getElem?_eq_some_iff.mp hservice.1).1,
      Subscriptions.isCurrent_iff.mpr ⟨_, hservice⟩, hlistens⟩
  · rintro ⟨-, hcurrent, hlive⟩
    obtain ⟨service, -, hservice⟩ := Subscriptions.isCurrent_iff.mp hcurrent
    exact ⟨_, (hafter.endpoint service c hservice).2 hlive, rfl⟩

/-! ### Taking out and dropping receivers -/

/-- Writing an inbox changes nothing for the subscriptions as long as the receiver stays what it
was. -/
theorem Attended.setInbox {inbox : Inbox} (h : b.Attended a)
    (hlistening : inbox.listening = (b.inbox c).listening) : (b.setInbox c inbox).Attended a where
  made := List.length_set.trans h.made
  listening := by
    intro c'
    rw [inbox_setInbox]
    split <;> rename_i heq
    · rw [hlistening, h.listening, heq.1]
    · exact h.listening c'
  deaf := h.deaf

/-- Writing an inbox changes no endpoint. -/
theorem Wired.setInbox (h : b.Wired a) (inbox : Inbox) : (b.setInbox c inbox).Wired a :=
  ⟨h.keyed, h.current, h.endpoint⟩

/-- Dropping a receiver ends that connection and no other. -/
theorem isLive_deafen (a : Subscriptions) (c c' : Nat) :
    (a.perform (.deafen c)).isLive c' = (c != c' && a.isLive c') := by
  show (if c < a.services.length then { a with deaf := c :: a.deaf } else a).isLive c' = _
  by_cases hlt : c < a.services.length
  · rw [if_pos hlt]
    by_cases heq : c = c'
    · simp [Subscriptions.isLive, heq]
    · simp [Subscriptions.isLive, heq, Ne.symm heq]
  · rw [if_neg hlt]
    by_cases heq : c = c'
    · -- A connection that was not made was not live before either.
      subst heq
      simp [Subscriptions.isLive, hlt]
    · simp [heq]

/-- Dropping a receiver changes no service of a connection. -/
@[simp] theorem services_deafen (a : Subscriptions) (c : Nat) :
    (a.perform (.deafen c)).services = a.services := by
  show (if c < a.services.length then { a with deaf := c :: a.deaf } else a).services = _
  split <;> rfl

/-- Dropping a receiver changes no current connection: the connection stays in its place, unheard.
-/
@[simp] theorem current_deafen (a : Subscriptions) (c : Nat) :
    (a.perform (.deafen c)).current = a.current := by
  show (if c < a.services.length then { a with deaf := c :: a.deaf } else a).current = _
  split <;> rfl

/-- Dropping a receiver changes nothing about what was to be heard. -/
@[simp] theorem heard_deafen (a : Subscriptions) (c : Nat) :
    (a.perform (.deafen c)).heard = a.heard := by
  show (if c < a.services.length then { a with deaf := c :: a.deaf } else a).heard = _
  split <;> rfl

/-- Dropping the receiver of a connection leaves an inbox that nobody listens to. -/
theorem Attended.deafen (h : b.Attended a) (c : Nat) :
    (b.deafen c).Attended (a.perform (.deafen c)) where
  made := by
    rw [services_deafen]
    exact List.length_set.trans h.made
  listening := by
    intro c'
    rw [Bus.deafen, inbox_setInbox, isLive_deafen, ← h.listening]
    by_cases heq : c = c'
    · subst heq
      by_cases hlt : c < b.inboxes.length
      · simp [hlt]
      · simp [hlt, inbox_of_length_le (Nat.le_of_not_lt hlt)]
    · simp [heq]
  deaf := by
    intro c' hc'
    rw [services_deafen]
    have hmem : c' ∈ (if c < a.services.length then { a with deaf := c :: a.deaf } else a).deaf :=
      hc'
    split at hmem <;> rename_i hlt
    · rcases List.mem_cons.mp hmem with rfl | hmem
      · exact hlt
      · exact h.deaf c' hmem
    · exact h.deaf c' hmem

/-- Dropping a receiver leaves the endpoint in its place; it need not be there any more, for the
connection is no longer live. -/
theorem Wired.deafen (h : b.Wired a) (c : Nat) :
    (b.deafen c).Wired (a.perform (.deafen c)) where
  keyed := h.keyed
  current := by
    intro p hp
    rw [services_deafen, current_deafen]
    exact h.current p hp
  endpoint := by
    intro service c' hc'
    rw [current_deafen] at hc'
    rw [services_deafen, isLive_deafen]
    obtain ⟨hs, hmem⟩ := h.endpoint service c' hc'
    exact ⟨hs, fun hlive => hmem (Bool.and_eq_true _ _ ▸ hlive).2⟩

end Bus

namespace Watch

variable {w : Watch} {a : Subscriptions} {c : Nat}

/-- The bus is as the subscriptions say, and so is what is taken out. -/
structure Follows (w : Watch) (a : Subscriptions) : Prop where
  attended : w.bus.Attended a
  wired : w.bus.Wired a
  fresh : ∀ c, a.services.length ≤ c → a.heard c = []
  /-- What is heard is taken out in its order. -/
  begun : ∀ c, w.taken c ++ (w.bus.inbox c).queue <+: a.heard c
  /-- Nothing that is heard is lost while somebody listens. -/
  complete : ∀ c, a.isLive c → w.taken c ++ (w.bus.inbox c).queue = a.heard c

/-- On a bus that was just made nothing was heard and nothing was taken out. -/
theorem follows_empty : ({} : Watch).Follows {} where
  attended := ⟨rfl, fun _ => rfl, fun _ hc => absurd hc List.not_mem_nil⟩
  wired := ⟨List.nodup_nil, fun _ hp => absurd hp List.not_mem_nil, fun _ _ hc => nomatch hc⟩
  fresh := fun _ _ => rfl
  begun := fun _ => List.prefix_rfl
  complete := fun _ _ => rfl

/-- Connecting a service neither adds to what was heard nor takes anything away from it. -/
theorem Follows.connect (h : w.Follows a) (service : String) :
    (w.perform (.connect service)).Follows (a.perform (.connect service)) := by
  have hqueue (c : Nat) : ((w.bus.connect service).1.inbox c).queue = (w.bus.inbox c).queue := by
    rw [Bus.inbox_connect]
    split <;> rename_i heq
    · rw [Bus.inbox_of_length_le (Nat.le_of_eq heq.symm)]
    · rfl
  refine ⟨h.attended.connect service, h.wired.connect h.attended service, ?_, ?_, ?_⟩
  · intro c hc
    refine h.fresh c (Nat.le_trans ?_ hc)
    show _ ≤ (a.services ++ [service]).length
    rw [List.length_append]
    exact Nat.le_add_right _ _
  · intro c
    show w.taken c ++ ((w.bus.connect service).1.inbox c).queue <+: _
    rw [hqueue]
    exact h.begun c
  · intro c hlive
    show w.taken c ++ ((w.bus.connect service).1.inbox c).queue = a.heard c
    rw [hqueue]
    by_cases hnew : c = a.services.length
    · -- A new connection has heard nothing.
      have hnone := h.begun c
      rw [h.fresh c (Nat.le_of_eq hnew.symm)] at hnone ⊢
      exact List.prefix_nil.mp hnone
    · rw [h.attended.isLive_connect] at hlive
      exact h.complete c (by simpa [hnew] using hlive)

/-- Disconnecting a service leaves what was heard in the inboxes, to be taken out later. -/
theorem Follows.disconnect (h : w.Follows a) (service : String) :
    (w.perform (.disconnect service)).Follows (a.perform (.disconnect service)) where
  attended := h.attended.disconnect service
  wired := h.wired.disconnect service
  fresh := h.fresh
  begun := by
    intro c
    show _ ++ (((w.bus.disconnect service).getD w.bus).inbox c).queue <+: _
    rw [Bus.disconnect_eq]
    exact h.begun c
  complete := by
    intro c hlive
    show _ ++ (((w.bus.disconnect service).getD w.bus).inbox c).queue = _
    rw [Bus.disconnect_eq]
    exact h.complete c hlive

/-- A message that is submitted arrives at the current connections that somebody listens to, behind
all that they heard before. -/
theorem Follows.submit (h : w.Follows a) (connection : Nat) (e : Envelope) :
    (w.perform (.submit connection e)).Follows (a.perform (.submit connection e)) where
  attended := h.attended.submit connection e
  wired := h.wired.submit h.attended connection e
  fresh := by
    intro c hc
    show (if a.isCurrent c then a.heard c ++ [e] else a.heard c) = []
    rw [if_neg, h.fresh c hc]
    -- A connection that was not made yet is the current one of no service.
    intro hcurrent
    obtain ⟨service, hs, -⟩ := Subscriptions.isCurrent_iff.mp hcurrent
    exact Nat.not_lt_of_le hc (List.getElem?_eq_some_iff.mp hs).1
  begun := by
    intro c
    show w.taken c ++ ((w.bus.submit e).inbox c).queue <+:
      if a.isCurrent c then a.heard c ++ [e] else a.heard c
    rw [Bus.inbox_submit_eq]
    by_cases hfeeds : w.bus.isOpen c ∧ (w.bus.inbox c).listening
    · have hall : w.taken c ++ ((w.bus.inbox c).queue ++ [e]) = a.heard c ++ [e] := by
        rw [← List.append_assoc, h.complete c (h.attended.listening c ▸ hfeeds.2)]
      rw [if_pos hfeeds, if_pos (h.wired.isCurrent_of_isOpen hfeeds.1)]
      exact hall ▸ List.prefix_rfl
    · -- What is submitted past a dropped receiver is to be heard all the same, and never is.
      rw [if_neg hfeeds]
      split
      · exact (h.begun c).trans (List.prefix_append _ _)
      · exact h.begun c
  complete := by
    intro c hlive
    have hlive : a.isLive c := hlive
    show w.taken c ++ ((w.bus.submit e).inbox c).queue =
      if a.isCurrent c then a.heard c ++ [e] else a.heard c
    rw [Bus.inbox_submit_eq, h.attended.listening, h.wired.isOpen_eq hlive]
    by_cases hcurrent : a.isCurrent c
    · -- Where somebody listens, to be current and to have an endpoint are the same, so the bus and
      -- the note agree.
      rw [if_pos ⟨hcurrent, hlive⟩, if_pos hcurrent, ← List.append_assoc, h.complete c hlive]
    · rw [if_neg fun hboth => hcurrent hboth.1, if_neg hcurrent, h.complete c hlive]

/-- Messages are taken out from the front of an inbox. -/
theorem Follows.take (h : w.Follows a) {es rest : List Envelope}
    (hqueue : (w.bus.inbox c).queue = es ++ rest) :
    Follows ⟨w.bus.setInbox c { w.bus.inbox c with queue := rest },
      Function.update w.taken c (w.taken c ++ es)⟩ a := by
  have hsame (c' : Nat) : Function.update w.taken c (w.taken c ++ es) c' ++
      ((w.bus.setInbox c { w.bus.inbox c with queue := rest }).inbox c').queue =
        w.taken c' ++ (w.bus.inbox c').queue := by
    rw [Bus.inbox_setInbox]
    by_cases heq : c = c'
    · subst heq
      rw [Function.update_self, hqueue]
      by_cases hlt : c < w.bus.inboxes.length
      · rw [if_pos ⟨rfl, hlt⟩, List.append_assoc]
      · -- There is nothing to be taken out of an inbox that does not exist.
        rw [Bus.inbox_of_length_le (Nat.le_of_not_lt hlt)] at hqueue
        obtain ⟨rfl, rfl⟩ := List.append_eq_nil_iff.mp hqueue.symm
        rw [if_neg fun hboth => hlt hboth.2, Bus.inbox_of_length_le (Nat.le_of_not_lt hlt),
          List.append_nil]
        rfl
    · rw [if_neg fun hboth => heq hboth.1, Function.update_of_ne (Ne.symm heq)]
  refine ⟨h.attended.setInbox rfl, h.wired.setInbox _, h.fresh, ?_, ?_⟩
  · intro c'
    exact (hsame c').symm ▸ h.begun c'
  · intro c' hlive
    exact (hsame c').trans (h.complete c' hlive)

/-- Taking the first message out, if there is one, moves it from the inbox to what was taken. -/
theorem Follows.receive (h : w.Follows a) (c : Nat) : (w.perform (.receive c)).Follows a := by
  show (match w.bus.receive? c with
    | some (e, bus) => (⟨bus, Function.update w.taken c (w.taken c ++ [e])⟩ : Watch)
    | none => w).Follows a
  unfold Bus.receive?
  rcases hinbox : w.bus.inbox c with ⟨_ | ⟨e, rest⟩, listening⟩
  · exact h
  · have hqueue : (w.bus.inbox c).queue = [e] ++ rest := by rw [hinbox]; rfl
    have htake := h.take hqueue
    rwa [hinbox] at htake

/-- Taking all messages out moves the whole inbox to what was taken. -/
theorem Follows.drain (h : w.Follows a) (c : Nat) : (w.perform (.drain c)).Follows a :=
  h.take (List.append_nil _).symm

/-- Dropping a receiver loses what waited in the inbox, so that what was taken out is a beginning of
what was heard. -/
theorem Follows.deafen (h : w.Follows a) (c : Nat) :
    (w.perform (.deafen c)).Follows (a.perform (.deafen c)) where
  attended := h.attended.deafen c
  wired := h.wired.deafen c
  fresh := by
    intro c' hc'
    rw [Bus.services_deafen] at hc'
    rw [Bus.heard_deafen]
    exact h.fresh c' hc'
  begun := by
    intro c'
    show w.taken c' ++ ((w.bus.deafen c).inbox c').queue <+: _
    rw [Bus.heard_deafen, Bus.deafen, Bus.inbox_setInbox]
    split
    · -- What waited is gone, and what was taken out before stays a beginning.
      rw [List.append_nil]
      exact (List.prefix_append _ _).trans (h.begun c')
    · exact h.begun c'
  complete := by
    intro c' hlive
    rw [Bus.isLive_deafen, Bool.and_eq_true, bne_iff_ne] at hlive
    show w.taken c' ++ ((w.bus.deafen c).inbox c').queue = _
    rw [Bus.heard_deafen, Bus.deafen, Bus.inbox_setInbox, if_neg fun hboth => hlive.1 hboth.1]
    exact h.complete c' hlive.2

/-- Whatever is done with the bus, it goes on to be as the subscriptions say. -/
theorem Follows.perform (h : w.Follows a) (op : BusOp) : (w.perform op).Follows (a.perform op) := by
  cases op with
  | connect service => exact h.connect service
  | disconnect service => exact h.disconnect service
  | submit connection e => exact h.submit connection e
  | receive c => exact h.receive c
  | drain c => exact h.drain c
  | deafen c => exact h.deafen c

/-- Whatever is done with the bus in turn, it goes on to be as the subscriptions say. -/
theorem Follows.run (h : w.Follows a) (ops : List BusOp) : (w.run ops).Follows (a.run ops) := by
  induction ops generalizing w a with
  | nil => exact h
  | cons op ops ih => exact ih (h.perform op)

/-! ### What is not heard -/

/-- A connection is the current one of its service until that is connected again or disconnected. -/
theorem isCurrent_perform {op : BusOp} (hlive : a.isLive c) (hop : a.concerns c op = false) :
    (a.perform op).isCurrent c = a.isCurrent c := by
  obtain ⟨hlt, -⟩ := Subscriptions.isLive_iff.mp hlive
  unfold Subscriptions.isCurrent
  cases op with
  | connect service =>
    have hother : a.services[c] ≠ service := by
      simpa [Subscriptions.concerns, hlt] using hop
    simp [Subscriptions.perform, List.getElem?_append_left hlt, hlt, hother]
  | disconnect service =>
    have hother : a.services[c] ≠ service := by
      simpa [Subscriptions.concerns, hlt] using hop
    simp [Subscriptions.perform, hlt, hother]
  | submit connection e => cases hop
  | receive c' => rfl
  | drain c' => rfl
  | deafen c' => rw [Bus.services_deafen, Bus.current_deafen]

/-- A live connection stays live until its receiver is dropped. -/
theorem isLive_perform (h : w.Follows a) {op : BusOp} (hlive : a.isLive c)
    (hop : a.concerns c op = false) : (a.perform op).isLive c := by
  cases op with
  | connect service => simp [h.attended.isLive_connect, hlive]
  | disconnect service => exact hlive
  | submit connection e => exact hlive
  | receive c' => exact hlive
  | drain c' => exact hlive
  | deafen c' =>
    have hother : c' ≠ c := by simpa [Subscriptions.concerns] using hop
    simp [Bus.isLive_deafen, hother, hlive]

/-- What a connection has heard does not change with what is done about others. -/
theorem inbox_perform (h : w.Follows a) {op : BusOp} (hlive : a.isLive c)
    (hop : a.concerns c op = false) :
    (w.perform op).bus.inbox c = w.bus.inbox c ∧ (w.perform op).taken c = w.taken c := by
  -- Taking out and dropping write one inbox, and it is not this one.
  have hset {c' : Nat} (hne : c' ≠ c) (inbox : Inbox) :
      (w.bus.setInbox c' inbox).inbox c = w.bus.inbox c := by
    rw [Bus.inbox_setInbox, if_neg fun hboth => hne hboth.1]
  cases op with
  | connect service =>
    have hlt := (Subscriptions.isLive_iff.mp hlive).1
    refine ⟨?_, rfl⟩
    show (w.bus.connect service).1.inbox c = _
    rw [Bus.inbox_connect, h.attended.made, if_neg (Nat.ne_of_lt hlt)]
  | disconnect service =>
    refine ⟨?_, rfl⟩
    show ((w.bus.disconnect service).getD w.bus).inbox c = _
    rw [Bus.disconnect_eq]
    rfl
  | submit connection e => cases hop
  | receive c' =>
    have hother : c' ≠ c := by simpa [Subscriptions.concerns] using hop
    unfold perform Bus.receive?
    rcases hinbox : w.bus.inbox c' with ⟨_ | ⟨e, rest⟩, listening⟩
    · simp [hinbox]
    · simp [hinbox, hset hother, Function.update_of_ne (Ne.symm hother)]
  | drain c' =>
    have hother : c' ≠ c := by simpa [Subscriptions.concerns] using hop
    exact ⟨hset hother _, Function.update_of_ne (Ne.symm hother) _ _⟩
  | deafen c' =>
    have hother : c' ≠ c := by simpa [Subscriptions.concerns] using hop
    exact ⟨hset hother _, rfl⟩

/-- A bus neither loses messages nor repeats or reorders them. After anything that is done with a
new bus:

* of a connection whose receiver is there, what was taken out and what may still be drained are
  together the messages that were submitted while the connection was the current one of its service,
  each once and in the order of submission, whoever submitted it;
* more may come to such a connection exactly if it still is the current one; the receiver of a
  connection that was replaced or disconnected comes to an end after these messages;
* what was taken out before a receiver was dropped is the beginning of what was to be heard;
* nothing that is done about other connections changes what is in the inbox of such a connection,
  what was taken out of it or whether more may come;
* once another message is submitted, the endpoints are as many as the current connections whose
  receiver is there;
* a new connection gets the number that follows those of all others. -/
theorem delivers_exactly (ops : List BusOp) :
    let w := ({} : Watch).run ops
    let a := ({} : Subscriptions).run ops
    (∀ c, a.isLive c → w.taken c ++ (w.bus.drain c).1 = a.heard c ∧
      w.bus.isOpen c = a.isCurrent c) ∧
    (∀ c, w.taken c <+: a.heard c) ∧
    (∀ op c, a.isLive c → a.concerns c op = false →
      (w.perform op).bus.inbox c = w.bus.inbox c ∧ (w.perform op).taken c = w.taken c ∧
        (w.perform op).bus.isOpen c = w.bus.isOpen c) ∧
    (∀ e, (w.bus.submit e).size =
      ((List.range a.services.length).filter fun c => a.isCurrent c && a.isLive c).length) ∧
    ∀ service, (w.bus.connect service).2 = a.services.length := by
  intro w a
  -- All parts are read off the invariant of the whole run.
  have h : w.Follows a := follows_empty.run ops
  refine ⟨fun c hlive => ⟨h.complete c hlive, h.wired.isOpen_eq hlive⟩, fun c => ?_, ?_,
    Bus.size_submit h.wired h.attended, fun _ => h.attended.made⟩
  · exact (List.prefix_append _ _).trans (h.begun c)
  · intro op c hlive hop
    obtain ⟨hinbox, htaken⟩ := inbox_perform h hlive hop
    refine ⟨hinbox, htaken, ?_⟩
    rw [(h.perform op).wired.isOpen_eq (isLive_perform h hlive hop), isCurrent_perform hlive hop,
      h.wired.isOpen_eq hlive]

end Watch

end CommandMesh
