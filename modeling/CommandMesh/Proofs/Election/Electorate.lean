import CommandMesh.Proofs.Election.Candidate
import Mathlib.Algebra.BigOperators.Group.List.Basic
import Mathlib.Algebra.GroupWithZero.Nat
import Mathlib.Data.List.FinRange
import Mathlib.Logic.Function.Basic
import Mathlib.Logic.Relation

/-!
# `CommandMesh.Proofs.Election.Electorate`: instances of one command that hear each other

An `Electorate` is the instances of one command and the announcements that are on their way to them.
It is the system that the theorems about several candidates are about, and this module says how it
moves.

Every announcement goes to every instance, the one that makes it included. It arrives once, at any
time after it was made and before or after any other: a step of the system is the arrival of one
delivery, whichever it is, and its addressee hears it and announces at once whatever it has to say.
So `Electorate.Exchange` is any number of arrivals, and
`OrderedExchange` one in which nobody's announcements overtake each other on their way to one
addressee, as a bus delivers them. Nothing is lost and nothing comes twice. The moment at which a
delivery arrives is chosen with the delivery and need not be the moment of the poll.

The members poll in rounds: a `Round` lets every instance look whether a poll is due, and then
everything arrives, also what is announced in answer. Whether a poll is due depends on the member;
`Runs` is any number of rounds, no sooner after one another than `gap`, so that with a gap as long
as the interval of the members every poll of every round is due. Policies may differ from member to
member, and so may the jitter that is drawn for each poll.

The statements about rounds would be empty if a round could not be brought to its end. It can,
whatever has arrived so far: an announcement is answered by less than itself (a question or a
contender by a claim of mastership, a claim by somebody who stands down, that by nothing), and every
answer goes to all members. `load` counts how much may still be said, and every arrival lowers it.

The theorems:

* `Electorate.mem_inFlight_pollAll`, `Electorate.mem_answers`: what is on its way, and from whom.
* `Electorate.Arrives.arrival`: what one arrival changes.
* `Electorate.Exchange.keeps`: what every arrival keeps is kept by any number of them.
* `Electorate.load_answers_lt`: the answers to a delivery count less than the delivery.
* `Electorate.exists_round`, `Electorate.exists_runs`: a round can always be brought to its end, and
  there are runs of any number of rounds.
-/

set_option autoImplicit false

namespace CommandMesh

/-- An announcement on its way to a member of an electorate. -/
structure Delivery (n : Nat) where
  addressee : Fin n
  sender : String
  announcement : Announcement

/-- The instances of a command, and what is on its way to them. -/
structure Electorate (n : Nat) where
  members : Fin n → Candidate
  inFlight : List (Delivery n) := []

namespace Electorate

variable {n : Nat}

/-! ### Rounds -/

/-- An announcement on its way to every member. -/
def broadcast (sender : String) (a : Announcement) : List (Delivery n) :=
  (List.finRange n).map fun i => ⟨i, sender, a⟩

/-- Every member looks whether a poll is due, and announces what it asks for. -/
def pollAll (s : Electorate n) (now : Instant) (draw : Fin n → Nat) : Electorate n where
  members := fun i => ((s.members i).poll now (draw i)).1
  inFlight := s.inFlight ++ (List.finRange n).flatMap fun i =>
    ((s.members i).poll now (draw i)).2.toList.flatMap (broadcast (s.members i).service)

/-- What the addressee makes of a delivery. -/
def heard (s : Electorate n) (d : Delivery n) (now : Instant) : Candidate × List Consequence :=
  let c := s.members d.addressee
  match c.process (d.sender == c.service) d.sender d.announcement.text now with
  | .ok heard => heard
  | .error _ => (c, [])

/-- What the addressee announces at once on a delivery. -/
def answers (s : Electorate n) (d : Delivery n) (now : Instant) : List (Delivery n) :=
  (Candidate.utters (s.heard d now)).flatMap (broadcast (s.members d.addressee).service)

/-- A delivery arrives, and `rest` is still on its way. -/
def deliver (s : Electorate n) (d : Delivery n) (rest : List (Delivery n)) (now : Instant) :
    Electorate n where
  members := Function.update s.members d.addressee (s.heard d now).1
  inFlight := rest ++ s.answers d now

/-- One delivery arrives, whichever it is. -/
def Arrives (s s' : Electorate n) : Prop :=
  ∃ before d after now, s.inFlight = before ++ d :: after ∧
    s' = s.deliver d (before ++ after) now

/-- Any number of deliveries arrive. -/
def Exchange : Electorate n → Electorate n → Prop := Relation.ReflTransGen Arrives

/-- One delivery arrives, after all that its sender has sent to its addressee before. -/
def ArrivesInOrder (s s' : Electorate n) : Prop :=
  ∃ before d after now, s.inFlight = before ++ d :: after ∧
    (∀ e ∈ before, e.sender = d.sender → e.addressee ≠ d.addressee) ∧
      s' = s.deliver d (before ++ after) now

/-- Any number of deliveries arrive, those of one sender to one addressee in the order in which they
were sent. -/
def OrderedExchange : Electorate n → Electorate n → Prop := Relation.ReflTransGen ArrivesInOrder

/-- Every member polls once, and then everything arrives. -/
def Round (now : Instant) (s s' : Electorate n) : Prop :=
  ∃ draw, Exchange (s.pollAll now draw) s' ∧ s'.inFlight = []

/-- Rounds, the first not before `start` and each at least `gap` after the one before. After `k` of
them the electorate is `s`, and the next one is not before `due`. -/
inductive Runs (start : Instant) (gap : Span) (s₀ : Electorate n) :
    Nat → Instant → Electorate n → Prop where
  | nil : Runs start gap s₀ 0 start s₀
  | round {k : Nat} {due now : Instant} {s s' : Electorate n} :
      Runs start gap s₀ k due s → due ≤ now → Round now s s' →
        Runs start gap s₀ (k + 1) (now + gap) s'

/-! ### What arrives -/

/-- What is broadcast is on its way to everybody, from one sender and with one announcement. -/
@[simp] theorem mem_broadcast {sender : String} {a : Announcement} {d : Delivery n} :
    d ∈ broadcast sender a ↔ d.sender = sender ∧ d.announcement = a := by
  unfold broadcast
  rw [List.mem_map]
  constructor
  · rintro ⟨i, -, rfl⟩
    exact ⟨rfl, rfl⟩
  · rintro ⟨rfl, rfl⟩
    exact ⟨d.addressee, List.mem_finRange _, rfl⟩

/-- The addressee hears a delivery as an announcement of its sender, and as an echo if that is
itself. -/
theorem heard_eq (s : Electorate n) (d : Delivery n) (now : Instant) :
    s.heard d now = (s.members d.addressee).hear (d.sender == (s.members d.addressee).service)
      d.sender d.announcement now := by
  simp only [heard, Candidate.process_text]

/-- What is announced in answer is what the addressee utters. -/
theorem mem_answers {s : Electorate n} {d e : Delivery n} {now : Instant} :
    e ∈ s.answers d now ↔ e.sender = (s.members d.addressee).service ∧
      e.announcement ∈ Candidate.utters (s.heard d now) := by
  unfold answers
  rw [List.mem_flatMap]
  constructor
  · rintro ⟨a, ha, he⟩
    obtain ⟨hsender, rfl⟩ := mem_broadcast.mp he
    exact ⟨hsender, ha⟩
  · rintro ⟨hsender, ha⟩
    exact ⟨e.announcement, ha, mem_broadcast.mpr ⟨hsender, rfl⟩⟩

/-- What is on its way after the polls is what the members announce, if nothing was before. -/
theorem mem_inFlight_pollAll {s : Electorate n} {now : Instant} {draw : Fin n → Nat}
    (h : s.inFlight = []) {d : Delivery n} :
    d ∈ (s.pollAll now draw).inFlight ↔
      ∃ i, d.sender = (s.members i).service ∧
        ((s.members i).poll now (draw i)).2 = some d.announcement := by
  simp only [pollAll, h, List.nil_append, List.mem_flatMap, List.mem_finRange, true_and,
    Option.mem_toList, mem_broadcast]
  constructor
  · rintro ⟨i, a, ha, hsender, rfl⟩
    exact ⟨i, hsender, ha⟩
  · rintro ⟨i, hsender, ha⟩
    exact ⟨i, d.announcement, ha, hsender, rfl⟩

/-- From `s` to `s'` the delivery `d` arrived: its addressee has heard it, all others are as they
were, and its answers are on their way with what was left. -/
structure Arrival (s : Electorate n) (d : Delivery n) (now : Instant) (s' : Electorate n) :
    Prop where
  mem : d ∈ s.inFlight
  self : s'.members d.addressee = (s.heard d now).1
  other : ∀ i, i ≠ d.addressee → s'.members i = s.members i
  origin : ∀ e ∈ s'.inFlight, e ∈ s.inFlight ∨ e ∈ s.answers d now
  kept : ∀ e ∈ s.inFlight, e ≠ d → e ∈ s'.inFlight
  answered : ∀ e ∈ s.answers d now, e ∈ s'.inFlight

/-- What goes to others does not arrive with it. -/
theorem Arrival.kept_of_addressee {s s' : Electorate n} {d e : Delivery n} {now : Instant}
    (h : Arrival s d now s') (he : e ∈ s.inFlight) (hne : e.addressee ≠ d.addressee) :
    e ∈ s'.inFlight :=
  h.kept e he fun heq => hne (congrArg Delivery.addressee heq)

/-- Whatever stands anywhere among what is on its way can arrive next. -/
theorem arrival_deliver {s : Electorate n} {before after : List (Delivery n)} {d : Delivery n}
    (hsplit : s.inFlight = before ++ d :: after) (now : Instant) :
    Arrival s d now (s.deliver d (before ++ after) now) := by
  refine ⟨by simp [hsplit], ?_, ?_, ?_, ?_, ?_⟩
  · exact Function.update_self _ _ _
  · exact fun i hi => Function.update_of_ne hi _ _
  · intro e he
    -- What is on its way now was so before, or is an answer.
    rcases List.mem_append.mp he with he | he
    · refine Or.inl ?_
      rw [hsplit]
      rcases List.mem_append.mp he with he | he
      · exact List.mem_append_left _ he
      · exact List.mem_append_right _ (List.mem_cons_of_mem _ he)
    · exact Or.inr he
  · intro e he hne
    rw [hsplit] at he
    refine List.mem_append_left _ ?_
    rcases List.mem_append.mp he with he | he
    · exact List.mem_append_left _ he
    · exact List.mem_append_right _ ((List.mem_cons.mp he).resolve_left hne)
  · exact fun e he => List.mem_append_right _ he

/-- Whatever arrives is the arrival of one delivery. -/
theorem Arrives.arrival {s s' : Electorate n} (h : Arrives s s') :
    ∃ d now, Arrival s d now s' := by
  obtain ⟨before, d, after, now, hsplit, rfl⟩ := h
  exact ⟨d, now, arrival_deliver hsplit now⟩

/-- What arrives in order arrives. -/
theorem ArrivesInOrder.arrives {s s' : Electorate n} (h : ArrivesInOrder s s') : Arrives s s' := by
  obtain ⟨before, d, after, now, hsplit, -, rfl⟩ := h
  exact ⟨before, d, after, now, hsplit, rfl⟩

/-- An arrival leaves the members who they are. -/
theorem Arrival.keeps {s s' : Electorate n} {d : Delivery n} {now : Instant}
    (h : Arrival s d now s') (i : Fin n) : (s.members i).Keeps (s'.members i) := by
  by_cases hi : i = d.addressee
  · rw [hi, h.self, heard_eq]
    exact Candidate.keeps_hear _ _ _ _ _
  · rw [h.other i hi]
    exact Candidate.Keeps.refl _

/-- What every arrival keeps is kept by any number of them. -/
theorem Exchange.keeps {P : Electorate n → Prop} (hP : ∀ s s', P s → Arrives s s' → P s')
    {s s' : Electorate n} (h : Exchange s s') (hs : P s) : P s' := by
  induction h with
  | refl => exact hs
  | tail _ hlast ih => exact hP _ _ ih hlast

/-! ### Rounds come to an end -/

/-- How much may still be said because of an announcement to `n` instances. -/
def weight (n : Nat) : Announcement → Nat
  | .iAmStandby | .resyncMaster => 1
  | .iAmMaster => n + 1
  | .whoIsMaster | .requestingControl1 | .requestingControl2 | .takingControl => n * (n + 1) + 1

/-- How much may still be said because of what is on its way. -/
def load (ds : List (Delivery n)) : Nat := (ds.map fun d => weight n d.announcement).sum

/-- An announcement to all counts once for each member. -/
theorem load_broadcast (sender : String) (a : Announcement) :
    load (broadcast sender a : List (Delivery n)) = n * weight n a := by
  unfold load broadcast
  rw [List.map_map]
  simp [Function.comp_def, List.map_const']

/-- The answers to a delivery count less than the delivery. -/
theorem load_answers_lt (s : Electorate n) (d : Delivery n) (now : Instant) :
    load (s.answers d now) < weight n d.announcement := by
  have hutters := Candidate.utters_hear (s.members d.addressee)
    (d.sender == (s.members d.addressee).service) d.sender d.announcement now
  rw [← heard_eq] at hutters
  unfold answers
  rcases hutters with hnone | ⟨hclaim, hstandby⟩ | ⟨⟨hclaim, hstandby, hresync⟩, hmaster⟩
  · rw [hnone]
    show 0 < _
    cases d.announcement <;> simp [weight]
  -- An answer goes to all `n` instances, and each kind of answer is answered by less.
  · rw [hstandby, hclaim, List.flatMap_singleton, load_broadcast]
    simp [weight]
  · rw [hmaster, List.flatMap_singleton, load_broadcast]
    cases ha : d.announcement with
    | iAmMaster => exact absurd ha hclaim
    | iAmStandby => exact absurd ha hstandby
    | resyncMaster => exact absurd ha hresync
    | whoIsMaster | requestingControl1 | requestingControl2 | takingControl => simp [weight]

/-- With every arrival less is still to be said. -/
theorem load_arrives_lt {s s' : Electorate n} (h : Arrives s s') :
    load s'.inFlight < load s.inFlight := by
  obtain ⟨before, d, after, now, hsplit, rfl⟩ := h
  have hanswers := s.load_answers_lt d now
  rw [hsplit]
  simp only [deliver, load, List.map_append, List.map_cons, List.sum_append, List.sum_cons] at *
  omega

/-- Whatever is on its way can arrive in order, and all that is said because of it. -/
theorem exists_orderedExchange (s : Electorate n) :
    ∃ s', OrderedExchange s s' ∧ s'.inFlight = [] := by
  -- The induction is on how much may still be said.
  induction hload : load s.inFlight using Nat.strong_induction_on generalizing s with
  | h load ih =>
    cases hflight : s.inFlight with
    | nil => exact ⟨s, Relation.ReflTransGen.refl, hflight⟩
    | cons d rest =>
      -- Let the first one arrive. What is on its way then counts less.
      have hfirst : ArrivesInOrder s (s.deliver d rest 0) :=
        ⟨[], d, rest, 0, hflight, by simp, rfl⟩
      obtain ⟨s', hrest, hdone⟩ := ih _ (hload ▸ load_arrives_lt hfirst.arrives) _ rfl
      exact ⟨s', Relation.ReflTransGen.head hfirst hrest, hdone⟩

/-- Whatever is on its way can arrive, and all that is said because of it. -/
theorem exists_exchange (s : Electorate n) : ∃ s', Exchange s s' ∧ s'.inFlight = [] := by
  obtain ⟨s', hexchange, hdone⟩ := s.exists_orderedExchange
  have harrives : Exchange s s' :=
    Relation.ReflTransGen.mono (fun _ _ h => ArrivesInOrder.arrives h) _ _ hexchange
  exact ⟨s', harrives, hdone⟩

/-- A round can be begun at any time, and what has arrived so far does not keep it from coming to
its end. -/
theorem exists_round (s : Electorate n) (now : Instant) (draw : Fin n → Nat) {s' : Electorate n}
    (h : Exchange (s.pollAll now draw) s') : ∃ s'', Exchange s' s'' ∧ Round now s s'' := by
  obtain ⟨s'', hrest, hdone⟩ := exists_exchange s'
  exact ⟨s'', hrest, draw, Relation.ReflTransGen.trans h hrest, hdone⟩

/-- There are runs of any number of rounds. -/
theorem exists_runs (start : Instant) (gap : Span) (s₀ : Electorate n) (k : Nat) :
    ∃ due s, Runs start gap s₀ k due s := by
  induction k with
  | zero => exact ⟨start, s₀, Runs.nil⟩
  | succ k ih =>
    obtain ⟨due, s, hruns⟩ := ih
    obtain ⟨s', -, hround⟩ := s.exists_round due (fun _ => 0) Relation.ReflTransGen.refl
    exact ⟨due + gap, s', Runs.round hruns (Nat.le_refl _) hround⟩

end Electorate

end CommandMesh
