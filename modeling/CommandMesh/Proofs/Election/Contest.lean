import CommandMesh.Proofs.Election.Climb
import Mathlib.Data.Fintype.EquivFin
import Mathlib.Data.Fintype.Lattice
import Mathlib.Data.Prod.Lex
import Mathlib.Data.String.Basic

/-!
# `CommandMesh.Proofs.Election.Contest`: contenders that hear each other's announcements

A `Contender` is a candidate that has just polled on one of the rungs past the first and so has
announced that it contends there. In a `Contest` any number of them hear these announcements, their
own as echoes, in any order and each any number of times. Their own echo may lift some of them while
they do so, which changes how they compare with the others.

A contender is not any state on a rung: it is what some history and a poll after it lead to, with
whatever name, policy, times and messages. That it can be reached is part of the structure, so that
nothing is proved about states that cannot occur, and its witnesses are built from histories as
well. Nothing else polls during a contest, and no further announcements are made; it is one round of
hearing. The moments at which announcements are heard are free. Ids are different.

A contender is at one of three stages: on its rung, lifted to the next one, or standing by. `turn`
says how an announcement takes it from one to another, and `standsAt_heard` that it does so. What
comes of a contest is then a matter of stages alone, and each result is an induction over the
hearings with a fact about one turn. A contender that its echo lifts from the last rung has become
master; it is at the stage `lifted` all the same, and answers others instead of giving way.

Rungs come first and ids second: the higher rung wins, and on the same rung the lower id. As ids are
different, there is exactly one strongest member. It never gives way, and whoever its own echo does
not lift gives way to it on hearing it. Who is lifted may be a rung above the strongest when it
hears it, so the others need not all stand by in the end. On one rung this is the whole story, told
by `separates_level_iff`: what the contender with the higher id hears first decides.
`level_climb_together` has two that climb on together, without jitter.

The theorems:

* `Contest.standsAt_heard`: the stages tell where the contenders stand.
* `Contest.existsUnique_strongest`: rungs and ids put contenders into an order without ties.
* `Contest.strongest_prevails`: the strongest contender never gives way, and everybody who hears it
  and is not lifted by its own echo gives way to it.
* `Contest.separates_level_iff`: of two contenders on the same rung the one with the lower id goes
  on. The other one gives way unless its own echo lifts it before it hears its rival.
-/

set_option autoImplicit false

namespace CommandMesh

open Candidate (create)

/-- A candidate that has just polled, and has announced with it that it contends. Whatever happened
to it before, this poll was the last event. -/
structure Contender where
  candidate : Candidate
  announced : Announcement
  polled : ∃ name service policy founding es now draw,
    ((create name service policy founding).afterAll es).poll now draw = (candidate, some announced)
  contends : announced.senderStanding?.isSome = true

namespace Contender

/-- The id of the contender. -/
def id (x : Contender) : String := x.candidate.service

/-- The rung that the contender has announced. -/
def rung (x : Contender) : Nat := x.candidate.standing.rung?.getD 0

/-- The echo of the contender's announcement lifts it to the next rung. -/
def EchoLifts (x : Contender) : Prop := x.candidate.policy.minAttempts < x.candidate.attempts

instance (x : Contender) : Decidable x.EchoLifts := inferInstanceAs (Decidable (_ < _))

/-- The contender makes `y` give way if `y` is on the rung `r`. -/
def Beats (x y : Contender) (r : Nat) : Prop := r < x.rung ∨ r = x.rung ∧ x.id < y.id

instance (x y : Contender) (r : Nat) : Decidable (x.Beats y r) :=
  inferInstanceAs (Decidable (_ ∨ _))

/-! ### Where a contender stands after its poll -/

/-- A poll announces what the standing asks for that it leaves the candidate in. -/
theorem ofStanding?_of_poll {c c' : Candidate} {now : Instant} {draw : Nat} {a : Announcement}
    (h : c.poll now draw = (c', some a)) : Announcement.ofStanding? c'.standing = some a := by
  rcases c.poll_cases now draw with hdue | hidle
  · rw [Candidate.poll_of_due hdue.1 hdue.2] at h
    obtain ⟨rfl, hwords⟩ := Prod.mk.inj h
    exact hwords
  · rw [hidle] at h
    exact absurd (Prod.mk.inj h).2 (by simp)

/-- A contender has announced what its standing asks for. -/
theorem ofStanding?_eq (x : Contender) :
    Announcement.ofStanding? x.candidate.standing = some x.announced := by
  obtain ⟨_, _, _, _, _, _, _, h⟩ := x.polled
  exact ofStanding?_of_poll h

/-- The announcement tells where the contender stands. -/
theorem senderStanding?_eq (x : Contender) :
    x.announced.senderStanding? = some x.candidate.standing := by
  have hreads : ∀ {s : Standing} {a : Announcement}, Announcement.ofStanding? s = some a →
      a.senderStanding?.isSome = true → a.senderStanding? = some s := by
    intro s
    cases s <;> simp [Announcement.ofStanding?, Announcement.senderStanding?]
  exact hreads x.ofStanding?_eq x.contends

/-- A contender is on one of the three rungs past the first. -/
theorem standing_cases (x : Contender) : x.candidate.standing = .requesting1 ∨
    x.candidate.standing = .requesting2 ∨ x.candidate.standing = .takingControl := by
  have hs := x.senderStanding?_eq
  cases ha : x.announced <;> rw [ha] at hs <;> simp [Announcement.senderStanding?] at hs <;>
    simp [← hs]

/-- A contender contends. -/
theorem isContending (x : Contender) : x.candidate.standing.isContending = true := by
  rcases x.standing_cases with hs | hs | hs <;> rw [hs] <;> rfl

/-- The rung of a contender is that of its standing. -/
theorem rung?_eq (x : Contender) : x.candidate.standing.rung? = some x.rung := by
  rcases x.standing_cases with hs | hs | hs <;> rw [rung, hs] <;> rfl

/-! ### Stages -/

/-- Where a contender is in a contest. -/
inductive Stage where
  | onRung
  /-- Its echo has lifted it. -/
  | lifted
  /-- It has given way. -/
  | standsBy
deriving DecidableEq

/-- The standing at a stage. -/
def standingAt (x : Contender) : Stage → Standing
  | .onRung => x.candidate.standing
  | .lifted => x.candidate.standing.next
  | .standsBy => .inactive

/-- The stage after the contender has heard its own announcement. -/
def echoed (x : Contender) : Stage → Stage
  | .onRung => if x.EchoLifts then .lifted else .onRung
  | .lifted => .lifted
  | .standsBy => .standsBy

/-- The stage after the contender has heard the announcement of `y`. -/
def challenged (x y : Contender) : Stage → Stage
  | .onRung => if y.Beats x x.rung then .standsBy else .onRung
  | .lifted => if y.Beats x (x.rung + 1) then .standsBy else .lifted
  | .standsBy => .standsBy

/-- The candidate `c` is the contender at this stage. -/
structure StandsAt (x : Contender) (st : Stage) (c : Candidate) : Prop where
  service : c.service = x.id
  policy : c.policy = x.candidate.policy
  standing : c.standing = x.standingAt st
  attempts : st = .onRung → c.attempts = x.candidate.attempts

/-- Before it has heard anything, a contender is on its rung. -/
theorem standsAt_candidate (x : Contender) : x.StandsAt .onRung x.candidate :=
  ⟨rfl, rfl, rfl, fun _ => rfl⟩

variable {x y : Contender} {st : Stage} {c : Candidate}

/-- A contender takes part in the election at every stage. -/
theorem standingAt_ne_disabled (x : Contender) (st : Stage) : x.standingAt st ≠ .disabled := by
  rcases x.standing_cases with hs | hs | hs <;> cases st <;> simp [standingAt, hs, Standing.next]

/-- An echo lifts a contender once, if it has polled often enough. -/
theorem StandsAt.hearEcho (h : x.StandsAt st c) (now : Instant) :
    x.StandsAt (x.echoed st) (c.hearEcho x.announced now).1 := by
  have hkeeps := c.keeps_hearEcho x.announced now
  -- Once it has left its rung, this is not what it asks for any more.
  have hdeaf : c.standing ≠ .verifying →
      Announcement.ofStanding? c.standing ≠ some x.announced → x.echoed st = st →
      x.StandsAt (x.echoed st) (c.hearEcho x.announced now).1 := by
    intro hverifying hother hst
    rw [Candidate.hearEcho_of_ne hverifying hother, hst]
    exact h
  have hs := h.standing
  cases st with
  | onRung =>
    have hs : c.standing = x.candidate.standing := hs
    have hcontending : c.standing.isContending = true := by rw [hs, x.isContending]
    by_cases hlifts : x.EchoLifts
    · have hmany : ¬ c.attempts ≤ c.policy.minAttempts := by
        rw [h.attempts rfl, h.policy, UInt32.not_le]
        exact hlifts
      obtain ⟨hnext, -, -⟩ :=
        Candidate.hearEcho_of_contending hcontending (by rw [hs, x.ofStanding?_eq]) hmany now
      rw [echoed, if_pos hlifts]
      refine ⟨hkeeps.service.trans h.service, hkeeps.policy.trans h.policy, ?_, nofun⟩
      rw [hnext, hs]
      rfl
    · have hfew : c.attempts ≤ c.policy.minAttempts := by
        rw [h.attempts rfl, h.policy]
        exact UInt32.not_lt.mp hlifts
      rw [Candidate.hearEcho_of_attempts_le (Standing.ne_of_isContending hcontending).1 hfew,
        echoed, if_neg hlifts]
      exact h
  | lifted =>
    refine hdeaf ?_ ?_ rfl
    · rw [hs]
      exact Standing.next_ne_verifying x.isContending
    · rw [hs, ← x.ofStanding?_eq]
      exact Standing.ofStanding?_next_ne x.isContending
  | standsBy =>
    have hs : c.standing = .inactive := hs
    refine hdeaf (by rw [hs]; decide) ?_ rfl
    rw [hs, ← x.ofStanding?_eq]
    rcases x.standing_cases with hx | hx | hx <;> rw [hx] <;> decide

/-- The announcement of a contender is heard as that of one. -/
theorem hearOther_eq (y : Contender) (c : Candidate) (now : Instant) :
    c.hearOther y.id y.announced now = c.hearContender y.id y.announced now := by
  have hcontends := y.contends
  cases ha : y.announced with
  | requestingControl1 | requestingControl2 | takingControl => rfl
  | whoIsMaster | iAmMaster | iAmStandby | resyncMaster =>
    rw [ha] at hcontends
    exact absurd hcontends (by decide)

/-- Whether a candidate on the rung `r` gives way to a contender. -/
theorem yieldsTo_iff {r : Nat} (hservice : c.service = x.id) (hr : c.standing.rung? = some r) :
    c.yieldsTo y.id y.announced = true ↔ y.Beats x r := by
  simp [Candidate.yieldsTo, hr, y.senderStanding?_eq, y.rung?_eq, hservice, Beats]

/-- A candidate on the rung `r` stands by after it has heard a contender that makes it give way, and
else stays where it is. -/
theorem hearContender_of_rung {r : Nat} (hservice : c.service = x.id)
    (hr : c.standing.rung? = some r) (now : Instant) :
    (y.Beats x r → (c.hearContender y.id y.announced now).1.standing = .inactive) ∧
      (¬ y.Beats x r → (c.hearContender y.id y.announced now).1 = c.meet y.id) := by
  have hactive : c.standing ≠ .active := by
    intro hs
    rw [hs] at hr
    cases hr
  have hyields := yieldsTo_iff (y := y) hservice hr
  refine ⟨fun hbeats => ?_, fun hbeats => ?_⟩
  · exact (Candidate.hearContender_of_yieldsTo hactive (hyields.mpr hbeats) now).1
  · rw [Candidate.hearContender_of_not_yieldsTo hactive]
    exact Bool.eq_false_iff.mpr fun hy => hbeats (hyields.mp hy)

/-- Meeting another contender does not change the stage. -/
theorem StandsAt.meet (h : x.StandsAt st c) (sender : String) : x.StandsAt st (c.meet sender) where
  service := (c.keeps_meet sender).service.trans h.service
  policy := (c.keeps_meet sender).policy.trans h.policy
  standing := (c.standing_meet sender).trans h.standing
  attempts := fun hst => (c.attempts_meet sender).trans (h.attempts hst)

/-- The announcement of another contender makes a contender give way that is behind it. -/
theorem StandsAt.hearContender (h : x.StandsAt st c) (y : Contender) (now : Instant) :
    x.StandsAt (x.challenged y st) (c.hearContender y.id y.announced now).1 := by
  have hkeeps := c.keeps_hearContender y.id y.announced now
  have hgives : (c.hearContender y.id y.announced now).1.standing = .inactive →
      x.StandsAt .standsBy (c.hearContender y.id y.announced now).1 := fun hinactive =>
    ⟨hkeeps.service.trans h.service, hkeeps.policy.trans h.policy, hinactive, nofun⟩
  -- Who contends on the rung `r` compares it with the other one's.
  have hcompares : ∀ {r : Nat}, c.standing.rung? = some r →
      x.StandsAt (if y.Beats x r then .standsBy else st)
        (c.hearContender y.id y.announced now).1 := by
    intro r hr
    obtain ⟨hyields, hstays⟩ := hearContender_of_rung (x := x) (y := y) h.service hr now
    split
    · next hbeats => exact hgives (hyields hbeats)
    · next hbeats =>
      rw [hstays hbeats]
      exact h.meet y.id
  have hs := h.standing
  -- On its rung it compares that one; standing by it gives way to anybody; lifted it compares the
  -- next rung, if there is one.
  cases st with
  | onRung => exact hcompares (hs ▸ x.rung?_eq)
  | standsBy =>
    have h' := hcompares (r := 0) (by rw [hs]; rfl)
    rwa [ite_self] at h'
  | lifted =>
    by_cases htop : x.candidate.standing = .takingControl
    · -- A contender that has become master answers, and nobody is above it.
      have hactive : c.standing = .active := by
        rw [hs, standingAt, htop]
        rfl
      have hbeats : ¬ y.Beats x (x.rung + 1) := by
        have hx : x.rung = 4 := by rw [rung, htop]; rfl
        have hy : y.rung ≤ 4 := by
          rcases y.standing_cases with hy | hy | hy <;> rw [rung, hy] <;> decide
        unfold Beats
        omega
      rw [challenged, if_neg hbeats, Candidate.hearContender_of_active hactive]
      exact h.meet y.id
    · refine hcompares ?_
      rw [hs, standingAt, rung]
      rcases x.standing_cases with hx | hx | hx
      · rw [hx]; rfl
      · rw [hx]; rfl
      · exact absurd hx htop

end Contender

namespace Contender

/-- What an instance announces when it polls after some events. -/
def announcementAfter (service : String) (policy : ElectionPolicy) (es : List Candidate.Event)
    (now : Instant) : Option Announcement :=
  (((create "billing" service policy 0).afterAll es).poll now 0).2

/-- The contender that comes of some events and a poll after them. -/
def ofHistory (service : String) (policy : ElectionPolicy) (es : List Candidate.Event)
    (now : Instant) (a : Announcement) (h : announcementAfter service policy es now = some a)
    (ha : a.senderStanding?.isSome = true) : Contender where
  candidate := (((create "billing" service policy 0).afterAll es).poll now 0).1
  announced := a
  polled := ⟨"billing", service, policy, 0, es, now, 0, Prod.ext rfl h⟩
  contends := ha

end Contender

/-- Contenders with different ids. -/
structure Contest (n : Nat) where
  members : Fin n → Contender
  distinct : Function.Injective fun i => (members i).id

/-- A member of a contest hears the announcement of a member, which may be its own. -/
structure Hearing (n : Nat) where
  addressee : Fin n
  speaker : Fin n
  now : Instant
deriving DecidableEq

namespace Contest

open Contender (Stage)

variable {n : Nat} (C : Contest n)

/-- The announcement that a hearing brings, as it is taken up by its addressee. -/
def event (h : Hearing n) : Candidate.Event :=
  .process (h.speaker == h.addressee) (C.members h.speaker).id (C.members h.speaker).announced.text
    h.now

/-- The addressee of a hearing takes the announcement up. -/
def hear (s : Fin n → Candidate) (h : Hearing n) : Fin n → Candidate :=
  Function.update s h.addressee ((s h.addressee).after (C.event h))

/-- The members after some hearings in turn. -/
def after (hs : List (Hearing n)) : Fin n → Candidate :=
  hs.foldl C.hear fun i => (C.members i).candidate

/-- The stage of the member `i` after it has heard the announcement of `j`. -/
def turn (i j : Fin n) (st : Stage) : Stage :=
  if j = i then (C.members i).echoed st else (C.members i).challenged (C.members j) st

/-- The stage of the member `i` after some hearings in turn. -/
def stage (i : Fin n) (hs : List (Hearing n)) : Stage :=
  hs.foldl (fun st h => if h.addressee = i then C.turn i h.speaker st else st) .onRung

variable {C} {i j k : Fin n} {hs : List (Hearing n)} {h : Hearing n}

/-- The last hearing comes after all others. -/
theorem after_append_singleton : C.after (hs ++ [h]) = C.hear (C.after hs) h := by
  simp [after]

/-- A hearing changes the stage of its addressee only. -/
theorem stage_append_singleton : C.stage i (hs ++ [h]) =
    if h.addressee = i then C.turn i h.speaker (C.stage i hs) else C.stage i hs := by
  simp [stage]

/-- A member hears its own announcement as an echo. -/
@[simp] theorem turn_self (i : Fin n) (st : Stage) : C.turn i i st = (C.members i).echoed st :=
  if_pos rfl

/-- A member hears the announcement of another one as that of a contender. -/
theorem turn_of_ne (hj : j ≠ i) (st : Stage) :
    C.turn i j st = (C.members i).challenged (C.members j) st :=
  if_neg hj

/-- Who stands by goes on to do so. -/
@[simp] theorem turn_standsBy (i j : Fin n) : C.turn i j .standsBy = .standsBy := by
  by_cases hj : j = i
  · rw [hj, turn_self]
    rfl
  · rw [turn_of_ne hj]
    rfl

/-- What holds on the rung and is kept by each announcement holds after all hearings. -/
theorem stage_induction {P : Stage → Prop} (hrung : P .onRung)
    (hturn : ∀ j st, P st → P (C.turn i j st)) (hs : List (Hearing n)) : P (C.stage i hs) := by
  induction hs using List.reverseRecOn with
  | nil => exact hrung
  | append_singleton hs h ih =>
    rw [stage_append_singleton]
    split
    · exact hturn h.speaker _ ih
    · exact ih

/-- A hearing takes its addressee from one stage to the next. -/
theorem standsAt_after {st : Stage} {c : Candidate} (hc : (C.members i).StandsAt st c)
    (hi : h.addressee = i) :
    (C.members i).StandsAt (C.turn i h.speaker st) (c.after (C.event h)) := by
  subst hi
  have hdisabled : c.standing ≠ .disabled := by
    rw [hc.standing]
    exact (C.members _).standingAt_ne_disabled st
  simp only [Candidate.after, event, Candidate.process_text,
    Candidate.hear_of_ne_disabled hdisabled, beq_iff_eq, turn]
  by_cases hself : h.speaker = h.addressee
  · simp only [hself, if_true]
    exact hc.hearEcho h.now
  · simp only [hself, if_false]
    rw [Contender.hearOther_eq]
    exact hc.hearContender (C.members h.speaker) h.now

/-- The stages tell where the members stand, whatever they have heard. -/
theorem standsAt_heard (C : Contest n) (i : Fin n) (hs : List (Hearing n)) :
    (C.members i).StandsAt (C.stage i hs) (C.after hs i) := by
  induction hs using List.reverseRecOn with
  | nil => exact (C.members i).standsAt_candidate
  | append_singleton hs h ih =>
    rw [after_append_singleton, stage_append_singleton, hear]
    by_cases hi : h.addressee = i
    · subst hi
      rw [Function.update_self, if_pos rfl]
      exact standsAt_after ih rfl
    · rw [Function.update_of_ne (Ne.symm hi), if_neg hi]
      exact ih

/-! ### The strongest -/

/-- The member has announced the highest rung, and has the lowest id of those that have. -/
def IsStrongest (C : Contest n) (k : Fin n) : Prop :=
  ∀ i, i ≠ k → (C.members i).rung < (C.members k).rung ∨
    (C.members i).rung = (C.members k).rung ∧ (C.members k).id < (C.members i).id

/-- There is one strongest member, and no other one. -/
theorem existsUnique_strongest (C : Contest (n + 1)) : ∃! k, C.IsStrongest k := by
  -- The highest rung comes first, and on it the lowest id.
  let place : Fin (n + 1) → Natᵒᵈ ×ₗ String := fun i =>
    toLex (OrderDual.toDual (C.members i).rung, (C.members i).id)
  obtain ⟨k, hfirst⟩ := Finite.exists_min place
  have hk : C.IsStrongest k := by
    intro i hi
    rcases Prod.Lex.toLex_le_toLex.mp (hfirst i) with hlt | ⟨heq, hle⟩
    · exact Or.inl hlt
    · exact Or.inr ⟨heq.symm, lt_of_le_of_ne hle fun hid => hi (C.distinct hid).symm⟩
  refine ⟨k, hk, fun k' hk' => ?_⟩
  -- Of two strongest members each would be ahead of the other.
  by_contra hne
  rcases hk k' hne with hlt | ⟨heq, hlt⟩ <;> rcases hk' k (Ne.symm hne) with hlt' | ⟨heq', hlt'⟩
  · omega
  · omega
  · omega
  · exact String.lt_asymm hlt hlt'

/-- Nobody makes the strongest member give way, whether its echo has lifted it or not. -/
theorem IsStrongest.not_beats (hk : C.IsStrongest k) (hj : j ≠ k) :
    ¬ (C.members j).Beats (C.members k) (C.members k).rung ∧
      ¬ (C.members j).Beats (C.members k) ((C.members k).rung + 1) := by
  unfold Contender.Beats
  rcases hk j hj with hlt | ⟨heq, hlt⟩
  · constructor <;> omega
  · refine ⟨?_, by omega⟩
    rintro (hlt' | ⟨-, hlt'⟩)
    · omega
    · exact String.lt_asymm hlt hlt'

/-- The strongest member makes every other one give way that is on its own rung. -/
theorem IsStrongest.beats (hk : C.IsStrongest k) (hi : i ≠ k) :
    (C.members k).Beats (C.members i) (C.members i).rung :=
  hk i hi

/-- No announcement makes the strongest member stand by. -/
theorem IsStrongest.turn_ne (hk : C.IsStrongest k) (j : Fin n) (st : Stage)
    (hst : st ≠ .standsBy) : C.turn k j st ≠ .standsBy := by
  by_cases hj : j = k
  · rw [hj, turn_self]
    -- Its own echo may lift it, and does nothing else.
    cases st with
    | onRung =>
      rw [Contender.echoed]
      split <;> exact nofun
    | lifted => exact nofun
    | standsBy => exact absurd rfl hst
  · rw [turn_of_ne hj]
    obtain ⟨hrung, hnext⟩ := hk.not_beats hj
    cases st with
    | onRung =>
      rw [Contender.challenged, if_neg hrung]
      exact nofun
    | lifted =>
      rw [Contender.challenged, if_neg hnext]
      exact nofun
    | standsBy => exact absurd rfl hst

/-- The strongest member does not stand by, whatever it has heard. -/
theorem IsStrongest.stage_ne (hk : C.IsStrongest k) (hs : List (Hearing n)) :
    C.stage k hs ≠ .standsBy :=
  stage_induction nofun hk.turn_ne hs

/-- Who is not lifted by its echo stays on its rung or gives way. -/
theorem turn_ne_lifted (hi : ¬ (C.members i).EchoLifts) (j : Fin n) (st : Stage)
    (hst : st ≠ .lifted) : C.turn i j st ≠ .lifted := by
  by_cases hj : j = i
  · rw [hj, turn_self]
    cases st with
    | onRung =>
      rw [Contender.echoed, if_neg hi]
      exact nofun
    | lifted => exact absurd rfl hst
    | standsBy => exact nofun
  · rw [turn_of_ne hj]
    cases st with
    | onRung =>
      rw [Contender.challenged]
      split <;> exact nofun
    | lifted => exact absurd rfl hst
    | standsBy => exact nofun

/-- Who is not lifted by its echo is not, whatever it has heard. -/
theorem stage_ne_lifted (hi : ¬ (C.members i).EchoLifts) (hs : List (Hearing n)) :
    C.stage i hs ≠ .lifted :=
  stage_induction nofun (turn_ne_lifted hi) hs

/-- Who is not lifted by its echo gives way to the strongest member when it hears it, and nothing
that it hears after that can change it. -/
theorem IsStrongest.stage_of_heard (hk : C.IsStrongest k) (hi : i ≠ k)
    (hlifts : ¬ (C.members i).EchoLifts) (hs : List (Hearing n))
    (hheard : ∃ now, ⟨i, k, now⟩ ∈ hs) : C.stage i hs = .standsBy := by
  induction hs using List.reverseRecOn with
  | nil =>
    obtain ⟨_, hmem⟩ := hheard
    exact absurd hmem List.not_mem_nil
  | append_singleton hs h ih =>
    rw [stage_append_singleton]
    obtain ⟨now, hmem⟩ := hheard
    rcases List.mem_append.mp hmem with hmem | hmem
    · rw [ih ⟨now, hmem⟩, turn_standsBy, ite_self]
    · -- It hears it now, on its rung or after it has given way to another one.
      obtain rfl := List.mem_singleton.mp hmem
      rw [if_pos rfl, turn_of_ne (Ne.symm hi)]
      cases hst : C.stage i hs with
      | onRung => exact if_pos (hk.beats hi)
      | lifted => exact absurd hst (stage_ne_lifted hlifts hs)
      | standsBy => rfl

/-! ### What comes of a contest -/

/-- The stage of a member tells its standing. -/
theorem standing_heard (C : Contest n) (i : Fin n) (hs : List (Hearing n)) :
    (C.after hs i).standing = (C.members i).standingAt (C.stage i hs) :=
  (C.standsAt_heard i hs).standing

/-- The strongest member goes on, on its rung or on the next one. -/
theorem IsStrongest.goes_on (hk : C.IsStrongest k) (hs : List (Hearing n)) :
    (C.after hs k).standing.isContending = true ∨ (C.after hs k).standing = .active := by
  rw [standing_heard]
  cases hst : C.stage k hs with
  | onRung => exact Or.inl (C.members k).isContending
  | lifted =>
    rcases (C.members k).standing_cases with hs | hs | hs <;> simp [Contender.standingAt, hs] <;>
      decide
  | standsBy => exact absurd hst (hk.stage_ne hs)

/-- Any number of contenders with different ids, on any of the rungs past the first, hear each
other's announcements and their own, in any order and each any number of times. There is one that
has announced the highest rung and among those has the lowest id. It never stands by: it stays on
its rung, or its echo lifts it to the next one. Every other one that its own echo does not lift
stands by from when it has heard this one. -/
theorem strongest_prevails (C : Contest (n + 1)) :
    ∃ k, C.IsStrongest k ∧ (∀ i, C.IsStrongest i → i = k) ∧ ∀ hs : List (Hearing (n + 1)),
      ((C.after hs k).standing.isContending = true ∨ (C.after hs k).standing = .active) ∧
        ∀ i, i ≠ k →
          (C.members i).candidate.attempts ≤ (C.members i).candidate.policy.minAttempts →
          (∃ now, ⟨i, k, now⟩ ∈ hs) → (C.after hs i).standing = .inactive := by
  obtain ⟨k, hk, honly⟩ := C.existsUnique_strongest
  refine ⟨k, hk, honly, fun hs => ⟨hk.goes_on hs, fun i hi hfew hheard => ?_⟩⟩
  rw [standing_heard, hk.stage_of_heard hi (UInt32.not_lt.mpr hfew) hs hheard]
  rfl

/-- An echo lifts after two polls. -/
def patient : ElectionPolicy :=
  { ElectionPolicy.participating with minAttempts := 1, pollJitter := 0 }

/-- An echo lifts after one poll. -/
def hasty : ElectionPolicy := { patient with minAttempts := 0 }

/-- An instance that hears nothing but its own announcements gets to the first rung past the foot of
the ladder. -/
def footing (id : String) : List Candidate.Event :=
  [.poll 1000000000 0, .process true id "WhoIsMaster" 1000000000, .poll 6000000000 0,
   .poll 11000000000 0, .process true id "WhoIsMaster" 11000000000]

/-- It gets from there to the next rung. -/
def onwards (id : String) : List Candidate.Event :=
  [.poll 16000000000 0, .poll 21000000000 0, .process true id "RequestingControl1" 21000000000]

/-- What the three announce when they poll after their histories. -/
theorem announced_by_climbers :
    Contender.announcementAfter "a" patient (footing "a") 16000000000 =
        some .requestingControl1 ∧
      Contender.announcementAfter "b" hasty (footing "b" ++ onwards "b") 26000000000 =
        some .requestingControl2 ∧
      Contender.announcementAfter "c" patient (footing "c" ++ onwards "c") 26000000000 =
        some .requestingControl2 := by
  decide +kernel

/-- "b" and "c" are a rung above "a", and the echo of "b" lifts it. -/
def climbers : Fin 3 → Contender
  | 0 => .ofHistory "a" patient (footing "a") 16000000000 .requestingControl1
      announced_by_climbers.1 rfl
  | 1 => .ofHistory "b" hasty (footing "b" ++ onwards "b") 26000000000 .requestingControl2
      announced_by_climbers.2.1 rfl
  | 2 => .ofHistory "c" patient (footing "c" ++ onwards "c") 26000000000 .requestingControl2
      announced_by_climbers.2.2 rfl

/-- The three have different ids. -/
theorem injective_climbers : Function.Injective fun i => (climbers i).id := by
  unfold Function.Injective
  decide +kernel

/-- The three in a contest. -/
def three : Contest 3 := ⟨climbers, injective_climbers⟩

/-- Of the three, "b" prevails over the others. -/
theorem second_of_three_prevails :
    let hs : List (Hearing 3) :=
      [⟨1, 1, 26000000000⟩, ⟨1, 2, 26000000000⟩, ⟨2, 1, 26000000000⟩, ⟨1, 0, 27000000000⟩,
       ⟨0, 1, 27000000000⟩, ⟨0, 0, 28000000000⟩]
    three.IsStrongest 1 ∧
      ((three.after hs 1).standing.isContending = true ∨ (three.after hs 1).standing = .active) ∧
      (three.after hs 0).standing = .inactive ∧ (three.after hs 2).standing = .inactive := by
  have hstrongest : three.IsStrongest 1 := by
    unfold IsStrongest
    decide +kernel
  obtain ⟨k, -, honly, hprevails⟩ := strongest_prevails three
  obtain rfl := honly 1 hstrongest
  intro hs
  obtain ⟨hgoes, hyields⟩ := hprevails hs
  exact ⟨hstrongest, hgoes,
    hyields 0 (by decide) (by decide +kernel) ⟨27000000000, by simp [hs]⟩,
    hyields 2 (by decide) (by decide +kernel) ⟨26000000000, by simp [hs]⟩⟩

/-! ### Two contenders on the same rung -/

/-- Whose announcement a member hears first. -/
def firstSpeaker (i : Fin n) (hs : List (Hearing n)) : Option (Fin n) :=
  (hs.find? fun h => h.addressee = i).map Hearing.speaker

/-- The first announcement that a member hears stays the first. -/
theorem firstSpeaker_append_singleton : firstSpeaker i (hs ++ [h]) =
    if h.addressee = i then (firstSpeaker i hs).or (some h.speaker) else firstSpeaker i hs := by
  unfold firstSpeaker
  rw [List.find?_append]
  by_cases hi : h.addressee = i <;> simp [hi]

/-- Who has heard anything has heard something first. -/
theorem firstSpeaker_isSome (hheard : ∃ j now, ⟨i, j, now⟩ ∈ hs) :
    (firstSpeaker i hs).isSome = true := by
  obtain ⟨j, now, hmem⟩ := hheard
  rw [firstSpeaker, Option.isSome_map, List.find?_isSome]
  exact ⟨_, hmem, by simp⟩

/-- Contenders that announce the same are on the same rung. -/
theorem standing_eq_of_announced_eq {x y : Contender} (h : x.announced = y.announced) :
    x.candidate.standing = y.candidate.standing := by
  have hx := x.senderStanding?_eq
  rw [h, y.senderStanding?_eq] at hx
  exact (Option.some.inj hx).symm

/-- Of two members on the same rung the one with the lower id is the strongest. -/
theorem isStrongest_of_level {C : Contest 2} {low high : Fin 2}
    (hid : (C.members low).id < (C.members high).id)
    (hlevel : (C.members low).announced = (C.members high).announced) : C.IsStrongest low := by
  intro i hi
  have hne : low ≠ high := fun heq => String.lt_irrefl _ (heq ▸ hid)
  obtain rfl : i = high := by omega
  refine Or.inr ⟨?_, hid⟩
  rw [Contender.rung, Contender.rung, standing_eq_of_announced_eq hlevel]

/-- A member whose echo can lift it is lifted if it hears its own announcement first, and then stays
where it is. It stands by if it hears first of a stronger one on its rung. -/
theorem stage_of_echoLifts {C : Contest 2} {low high : Fin 2} (hlow : C.IsStrongest low)
    (hne : high ≠ low) (hlevel : (C.members low).rung = (C.members high).rung)
    (hlifts : (C.members high).EchoLifts) (hs : List (Hearing 2)) :
    C.stage high hs = match firstSpeaker high hs with
      | none => .onRung
      | some j => if j = high then .lifted else .standsBy := by
  have hlifted : C.turn high high .onRung = .lifted := by
    rw [turn_self, Contender.echoed, if_pos hlifts]
  have hyields : C.turn high low .onRung = .standsBy := by
    rw [turn_of_ne (Ne.symm hne), Contender.challenged, if_pos (hlow.beats hne)]
  -- Its rival has announced the rung below.
  have hstays : ∀ j, C.turn high j .lifted = .lifted := by
    intro j
    have hbeats : ¬ (C.members low).Beats (C.members high) ((C.members high).rung + 1) := by
      unfold Contender.Beats
      omega
    rcases (by omega : j = high ∨ j = low) with rfl | rfl
    · rw [turn_self, Contender.echoed]
    · rw [turn_of_ne (Ne.symm hne), Contender.challenged, if_neg hbeats]
  -- The first hearing takes it from its rung, and none after that moves it.
  induction hs using List.reverseRecOn with
  | nil => rfl
  | append_singleton hs h ih =>
    rw [stage_append_singleton, firstSpeaker_append_singleton]
    split
    · cases hfirst : firstSpeaker high hs with
      | none =>
        rw [ih, hfirst, Option.none_or]
        rcases (by omega : h.speaker = high ∨ h.speaker = low) with hj | hj
        · rw [hj, hlifted]
          exact (if_pos rfl).symm
        · rw [hj, hyields]
          exact (if_neg (Ne.symm hne)).symm
      | some j =>
        rw [ih, hfirst, Option.some_or]
        dsimp only
        split
        · exact hstays h.speaker
        · exact turn_standsBy high h.speaker
    · exact ih

/-- Two contenders with different ids have announced the same rung, and each of them hears both
announcements, in any order and each any number of times. The one with the lower id goes on. The
other one stands by, unless it has polled often enough for its own echo to lift it, and hears its
own announcement before that of its rival: then it is lifted to the next rung and stays there. -/
theorem separates_level_iff (C : Contest 2) {low high : Fin 2}
    (hid : (C.members low).id < (C.members high).id)
    (hlevel : (C.members low).announced = (C.members high).announced) {hs : List (Hearing 2)}
    (hheard : ∀ i j, ∃ now, ⟨i, j, now⟩ ∈ hs) :
    ((C.after hs low).standing.isContending = true ∨ (C.after hs low).standing = .active) ∧
      ((C.after hs high).standing = .inactive ↔
        ¬ ((C.members high).EchoLifts ∧ firstSpeaker high hs = some high)) ∧
      ((C.members high).EchoLifts ∧ firstSpeaker high hs = some high →
        (C.after hs high).standing = (C.members high).candidate.standing.next) := by
  have hlow := isStrongest_of_level hid hlevel
  have hne : high ≠ low := fun heq => String.lt_irrefl _ (heq ▸ hid)
  have hrung : (C.members low).rung = (C.members high).rung := by
    rw [Contender.rung, Contender.rung, standing_eq_of_announced_eq hlevel]
  -- Where the one with the higher id is in the end.
  have hlifted : (C.members high).EchoLifts ∧ firstSpeaker high hs = some high →
      C.stage high hs = .lifted := by
    rintro ⟨hlifts, hfirst⟩
    rw [stage_of_echoLifts hlow hne hrung hlifts, hfirst]
    exact if_pos rfl
  have hyields : ¬ ((C.members high).EchoLifts ∧ firstSpeaker high hs = some high) →
      C.stage high hs = .standsBy := by
    intro hnot
    -- If its echo can lift it, what it hears first decides; if not, it gives way when it hears its
    -- rival.
    by_cases hlifts : (C.members high).EchoLifts
    · obtain ⟨j, hfirst⟩ := Option.isSome_iff_exists.mp (firstSpeaker_isSome ⟨low, hheard high low⟩)
      rw [stage_of_echoLifts hlow hne hrung hlifts, hfirst]
      exact if_neg fun hj => hnot ⟨hlifts, by rw [hfirst, hj]⟩
    · exact hlow.stage_of_heard hne hlifts hs (hheard high low)
  have hnext : (C.members high).candidate.standing.next ≠ .inactive := by
    rcases (C.members high).standing_cases with hs | hs | hs <;> rw [hs] <;> decide
  refine ⟨hlow.goes_on hs, ⟨fun hinactive hlifts => ?_, fun hnot => ?_⟩, fun hlifts => ?_⟩
  · rw [standing_heard, hlifted hlifts] at hinactive
    exact hnext hinactive
  · rw [standing_heard, hyields hnot]
    rfl
  · rw [standing_heard, hlifted hlifts]
    rfl

/-- What the two announce when they poll after their histories. -/
theorem announced_by_pair :
    Contender.announcementAfter "a" hasty (footing "a") 16000000000 =
        some .requestingControl1 ∧
      Contender.announcementAfter "b" hasty (footing "b") 16000000000 =
        some .requestingControl1 := by
  decide +kernel

/-- "a" and "b" are on the same rung, and their echoes can lift them. -/
def pair : Fin 2 → Contender
  | 0 => .ofHistory "a" hasty (footing "a") 16000000000 .requestingControl1
      announced_by_pair.1 rfl
  | 1 => .ofHistory "b" hasty (footing "b") 16000000000 .requestingControl1
      announced_by_pair.2 rfl

/-- The two have different ids. -/
theorem injective_pair : Function.Injective fun i => (pair i).id := by
  unfold Function.Injective
  decide +kernel

/-- The two in a contest. -/
def level : Contest 2 := ⟨pair, injective_pair⟩

/-- "b" hears of "a" before it hears its echo. -/
def rivalFirst : List (Hearing 2) :=
  [⟨0, 0, 16000000000⟩, ⟨0, 1, 16000000000⟩, ⟨1, 0, 16000000000⟩, ⟨1, 1, 16000000000⟩]

/-- "b" hears its echo before it hears of "a". -/
def echoFirst : List (Hearing 2) :=
  [⟨0, 0, 16000000000⟩, ⟨0, 1, 16000000000⟩, ⟨1, 1, 16000000000⟩, ⟨1, 0, 16000000000⟩]

/-- What "b" hears first decides whether it stands by. -/
theorem separates_level_in_order :
    (level.after rivalFirst 1).standing = .inactive ∧
      (level.after echoFirst 1).standing = .requesting2 := by
  have hid : (level.members 0).id < (level.members 1).id := by decide +kernel
  have hrival : ∀ i j, (⟨i, j, 16000000000⟩ : Hearing 2) ∈ rivalFirst := by decide
  have hecho : ∀ i j, (⟨i, j, 16000000000⟩ : Hearing 2) ∈ echoFirst := by decide
  obtain ⟨-, hyields, -⟩ :=
    separates_level_iff level hid rfl fun i j => ⟨16000000000, hrival i j⟩
  obtain ⟨-, -, hlifted⟩ := separates_level_iff level hid rfl fun i j => ⟨16000000000, hecho i j⟩
  exact ⟨hyields.mpr fun hfirst => absurd hfirst.2 (by decide), hlifted (by decide +kernel)⟩

/-- "a" and "b" poll without jitter, are on the same rung, have announced it and have heard both
announcements. Both of them are still on the ladder. -/
theorem level_climb_together :
    (∀ i, (level.members i).candidate.policy.pollJitter = 0) ∧
      (level.members 0).id < (level.members 1).id ∧
      (level.members 0).announced = (level.members 1).announced ∧
      (∀ i j, ⟨i, j, 16000000000⟩ ∈ echoFirst) ∧
      (level.after echoFirst 0).standing = .requesting2 ∧
      (level.after echoFirst 1).standing = .requesting2 := by
  decide +kernel

end Contest

end CommandMesh
