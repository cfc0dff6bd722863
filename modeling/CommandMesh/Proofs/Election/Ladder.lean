import CommandMesh.Proofs.Election.Candidate

/-!
# `CommandMesh.Proofs.Election.Ladder`: how a candidate climbs that nobody stops

A candidate that hears the echo of each of its polls and gives way to nobody climbs by a fixed plan:
one round for the first echo, which shows that it is heard at all, and then `m + 1` rounds on each
of the four rungs, where `m` is the number of polls after which an echo does not lift yet.
`Position.reached m k` is where it stands after `k` rounds. Being a plain recursion on the number of
rounds, it can be computed and reasoned about without any candidate.

A candidate that is at such a position is related to it by `Candidate.StandsAt`. The polls are
counted in a word of 32 bits, and for a master the count has no meaning; it grows with every poll
and may wrap. On every other rung the count is at most `m`, so it is enough that `m + 1` fits, or
that fewer polls than a word can count were made, as the theorems that use this assume.

Between a poll and its echo a candidate is at `Position.polled`, and after the echo at
`Position.echoed`. An echo may come twice in a round, so the lemmas also say that hearing the same
once more changes nothing. No assumption is made about when polls are due; a poll that is due is a
hypothesis of the lemmas about polls.

The other half of the module is about those who stay behind. `Candidate.Lags m` says that a
candidate stands by or has hardly begun: it is on one of the first two rungs with at most `m` polls.
Such a candidate is not lifted by its echoes, and it gives way to a lower id that is past the first
rung. Announcements that somebody stands by or resigns are excluded there, because a resignation
starts those again who stand by.

The theorems:

* `Position.reached_isAhead`, `Position.reached_active`: when a candidate is past the first rung,
  and when it is master.
* `Candidate.StandsAt.poll`, `Candidate.StandsAt.hearEcho`: polls and echoes bring a candidate from
  one position to the next.
* `Candidate.hear_of_isAhead`: a candidate past the first rung does not give way to higher ids that
  are not.
* `Candidate.Lags.hear`, `Candidate.Lags.hear_ahead`: a candidate that stands by or has hardly begun
  never climbs, and gives way to a lower id past the first rung.
-/

set_option autoImplicit false

namespace CommandMesh

namespace Standing

/-- The next rung. -/
def next : Standing → Standing
  | starting => requesting1
  | requesting1 => requesting2
  | requesting2 => takingControl
  | takingControl => active
  | s => s

/-- Whether an instance that nobody stops is master in the end. -/
def climbs : Standing → Bool
  | disabled | inactive => false
  | _ => true

/-- Whether an instance is past the first rung. -/
def isAhead : Standing → Bool
  | requesting1 | requesting2 | takingControl | active => true
  | _ => false

/-- Who is past the first rung is so one rung up. -/
theorem isAhead_next {s : Standing} (h : s.isAhead = true) : s.next.isAhead = true := by
  cases s <;> first | rfl | exact absurd h (by decide)

/-- Who climbs goes on to climb one rung up. -/
theorem climbs_next {s : Standing} (h : s.climbs = true) : s.next.climbs = true := by
  cases s <;> first | rfl | exact absurd h (by decide)

/-- Who has come past the first rung takes part in the election. -/
theorem ne_disabled_of_isAhead {s : Standing} (h : s.isAhead = true) : s ≠ .disabled := by
  rintro rfl
  exact absurd h (by decide)

/-- Who has come past the first rung has something to announce. -/
theorem ofStanding?_of_isAhead {s : Standing} (h : s.isAhead = true) :
    ∃ a, Announcement.ofStanding? s = some a := by
  cases s <;> first | exact ⟨_, rfl⟩ | exact absurd h (by decide)

/-- A contender knows that it is heard and is not master yet. -/
theorem ne_of_isContending {s : Standing} (h : s.isContending = true) :
    s ≠ .verifying ∧ s ≠ .active := by
  constructor <;> rintro rfl <;> exact absurd h (by decide)

/-- A contender that climbs asks for something else. -/
theorem ofStanding?_next_ne {s : Standing} (h : s.isContending = true) :
    Announcement.ofStanding? s.next ≠ Announcement.ofStanding? s := by
  cases s <;> first | decide | exact absurd h (by decide)

/-- No rung leads back to the time before the first echo. -/
theorem next_ne_verifying {s : Standing} (h : s.isContending = true) : s.next ≠ .verifying := by
  cases s <;> first | decide | exact absurd h (by decide)

end Standing

/-- A rung and how many polls were made on it. -/
structure Position where
  standing : Standing
  attempts : Nat

namespace Position

/-- The position after a poll. -/
def polled (p : Position) : Position :=
  ⟨p.standing, if p.standing = .verifying then p.attempts else p.attempts + 1⟩

/-- The position after a poll and its echo, if echoes lift after more than `m` polls. -/
def echoed (m : Nat) (p : Position) : Position :=
  if p.standing = .verifying then ⟨.starting, 0⟩
  else if p.attempts + 1 ≤ m then ⟨p.standing, p.attempts + 1⟩
  else ⟨p.standing.next, 0⟩

/-- The position after `k` polls and their echoes. -/
def reached (m : Nat) : Nat → Position
  | 0 => ⟨.verifying, 0⟩
  | k + 1 => (reached m k).echoed m

variable {m k : Nat} {p : Position}

/-- A poll is counted on every rung. -/
theorem polled_of_ne {s : Standing} (hs : s ≠ .verifying) (i : Nat) :
    polled ⟨s, i⟩ = ⟨s, i + 1⟩ := by
  simp [polled, hs]

/-- The echo of one of the first `m` polls on a rung does not lift. -/
theorem echoed_of_le {s : Standing} (hs : s ≠ .verifying) {i : Nat} (h : i + 1 ≤ m) :
    echoed m ⟨s, i⟩ = ⟨s, i + 1⟩ := by
  simp [echoed, hs, h]

/-- The echo of a later poll lifts to the next rung, where polls are counted afresh. -/
theorem echoed_of_not_le {s : Standing} (hs : s ≠ .verifying) {i : Nat} (h : ¬ i + 1 ≤ m) :
    echoed m ⟨s, i⟩ = ⟨s.next, 0⟩ := by
  simp [echoed, hs, h]

/-- Who is past the first rung stays past it after one more round. -/
theorem isAhead_echoed (h : p.standing.isAhead = true) :
    (p.echoed m).standing.isAhead = true := by
  unfold echoed
  split
  · rename_i hverifying
    rw [hverifying] at h
    exact absurd h (by decide)
  · split
    · exact h
    · exact Standing.isAhead_next h

/-- A master stays master after one more round. -/
theorem active_echoed (h : p.standing = .active) : (p.echoed m).standing = .active := by
  unfold echoed
  rw [h, if_neg (by simp)]
  split <;> rfl

/-- Polls are counted afresh on every rung. -/
theorem attempts_reached_le (m k : Nat) : (reached m k).attempts ≤ k := by
  induction k with
  | zero => exact Nat.le_refl 0
  | succ k ih =>
    unfold reached echoed
    split
    · exact Nat.zero_le _
    · split
      · exact Nat.succ_le_succ ih
      · exact Nat.zero_le _

/-- A candidate that nobody stops is never out of the election and never stands by. -/
theorem climbs_reached (m k : Nat) : (reached m k).standing.climbs = true := by
  induction k with
  | zero => rfl
  | succ k ih =>
    -- The round may put it on the ladder, count one poll more or lift it.
    unfold reached echoed
    split
    · rfl
    · split
      · exact ih
      · exact Standing.climbs_next ih

/-- On a rung the polls are counted until there are `m` of them. -/
theorem reached_add {s : Standing} (hs : s ≠ .verifying) (h : reached m k = ⟨s, 0⟩) :
    ∀ i ≤ m, reached m (k + i) = ⟨s, i⟩ := by
  intro i hi
  induction i with
  | zero => exact h
  | succ i ih =>
    have hi' : i + 1 ≤ m := hi
    rw [← Nat.add_assoc, reached, ih (by omega), echoed_of_le hs hi']

/-- One more poll lifts to the next rung. -/
theorem reached_next {s : Standing} (hs : s ≠ .verifying) (h : reached m k = ⟨s, 0⟩) :
    reached m (k + (m + 1)) = ⟨s.next, 0⟩ := by
  rw [← Nat.add_assoc, reached, reached_add hs h m (Nat.le_refl m),
    echoed_of_not_le hs (Nat.not_succ_le_self m)]

/-- After the first round the candidate is on the first rung, for `m + 1` rounds. -/
theorem reached_starting (h : k ≤ m) : reached m (k + 1) = ⟨.starting, k⟩ := by
  rw [Nat.add_comm]
  exact reached_add (by simp) rfl k h

/-- The second rung is reached after the first echo and `m + 1` rounds on the first. -/
theorem reached_requesting1 (m : Nat) : reached m (m + 2) = ⟨.requesting1, 0⟩ := by
  rw [show m + 2 = 1 + (m + 1) by omega]
  exact reached_next (s := .starting) (by simp) rfl

/-- Past the first rung it stays past it. -/
theorem reached_isAhead (h : m + 2 ≤ k) : (reached m k).standing.isAhead = true := by
  induction h with
  | refl => rw [reached_requesting1, Standing.isAhead]
  | step _ ih => exact isAhead_echoed ih

/-- A candidate that nobody stops is master after `m + 1` rounds on each of the four rungs, and
stays it. -/
theorem reached_active (h : 1 + 4 * (m + 1) ≤ k) : (reached m k).standing = .active := by
  induction h with
  | refl =>
    -- One stretch of `m + 1` rounds for each rung.
    have h₁ : reached m 1 = ⟨.starting, 0⟩ := rfl
    have h₂ := reached_next (by simp) h₁
    have h₃ := reached_next (by simp [Standing.next]) h₂
    have h₄ := reached_next (by simp [Standing.next]) h₃
    have h₅ := reached_next (by simp [Standing.next]) h₄
    rw [show 1 + 4 * (m + 1) = 1 + (m + 1) + (m + 1) + (m + 1) + (m + 1) by omega, h₅]
    rfl
  | step _ ih => exact active_echoed ih

end Position

namespace Candidate

variable {c : Candidate} {p : Position} {now : Instant}

/-- The candidate is at that position. The polls of a master do not count. -/
def StandsAt (c : Candidate) (p : Position) : Prop :=
  c.standing = p.standing ∧ (p.standing = .active ∨ c.attempts.toNat = p.attempts)

/-- A poll that is due is announced as the rung asks for, and counted. -/
theorem StandsAt.poll (h : c.StandsAt p) (hp : p.standing.climbs = true)
    (hfew : p.attempts + 1 < UInt32.size) (hdue : c.nextPoll ≤ now) (draw : Nat) :
    (c.poll now draw).1.StandsAt p.polled ∧
      (c.poll now draw).2 = Announcement.ofStanding? p.standing := by
  obtain ⟨hstanding, hattempts⟩ := h
  have hclimbs : c.standing.climbs = true := hstanding ▸ hp
  have hdisabled : c.standing ≠ .disabled := by
    intro hs
    simp [hs, Standing.climbs] at hclimbs
  have hinactive : c.standing ≠ .inactive := by
    intro hs
    simp [hs, Standing.climbs] at hclimbs
  rw [poll_of_due hdisabled hdue, restart_of_ne_inactive hinactive]
  refine ⟨⟨hstanding, hattempts.imp id fun hcount => ?_⟩, by rw [hstanding]⟩
  unfold polled Position.polled
  by_cases hverifying : c.standing = .verifying
  · simp [← hstanding, hverifying, hcount]
  · simp only [← hstanding, hverifying, if_false, UInt32.toNat_add, hcount]
    -- The count of polls does not wrap around.
    exact Nat.mod_eq_of_lt hfew

/-- A master hears its own announcements with no effect. -/
theorem hearEcho_of_active (h : c.standing = .active) (a : Announcement) (now : Instant) :
    c.hearEcho a now = (c, []) := by
  simp [hearEcho, h]

/-- The first echo, of whatever announcement, puts a candidate on the ladder. -/
theorem hearEcho_of_verifying (h : c.standing = .verifying) (a : Announcement) (now : Instant) :
    c.hearEcho a now = (c.transition .starting now, []) := by
  simp [hearEcho, h]

/-- An echo has no effect before there were enough polls on the rung. -/
theorem hearEcho_of_attempts_le (h : c.standing ≠ .verifying)
    (hfew : c.attempts ≤ c.policy.minAttempts) (a : Announcement) (now : Instant) :
    c.hearEcho a now = (c, []) := by
  simp [hearEcho, h, hfew]

/-- The echo of what another rung announces has no effect. -/
theorem hearEcho_of_ne {a : Announcement} (h : c.standing ≠ .verifying)
    (ha : Announcement.ofStanding? c.standing ≠ some a) (now : Instant) :
    c.hearEcho a now = (c, []) := by
  simp [hearEcho, h, ha]

/-- An echo lifts a contender that has polled often enough to the next rung. -/
theorem hearEcho_of_contending {a : Announcement} (h : c.standing.isContending = true)
    (ha : Announcement.ofStanding? c.standing = some a)
    (hmany : ¬ c.attempts ≤ c.policy.minAttempts) (now : Instant) :
    (c.hearEcho a now).1.standing = c.standing.next ∧ (c.hearEcho a now).1.attempts = 0 ∧
      (c.hearEcho a now).2 = if c.standing = .takingControl then [.promoted] else [] := by
  have hverifying : c.standing ≠ .verifying := by
    intro hs
    simp [hs, Standing.isContending] at h
  have hlift : ¬ (Announcement.ofStanding? c.standing ≠ some a ∨
      c.attempts ≤ c.policy.minAttempts) := by
    simp [ha, hmany]
  unfold hearEcho
  rw [if_neg hverifying, if_neg hlift]
  cases hs : c.standing with
  | starting | requesting1 | requesting2 => simp [hs, Standing.next]
  | takingControl =>
    simp [hs, Standing.next, activate, promote]
  | disabled | verifying | inactive | active => simp [hs, Standing.isContending] at h

/-- What comes of an echo that `c` hears: it is at this position, and it says nothing, unless it has
become master. -/
def LiftedTo (c : Candidate) (p : Position) (heard : Candidate × List Consequence) : Prop :=
  heard.1.StandsAt p ∧
    (heard.2 = [] ∧ (heard.1.standing = .active → c.standing = .active) ∨
      heard.2 = [.promoted] ∧ heard.1.standing = .active)

/-- A candidate that is left at a position, with nothing to say, has been lifted to it. -/
theorem StandsAt.liftedTo (h : c.StandsAt p) : c.LiftedTo p (c, []) := ⟨h, Or.inl ⟨rfl, id⟩⟩

/-- The first echo puts a candidate on the ladder, and the same once more changes nothing. -/
theorem liftedTo_starting {a : Announcement}
    (h : c.standing = .verifying ∨ c.StandsAt ⟨.starting, 0⟩) (now : Instant) :
    c.LiftedTo ⟨.starting, 0⟩ (c.hearEcho a now) := by
  rcases h with hs | h
  · rw [hearEcho_of_verifying hs]
    exact ⟨⟨standing_transition _ _ _, Or.inr (by simp [hs])⟩, Or.inl ⟨rfl, by simp⟩⟩
  · have hcount : c.attempts.toNat = 0 := h.2.resolve_left (by simp)
    have hfew : c.attempts ≤ c.policy.minAttempts :=
      UInt32.le_iff_toNat_le.mpr (hcount ▸ Nat.zero_le _)
    rw [hearEcho_of_attempts_le (by simp [h.1]) hfew]
    exact h.liftedTo

/-- The echo of one of the first polls on a rung leaves a contender where it is. -/
theorem liftedTo_same {a : Announcement} {s : Standing} {i : Nat} (hs : s.isContending = true)
    (h : c.StandsAt ⟨s, i⟩) (hfew : i ≤ c.policy.minAttempts.toNat) (now : Instant) :
    c.LiftedTo ⟨s, i⟩ (c.hearEcho a now) := by
  obtain ⟨hverifying, hactive⟩ := Standing.ne_of_isContending hs
  have hcount : c.attempts.toNat = i := h.2.resolve_left hactive
  have hverifying : c.standing ≠ .verifying := h.1 ▸ hverifying
  rw [hearEcho_of_attempts_le hverifying (UInt32.le_iff_toNat_le.mpr (hcount ▸ hfew))]
  exact h.liftedTo

/-- The echo of a later poll lifts a contender to the next rung, and the same once more changes
nothing. -/
theorem liftedTo_next {a : Announcement} {s : Standing} {i : Nat} (hs : s.isContending = true)
    (ha : Announcement.ofStanding? s = some a)
    (h : c.StandsAt ⟨s, i⟩ ∨ c.StandsAt ⟨s.next, 0⟩) (hmany : ¬ i ≤ c.policy.minAttempts.toNat)
    (now : Instant) : c.LiftedTo ⟨s.next, 0⟩ (c.hearEcho a now) := by
  -- The candidate has polled, and this echo lifts it.
  rcases h with ⟨rfl, hcount⟩ | h
  · have hcount : c.attempts.toNat = i := hcount.resolve_left (Standing.ne_of_isContending hs).2
    have hmany : ¬ c.attempts ≤ c.policy.minAttempts := by
      rwa [UInt32.le_iff_toNat_le, hcount]
    obtain ⟨hnext, hzero, hwords⟩ := hearEcho_of_contending hs ha hmany now
    refine ⟨⟨hnext, Or.inr (by rw [hzero]; rfl)⟩, ?_⟩
    rw [hwords, hnext]
    cases hst : c.standing with
    | takingControl => exact Or.inr ⟨rfl, rfl⟩
    | _ => exact Or.inl ⟨rfl, by decide⟩
  -- The candidate has climbed already, and this is not what its new rung asks for.
  · have hverifying : c.standing ≠ .verifying := h.1 ▸ Standing.next_ne_verifying hs
    have hother : Announcement.ofStanding? c.standing ≠ some a := by
      rw [h.1, ← ha]
      exact Standing.ofStanding?_next_ne hs
    rw [hearEcho_of_ne hverifying hother]
    exact h.liftedTo

/-- An echo brings a candidate that has polled to the next position, and leaves it there. -/
theorem StandsAt.hearEcho {a : Announcement} (hp : p.standing.climbs = true)
    (ha : Announcement.ofStanding? p.standing = some a)
    (h : c.StandsAt p.polled ∨ c.StandsAt (p.echoed c.policy.minAttempts.toNat)) (now : Instant) :
    c.LiftedTo (p.echoed c.policy.minAttempts.toNat) (c.hearEcho a now) := by
  -- The four rungs are alike; before them and above them echoes do something else or nothing.
  obtain ⟨s, i⟩ := p
  cases hs : s with
  | disabled | inactive => simp [hs, Standing.climbs] at hp
  | verifying =>
    subst hs
    exact liftedTo_starting (h.imp And.left id) now
  | active =>
    subst hs
    -- A master hears its own announcements with no effect, and its polls do not count.
    have hactive : c.standing = .active := by
      rcases h with h | h
      · exact h.1
      · exact h.1.trans (Position.active_echoed rfl)
    rw [hearEcho_of_active hactive]
    have hechoed : (Position.echoed c.policy.minAttempts.toNat ⟨.active, i⟩).standing = .active :=
      Position.active_echoed rfl
    exact StandsAt.liftedTo ⟨hactive.trans hechoed.symm, Or.inl hechoed⟩
  | starting | requesting1 | requesting2 | takingControl =>
    have hcontending : s.isContending = true := by rw [hs]; rfl
    have hverifying : s ≠ .verifying := by rw [hs]; decide
    rw [← hs]
    rw [Position.polled_of_ne hverifying] at h
    by_cases hfew : i + 1 ≤ c.policy.minAttempts.toNat
    · rw [Position.echoed_of_le hverifying hfew, or_self] at h
      rw [Position.echoed_of_le hverifying hfew]
      exact liftedTo_same hcontending h hfew now
    · rw [Position.echoed_of_not_le hverifying hfew] at h ⊢
      exact liftedTo_next hcontending ha h hfew now

/-! ### Giving way -/

/-- A candidate past the first rung stays where it is when an instance with a higher id asks who the
master is, or contends on the second rung. If it is master, it says so. -/
theorem hear_of_isAhead {sender : String} {a : Announcement} (h : c.standing.isAhead = true)
    (hlt : c.service < sender) (ha : a = .whoIsMaster ∨ a = .requestingControl1) (now : Instant) :
    c.hear false sender a now =
      (c.meet sender, if c.standing = .active then [.broadcast .iAmMaster] else []) := by
  have hdisabled : c.standing ≠ .disabled := Standing.ne_disabled_of_isAhead h
  rcases ha with rfl | rfl
  · exact hear_whoIsMaster hdisabled sender now
  · by_cases hactive : c.standing = .active
    · simp [hear, hearOther, hearContender_of_active hactive, hactive]
    · have hstays : c.yieldsTo sender .requestingControl1 = false := by
        cases hs : c.standing <;>
          simp_all [yieldsTo, Announcement.senderStanding?, Standing.rung?, Standing.isAhead,
            String.lt_asymm hlt]
      simp [hear, hdisabled, hearOther, hearContender_of_not_yieldsTo hactive hstays, hactive]

/-- The candidate stands by, or is on one of the first two rungs after `m` polls at most. -/
def Lags (m : Nat) (c : Candidate) : Prop :=
  c.standing = .inactive ∨
    (c.standing = .starting ∨ c.standing = .requesting1) ∧ c.attempts.toNat ≤ m

namespace Lags

variable {m : Nat}

/-- Who lags takes part in the election and is not master. -/
theorem ne (h : c.Lags m) : c.standing ≠ .disabled ∧ c.standing ≠ .active := by
  rcases h with hs | ⟨hs | hs, -⟩ <;> simp [hs]

/-- An echo does not lift who lags. -/
theorem hearEcho (h : c.Lags c.policy.minAttempts.toNat) (a : Announcement) (now : Instant) :
    c.hearEcho a now = (c, []) := by
  rcases h with hs | ⟨hs, hfew⟩
  · simp [Candidate.hearEcho, hs]
  · refine hearEcho_of_attempts_le ?_ (UInt32.le_iff_toNat_le.mpr hfew) a now
    rcases hs with hs | hs <;> simp [hs]

/-- A poll of who stands by, or has just come onto the second rung, leaves it behind, even if its
time of standing by is over. -/
theorem poll {draw : Nat} (h : c.standing = .inactive ∨ c.StandsAt ⟨.requesting1, 0⟩) (hm : 1 ≤ m)
    (hdue : c.nextPoll ≤ now) :
    (c.poll now draw).1.Lags m ∧ ((c.poll now draw).2 = some .whoIsMaster ∨
      (c.poll now draw).2 = some .requestingControl1) := by
  rcases h with hs | h
  · have hpoll := poll_of_due (by simp [hs]) hdue draw
    rw [hpoll]
    rcases c.restart_cases now with hsame | ⟨-, hstarting, hzero⟩
    · rw [hsame]
      exact ⟨Or.inl hs, Or.inl (by rw [hs]; rfl)⟩
    -- It starts again, and this poll is the first on the first rung.
    · refine ⟨Or.inr ⟨Or.inl hstarting, ?_⟩, Or.inl (by rw [hstarting]; rfl)⟩
      simpa [polled, hstarting, hzero] using hm
  · obtain ⟨⟨hs, hcount⟩, hwords⟩ := h.poll rfl (by decide) hdue draw
    refine ⟨Or.inr ⟨Or.inr hs, ?_⟩, Or.inr hwords⟩
    rw [hcount.resolve_left (by decide)]
    exact hm

/-- Who lags stays where it is or stands by, and says nothing, unless it hears of an instance that
stands by or has resigned. It learns of a master only from the master. -/
theorem hear {a : Announcement} (h : c.Lags c.policy.minAttempts.toNat)
    (hstandby : a ≠ .iAmStandby) (hresync : a ≠ .resyncMaster) (isSelf : Bool) (sender : String)
    (now : Instant) :
    (c.hear isSelf sender a now).2 = [] ∧
      ((c.hear isSelf sender a now).1.standing = .inactive ∨
        (c.hear isSelf sender a now).1.standing = c.standing ∧
          (c.hear isSelf sender a now).1.attempts = c.attempts) ∧
      (c.hear isSelf sender a now).1.knownMaster =
        if isSelf = false ∧ a = .iAmMaster then some sender else c.knownMaster := by
  obtain ⟨hdisabled, hactive⟩ := h.ne
  cases isSelf with
  | true =>
    have hecho := h.hearEcho a now
    simp [Candidate.hear, hdisabled, hecho]
  | false =>
    -- A contender makes it stand by or has no effect, whichever rung it is on.
    have hcontender : (c.hearContender sender a now).2 = [] ∧
        ((c.hearContender sender a now).1.standing = .inactive ∨
          (c.hearContender sender a now).1.standing = c.standing ∧
            (c.hearContender sender a now).1.attempts = c.attempts) ∧
        (c.hearContender sender a now).1.knownMaster = c.knownMaster := by
      cases hy : c.yieldsTo sender a with
      | true =>
        obtain ⟨hs, hknown, hwords⟩ := hearContender_of_yieldsTo hactive hy now
        exact ⟨hwords, Or.inl hs, hknown⟩
      | false =>
        rw [hearContender_of_not_yieldsTo hactive hy]
        simp
    simp only [Candidate.hear, if_neg hdisabled, Bool.false_eq_true, if_false]
    cases a with
    | iAmStandby => exact absurd rfl hstandby
    | resyncMaster => exact absurd rfl hresync
    | whoIsMaster => simp [hearOther, hactive]
    | requestingControl1 | requestingControl2 | takingControl =>
      exact ⟨hcontender.1, hcontender.2.1, by simpa [hearOther] using hcontender.2.2⟩
    | iAmMaster =>
      obtain ⟨hs, hknown, hwords⟩ := hearMaster_of_ne_active hactive sender now
      refine ⟨hwords, Or.inl ?_, by simpa [hearOther] using hknown⟩
      rw [hearOther, hs]
      -- Both rungs on which it may be are contended, so it gives way to the master.
      rcases h with hs | ⟨hs | hs, -⟩ <;> simp [hs, Standing.isContending]

/-- Who lags gives way to every contender with a lower id. -/
theorem yieldsTo {sender : String} {a : Announcement} (h : c.Lags m) (hlt : sender < c.service)
    (ha : a.senderStanding?.isSome = true) : c.yieldsTo sender a = true := by
  cases a with
  | whoIsMaster | iAmMaster | iAmStandby | resyncMaster => exact absurd ha (by decide)
  | requestingControl1 | requestingControl2 | takingControl =>
    rcases h with hs | ⟨hs | hs, -⟩ <;>
      simp [Candidate.yieldsTo, hs, Standing.rung?, Announcement.senderStanding?, hlt]

/-- Who lags stands by when it hears from a lower id past the first rung. -/
theorem hear_ahead {sender : String} {a : Announcement} {s : Standing} (h : c.Lags m)
    (hlt : sender < c.service) (hs : s.isAhead = true)
    (ha : Announcement.ofStanding? s = some a) (now : Instant) :
    (c.hear false sender a now).1.standing = .inactive := by
  obtain ⟨hdisabled, hactive⟩ := h.ne
  simp only [Candidate.hear, if_neg hdisabled, Bool.false_eq_true, if_false]
  cases s with
  | disabled | verifying | inactive | starting => exact absurd hs (by decide)
  | requesting1 | requesting2 | takingControl =>
    obtain rfl := Option.some.inj ha
    exact (hearContender_of_yieldsTo hactive (h.yieldsTo hlt rfl) now).1
  | active =>
    obtain rfl := Option.some.inj ha
    rw [hearOther, (hearMaster_of_ne_active hactive sender now).1]
    rcases h with hc | ⟨hc | hc, -⟩ <;> simp [hc, Standing.isContending]

end Lags

end Candidate

end CommandMesh
