import CommandMesh.Proofs.Election.Electorate
import CommandMesh.Proofs.Election.Ladder

/-!
# `CommandMesh.Proofs.Election.Lockstep`: in lockstep the lowest id is elected

Instances that were founded together, under one policy and with different ids, poll in rounds, and
everything that is announced in a round arrives in it, in any order. After every round nobody but
the instance with the lowest id is master, and after `1 + 4 * (m + 1)` rounds it is, where `m` is
the number of polls after which an echo does not lift yet.

What is assumed: the policy has no jitter, so that all polls of a round are due together; an echo
does not lift after the first poll on a rung (`1 ≤ m`); and there are fewer rounds than a word of 32
bits can count, which bounds the count of polls on a rung. The second assumption cannot be left out.
With `m = 0` two instances may lift each other up past the second rung before either has heard the
other one, as `Contest.level_climb_together` shows. Rounds need not be evenly spaced, only far
enough apart, and the moments at which announcements arrive are free.

The instances are the same until all of them are on the second rung, because each hears its own echo
and nothing else that matters: this is `Together`. In the next round all but the one with the lowest
id, the leader, give way, since whoever contends on the second rung gives way to a lower id there,
and nobody climbs on its first poll. From then on the leader climbs as if it were alone, and each of
the others either stands by or has yet to hear from the leader in the round: this is `Led`. One that
has stood by for its time starts again with one poll, which its echo does not lift, and gives way
again before the round is over.

Both hold at every moment of a round, whatever has arrived so far; an arrival keeps them, and when
nothing is on its way any more they become `Settled`, which is what a round starts from. The leader
and the others are followed separately in `Led`, for they hear different things: the leader hears
those behind it, and the others hear the leader.

The theorems:

* `Together.arrives`, `Led.arrives`: what holds during a round holds after every arrival, in
  whatever order they come.
* `Settled.together_pollAll`, `Settled.led_pollAll`: how a round begins.
* `Settled.round`: what holds after a round holds after the next one.
* `lowest_id_elected`: after every round no other instance is master than the leader, and after `1 +
  4 * (m + 1)` rounds the leader is, and the others know it.
-/

set_option autoImplicit false

namespace CommandMesh

namespace Electorate

/-- Instances of a command with these names and ids, founded together under one policy. -/
def founded {n : Nat} (names ids : Fin n → String) (policy : ElectionPolicy) (now : Instant) :
    Electorate n where
  members := fun i => .create (names i) (ids i) policy now

variable {n : Nat} {ids : Fin n → String} {policy : ElectionPolicy} {leader : Fin n}
  {s s' : Electorate n} {due now : Instant} {k : Nat} {a : Announcement}

/-! ### Who the members are -/

/-- The members have these ids and this policy, and no poll is due later than `due`. -/
structure Enrolled (ids : Fin n → String) (policy : ElectionPolicy) (due : Instant)
    (s : Electorate n) : Prop where
  service : ∀ i, (s.members i).service = ids i
  policy : ∀ i, (s.members i).policy = policy
  nextPoll : ∀ i, (s.members i).nextPoll ≤ due

/-- An arrival leaves the members who they are. -/
theorem Enrolled.arrives (h : Enrolled ids policy due s) (hs : Arrives s s') :
    Enrolled ids policy due s' := by
  obtain ⟨d, now, ha⟩ := hs.arrival
  exact {
    service := fun i => (ha.keeps i).service.trans (h.service i)
    policy := fun i => (ha.keeps i).policy.trans (h.policy i)
    nextPoll := fun i => (ha.keeps i).nextPoll ▸ h.nextPoll i }

/-- A poll without jitter is followed by the next one after the interval of the policy. -/
theorem Enrolled.pollAll (h : Enrolled ids policy due s) (hdue : due ≤ now)
    (hjitter : policy.pollJitter = 0) (henabled : ∀ i, (s.members i).standing ≠ .disabled)
    (draw : Fin n → Nat) : Enrolled ids policy (now + policy.pollSpan) (s.pollAll now draw) where
  service := fun i => ((s.members i).keeps_poll now (draw i)).1.trans (h.service i)
  policy := fun i => ((s.members i).keeps_poll now (draw i)).2.trans (h.policy i)
  nextPoll := by
    intro i
    have hpolicy : ((s.members i).restart now).policy = policy :=
      ((s.members i).keeps_restart now).policy.trans (h.policy i)
    show ((s.members i).poll now (draw i)).1.nextPoll ≤ _
    rw [Candidate.poll_of_due (henabled i) (Nat.le_trans (h.nextPoll i) hdue)]
    simp [Candidate.polled, Candidate.jitter, hpolicy, hjitter, Span.ofMillis, Nat.mod_one]

/-! ### On the first rung -/

/-- Where a candidate stands after `k` rounds that nobody stops. -/
abbrev reached (policy : ElectionPolicy) (k : Nat) : Position :=
  Position.reached policy.minAttempts.toNat k

/-- Who climbs takes part in the election. -/
theorem reached_ne_disabled (policy : ElectionPolicy) (k : Nat) :
    (reached policy k).standing ≠ .disabled := by
  intro hdisabled
  have hclimbs : (reached policy k).standing.climbs = true := Position.climbs_reached _ k
  rw [hdisabled] at hclimbs
  exact absurd hclimbs (by decide)

/-- The echo of its poll in a round brings a member to where it stands after the round. -/
theorem liftedTo_reached {c : Candidate} (hpolicy : c.policy = policy)
    (ha : Announcement.ofStanding? (reached policy k).standing = some a)
    (h : c.StandsAt (reached policy k).polled ∨ c.StandsAt (reached policy (k + 1)))
    (now : Instant) : c.LiftedTo (reached policy (k + 1)) (c.hearEcho a now) := by
  subst hpolicy
  exact Candidate.StandsAt.hearEcho (Position.climbs_reached _ k) ha h now

/-- During the round after `k` rounds every member has heard its echo or will hear it, and nothing
but questions for the master are on their way. -/
structure Together (ids : Fin n → String) (policy : ElectionPolicy) (k : Nat)
    (s : Electorate n) : Prop where
  climbing : ∀ i, (s.members i).StandsAt (reached policy k).polled ∧
      ⟨i, ids i, .whoIsMaster⟩ ∈ s.inFlight ∨
    (s.members i).StandsAt (reached policy (k + 1))
  quiet : ∀ d ∈ s.inFlight, d.announcement = .whoIsMaster

/-- Nobody is master before the second rung. -/
theorem reached_ne_active (hk : k ≤ policy.minAttempts.toNat + 2) :
    (reached policy k).standing ≠ .active := by
  cases k with
  | zero => simp [reached, Position.reached]
  | succ k =>
    by_cases hfew : k ≤ policy.minAttempts.toNat
    · simp [reached, Position.reached_starting hfew]
    · rw [show k + 1 = policy.minAttempts.toNat + 2 by omega, reached,
        Position.reached_requesting1]
      decide

/-- Up to the first rung a poll asks who the master is. -/
theorem ofStanding?_reached (hk : k ≤ policy.minAttempts.toNat + 1) :
    Announcement.ofStanding? (reached policy k).standing = some .whoIsMaster := by
  cases k with
  | zero => rfl
  | succ k => rw [reached, Position.reached_starting (by omega)]; rfl

/-- While the members stay together, all of them take part and none is master. -/
theorem Together.ne (h : Together ids policy k s) (hk : k ≤ policy.minAttempts.toNat + 1)
    (i : Fin n) : (s.members i).standing ≠ .disabled ∧ (s.members i).standing ≠ .active := by
  rcases h.climbing i with ⟨⟨hs, -⟩, -⟩ | ⟨hs, -⟩
  · rw [hs]
    exact ⟨reached_ne_disabled policy k, reached_ne_active (by omega)⟩
  · rw [hs]
    exact ⟨reached_ne_disabled policy (k + 1), reached_ne_active (by omega)⟩

/-- A question for the master lifts the member that asked it if it has asked often enough, and
nobody else, and nobody answers it. -/
theorem Together.heard (h : Together ids policy k s) (he : Enrolled ids policy due s)
    (hk : k ≤ policy.minAttempts.toNat + 1) {d : Delivery n} (hd : d ∈ s.inFlight) (now : Instant) :
    (s.heard d now).2 = [] ∧
      ((s.heard d now).1.StandsAt (reached policy (k + 1)) ∨
        (s.heard d now).1.StandsAt (reached policy k).polled ∧
          ⟨d.addressee, ids d.addressee, .whoIsMaster⟩ ∈ s.inFlight ∧
            d ≠ ⟨d.addressee, ids d.addressee, .whoIsMaster⟩) := by
  obtain ⟨i, sender, b⟩ := d
  obtain rfl : b = .whoIsMaster := h.quiet _ hd
  obtain ⟨hdisabled, hactive⟩ := h.ne hk i
  rw [heard_eq, he.service]
  by_cases hself : sender = ids i
  -- The member hears its own question.
  · have hlifted := liftedTo_reached (he.policy i) (ofStanding?_reached hk)
      ((h.climbing i).imp And.left id) now
    have hhears : (s.members i).hear (sender == ids i) sender .whoIsMaster now =
        (s.members i).hearEcho .whoIsMaster now := by
      simp [Candidate.hear, hdisabled, hself]
    rw [hhears]
    refine ⟨?_, Or.inl hlifted.1⟩
    rcases hlifted.2 with ⟨hwords, -⟩ | ⟨-, hmaster⟩
    · exact hwords
    · exact absurd (hlifted.1.1.symm.trans hmaster) (reached_ne_active (by omega))
  -- Somebody else asks, and nobody is master yet to answer.
  · have hhears : (s.members i).hear (sender == ids i) sender .whoIsMaster now =
        ((s.members i).meet sender, []) := by
      have hother : (sender == ids i) = false := by simpa using hself
      rw [hother, Candidate.hear_whoIsMaster hdisabled, if_neg hactive]
    rw [hhears]
    refine ⟨rfl, ?_⟩
    rcases h.climbing i with ⟨⟨hs, hcount⟩, hecho⟩ | ⟨hs, hcount⟩
    · exact Or.inr ⟨⟨by simpa using hs, by simpa using hcount⟩, hecho, by simp [hself]⟩
    · exact Or.inl ⟨by simpa using hs, by simpa using hcount⟩

/-- Every arrival keeps the members together. -/
theorem Together.arrives (h : Together ids policy k s) (he : Enrolled ids policy due s)
    (hk : k ≤ policy.minAttempts.toNat + 1) (hs : Arrives s s') : Together ids policy k s' := by
  obtain ⟨d, now, ha⟩ := hs.arrival
  obtain ⟨hwords, hstands⟩ := h.heard he hk ha.mem now
  refine ⟨fun i => ?_, fun e hmem => ?_⟩
  · by_cases hi : i = d.addressee
    · rw [hi, ha.self]
      rcases hstands with hstands | ⟨hstands, hecho, hne⟩
      · exact Or.inr hstands
      · -- The echo is still to come, since it is not what has arrived.
        exact Or.inl ⟨hstands, ha.kept _ hecho (Ne.symm hne)⟩
    · rw [ha.other i hi]
      exact (h.climbing i).imp
        (fun ⟨hstood, hecho⟩ => ⟨hstood, ha.kept_of_addressee hecho hi⟩) id
  · rcases ha.origin e hmem with hmem | hmem
    · exact h.quiet e hmem
    · obtain ⟨-, hutters⟩ := mem_answers.mp hmem
      simp [Candidate.utters, hwords] at hutters

/-! ### Past the first rung -/

/-- During the round after `k` rounds, in which the leader announces `a`: the leader has heard its
echo or will hear it, and each of the others stands by, or lags and will hear from the leader. -/
structure Led (ids : Fin n → String) (policy : ElectionPolicy) (leader : Fin n) (k : Nat)
    (a : Announcement) (s : Electorate n) : Prop where
  climbing : (s.members leader).StandsAt (reached policy k).polled ∧
      ⟨leader, ids leader, a⟩ ∈ s.inFlight ∨
    (s.members leader).StandsAt (reached policy (k + 1))
  lagging : ∀ i, i ≠ leader → (s.members i).standing = .inactive ∨
    (s.members i).Lags policy.minAttempts.toNat ∧ ⟨i, ids leader, a⟩ ∈ s.inFlight
  /-- The leader announces its rung, and mastership once it holds it; the others only ask for a
  master or contend on the second rung. -/
  lawful : ∀ d ∈ s.inFlight,
    d.sender = ids leader ∧
        (d.announcement = a ∨
          d.announcement = .iAmMaster ∧ (s.members leader).standing = .active) ∨
      ids leader < d.sender ∧
        (d.announcement = .whoIsMaster ∨ d.announcement = .requestingControl1)
  /-- Once the leader is master, the others know it or will hear it. -/
  known : (s.members leader).standing = .active → ∀ i, i ≠ leader →
    (s.members i).knownMaster = some (ids leader) ∨ ⟨i, ids leader, .iAmMaster⟩ ∈ s.inFlight

/-- The leader is past the first rung. -/
theorem Led.isAhead (h : Led ids policy leader k a s) (hk : policy.minAttempts.toNat + 2 ≤ k) :
    (s.members leader).standing.isAhead = true := by
  rcases h.climbing with ⟨⟨hs, -⟩, -⟩ | ⟨hs, -⟩
  · rw [hs]
    exact Position.reached_isAhead hk
  · rw [hs]
    exact Position.reached_isAhead (by omega)

/-- What the leader makes of a delivery: it climbs on its echo and else stays where it is, and the
only thing it says is that it is master, when it is. -/
theorem Led.leader_heard (h : Led ids policy leader k a s) (he : Enrolled ids policy due s)
    (hk : policy.minAttempts.toNat + 2 ≤ k)
    (ha : Announcement.ofStanding? (reached policy k).standing = some a) {d : Delivery n}
    (hd : d ∈ s.inFlight) (hi : d.addressee = leader) (now : Instant) :
    ((s.heard d now).1.StandsAt (reached policy (k + 1)) ∨
        (s.heard d now).1.StandsAt (reached policy k).polled ∧
          ⟨leader, ids leader, a⟩ ∈ s.inFlight ∧ d ≠ ⟨leader, ids leader, a⟩) ∧
      ((s.members leader).standing = .active → (s.heard d now).1.standing = .active) ∧
      (Candidate.utters (s.heard d now) = [] ∧
          ((s.heard d now).1.standing = .active → (s.members leader).standing = .active) ∨
        Candidate.utters (s.heard d now) = [.iAmMaster] ∧
          (s.heard d now).1.standing = .active) := by
  obtain ⟨i, sender, b⟩ := d
  obtain rfl : i = leader := hi
  have hahead := h.isAhead hk
  have hdisabled := Standing.ne_disabled_of_isAhead hahead
  -- What does not change the standing leaves the leader where it was.
  have hstays : ∀ c : Candidate, c.standing = (s.members i).standing →
      c.attempts = (s.members i).attempts → (sender ≠ ids i ∨ b ≠ a) →
        c.StandsAt (reached policy (k + 1)) ∨
          c.StandsAt (reached policy k).polled ∧ ⟨i, ids i, a⟩ ∈ s.inFlight ∧
            (⟨i, sender, b⟩ : Delivery n) ≠ ⟨i, ids i, a⟩ := by
    intro c hs hcount hne
    rcases h.climbing with ⟨hstood, hecho⟩ | hstood
    · refine Or.inr ⟨⟨hs.trans hstood.1, hcount ▸ hstood.2⟩, hecho, fun heq => ?_⟩
      simp only [Delivery.mk.injEq, true_and] at heq
      exact hne.elim (· heq.1) (· heq.2)
    · exact Or.inl ⟨hs.trans hstood.1, hcount ▸ hstood.2⟩
  rw [heard_eq, he.service]
  rcases h.lawful _ hd with ⟨rfl, hb⟩ | ⟨hlt, hb⟩
  -- It hears itself: its poll of this round, or what it said when it was promoted.
  · have hhears : (s.members i).hear (ids i == ids i) (ids i) b now =
        (s.members i).hearEcho b now := by
      simp [Candidate.hear, hdisabled]
    rw [hhears]
    by_cases hba : b = a
    · obtain rfl := hba
      have hlifted := liftedTo_reached (he.policy i) ha (h.climbing.imp And.left id) now
      refine ⟨Or.inl hlifted.1, fun hactive => ?_, ?_⟩
      · rwa [Candidate.hearEcho_of_active hactive]
      · rcases hlifted.2 with ⟨hwords, hmaster⟩ | ⟨hwords, hmaster⟩
        · exact Or.inl ⟨by rw [Candidate.utters, hwords]; rfl, hmaster⟩
        · refine Or.inr ⟨?_, hmaster⟩
          simp [Candidate.utters, hwords, Candidate.announcements, Candidate.isActive, hmaster]
    · obtain ⟨rfl, hactive⟩ := hb.resolve_left hba
      rw [Candidate.hearEcho_of_active hactive]
      exact ⟨hstays _ rfl rfl (Or.inr hba), id, Or.inl ⟨rfl, id⟩⟩
  -- It hears one of the others, which are all behind it.
  · have hother : (sender == ids i) = false := by
      simp only [beq_eq_false_iff_ne]
      rintro rfl
      exact String.lt_irrefl _ hlt
    have hne : sender ≠ ids i := by simpa using hother
    rw [hother, Candidate.hear_of_isAhead hahead (he.service i ▸ hlt) hb]
    refine ⟨hstays _ (by simp) (by simp) (Or.inl hne), by simp, ?_⟩
    by_cases hactive : (s.members i).standing = .active
    · exact Or.inr ⟨by simp [hactive, Candidate.utters, Candidate.announcements], by simp [hactive]⟩
    · exact Or.inl ⟨by simp [hactive, Candidate.utters], by simp⟩

/-- What another member makes of a delivery: it says nothing, stays where it is or stands by, which
it does when it hears from the leader, and knows of no master but the leader. -/
theorem Led.follower_heard (h : Led ids policy leader k a s) (he : Enrolled ids policy due s)
    (hids : ∀ i, i ≠ leader → ids leader < ids i) (hk : policy.minAttempts.toNat + 2 ≤ k)
    (ha : Announcement.ofStanding? (reached policy k).standing = some a) {d : Delivery n}
    (hd : d ∈ s.inFlight) (hi : d.addressee ≠ leader) (now : Instant) :
    Candidate.utters (s.heard d now) = [] ∧
      ((s.heard d now).1.standing = .inactive ∨
        (s.heard d now).1.standing = (s.members d.addressee).standing ∧
          (s.heard d now).1.attempts = (s.members d.addressee).attempts ∧
            d ≠ ⟨d.addressee, ids leader, a⟩) ∧
      ((s.members d.addressee).knownMaster = some (ids leader) ∨
          d = ⟨d.addressee, ids leader, .iAmMaster⟩ →
        (s.heard d now).1.knownMaster = some (ids leader)) := by
  obtain ⟨i, sender, b⟩ := d
  have hi : i ≠ leader := hi
  have hahead := Position.reached_isAhead hk
  have hlags : (s.members i).Lags (s.members i).policy.minAttempts.toNat := by
    rw [he.policy]
    exact (h.lagging i hi).elim Or.inl And.left
  have hlaw := h.lawful _ hd
  -- Nobody stands down or resigns in a round, and nobody but the leader claims mastership.
  have hb : b ≠ .iAmStandby ∧ b ≠ .resyncMaster := by
    have hown : a ≠ .iAmStandby ∧ a ≠ .resyncMaster := by
      constructor <;> rintro rfl <;> cases hs : (reached policy k).standing <;>
        simp [hs, Announcement.ofStanding?] at ha
    rcases hlaw with ⟨-, rfl | ⟨rfl, -⟩⟩ | ⟨-, rfl | rfl⟩
    · exact hown
    all_goals decide
  have hclaim : b = .iAmMaster → sender = ids leader := by
    rintro rfl
    rcases hlaw with ⟨hsender, -⟩ | ⟨-, hb | hb⟩
    · exact hsender
    all_goals simp at hb
  rw [heard_eq, he.service]
  obtain ⟨hwords, hstands, hknown⟩ :=
    hlags.hear hb.1 hb.2 (sender == ids i) sender now
  have hother : (ids leader == ids i) = false := by
    simp only [beq_eq_false_iff_ne]
    intro heq
    exact String.lt_irrefl _ (heq ▸ hids i hi)
  refine ⟨by rw [Candidate.utters, hwords]; rfl, ?_, ?_⟩
  · by_cases hleader : sender = ids leader ∧ b = a
    · obtain ⟨rfl, rfl⟩ := hleader
      rw [hother]
      exact Or.inl (hlags.hear_ahead (he.service i ▸ hids i hi) hahead ha now)
    · rcases hstands with hinactive | ⟨hs, hcount⟩
      · exact Or.inl hinactive
      · refine Or.inr ⟨hs, hcount, fun heq => hleader ?_⟩
        simpa using heq
  · intro hleader
    rw [hknown]
    by_cases hb : b = .iAmMaster
    · obtain rfl := hclaim hb
      rw [if_pos ⟨hother, hb⟩]
    · rw [if_neg fun hboth => hb hboth.2]
      refine hleader.resolve_right fun heq => hb ?_
      exact congrArg Delivery.announcement heq

/-- Whatever the leader hears, the round goes on as it was. -/
theorem Led.arrives_leader (h : Led ids policy leader k a s) (he : Enrolled ids policy due s)
    (hk : policy.minAttempts.toNat + 2 ≤ k)
    (ha : Announcement.ofStanding? (reached policy k).standing = some a) {d : Delivery n}
    (hd : Arrival s d now s') (hi : d.addressee = leader) : Led ids policy leader k a s' := by
  obtain ⟨hstands, hactive, hwords⟩ := h.leader_heard he hk ha hd.mem hi now
  have hleader : s'.members leader = (s.heard d now).1 := hi ▸ hd.self
  have hothers : ∀ i, i ≠ leader → s'.members i = s.members i :=
    fun i hne => hd.other i (hi ▸ hne)
  have hkept : ∀ e ∈ s.inFlight, e.addressee ≠ leader → e ∈ s'.inFlight :=
    fun e hmem hne => hd.kept_of_addressee hmem (hi ▸ hne)
  refine ⟨?_, ?_, ?_, ?_⟩
  · rw [hleader]
    rcases hstands with hstands | ⟨hstands, hecho, hne⟩
    · exact Or.inr hstands
    · exact Or.inl ⟨hstands, hd.kept _ hecho (Ne.symm hne)⟩
  · intro i hne
    rw [hothers i hne]
    exact (h.lagging i hne).imp id fun ⟨hlags, hmem⟩ => ⟨hlags, hkept _ hmem hne⟩
  · intro e hmem
    rw [hleader]
    rcases hd.origin e hmem with hmem | hmem
    · exact (h.lawful e hmem).imp
        (fun ⟨hsender, hb⟩ => ⟨hsender, hb.imp id fun ⟨hb, hm⟩ => ⟨hb, hactive hm⟩⟩) id
    · -- All that the leader says in answer is that it is master, and then it is.
      obtain ⟨hsender, hutters⟩ := mem_answers.mp hmem
      rcases hwords with ⟨hnone, -⟩ | ⟨hclaim, hmaster⟩
      · simp [hnone] at hutters
      · rw [hclaim] at hutters
        refine Or.inl ⟨?_, Or.inr ⟨List.mem_singleton.mp hutters, hmaster⟩⟩
        rw [hsender, he.service, hi]
  · intro hmaster i hne
    rw [hleader] at hmaster
    rw [hothers i hne]
    rcases hwords with ⟨-, hbefore⟩ | ⟨hclaim, -⟩
    · exact (h.known (hbefore hmaster) i hne).imp id fun hmem => hkept _ hmem hne
    · -- A leader that was just promoted has told everybody.
      refine Or.inr (hd.answered _ (mem_answers.mpr ⟨?_, ?_⟩))
      · rw [he.service, hi]
      · rw [hclaim]
        exact List.mem_singleton_self _

/-- Whatever another member hears, the round goes on as it was. -/
theorem Led.arrives_follower (h : Led ids policy leader k a s) (he : Enrolled ids policy due s)
    (hids : ∀ i, i ≠ leader → ids leader < ids i) (hk : policy.minAttempts.toNat + 2 ≤ k)
    (ha : Announcement.ofStanding? (reached policy k).standing = some a) {d : Delivery n}
    (hd : Arrival s d now s') (hi : d.addressee ≠ leader) : Led ids policy leader k a s' := by
  obtain ⟨hwords, hstands, hknown⟩ := h.follower_heard he hids hk ha hd.mem hi now
  have hleader : s'.members leader = s.members leader := hd.other leader (Ne.symm hi)
  refine ⟨?_, ?_, ?_, ?_⟩
  · rw [hleader]
    exact h.climbing.imp
      (fun ⟨hstood, hecho⟩ => ⟨hstood, hd.kept_of_addressee hecho (Ne.symm hi)⟩) id
  · intro i hne
    by_cases haddressee : i = d.addressee
    · subst haddressee
      rw [hd.self]
      rcases hstands with hinactive | ⟨hs, hcount, hother⟩
      · exact Or.inl hinactive
      · rcases h.lagging _ hne with hinactive | ⟨hlags, hmem⟩
        · exact Or.inl (hs.trans hinactive)
        · refine Or.inr ⟨?_, hd.kept _ hmem (Ne.symm hother)⟩
          rwa [Candidate.Lags, hs, hcount]
    · rw [hd.other i haddressee]
      exact (h.lagging i hne).imp id
        fun ⟨hlags, hmem⟩ => ⟨hlags, hd.kept_of_addressee hmem haddressee⟩
  · intro e hmem
    rw [hleader]
    rcases hd.origin e hmem with hmem | hmem
    · exact h.lawful e hmem
    · simp [mem_answers, hwords] at hmem
  · intro hmaster i hne
    rw [hleader] at hmaster
    by_cases haddressee : i = d.addressee
    · subst haddressee
      rw [hd.self]
      rcases h.known hmaster _ hne with hknew | hmem
      · exact Or.inl (hknown (Or.inl hknew))
      · by_cases hclaim : d = ⟨d.addressee, ids leader, .iAmMaster⟩
        · exact Or.inl (hknown (Or.inr hclaim))
        · exact Or.inr (hd.kept _ hmem (Ne.symm hclaim))
    · rw [hd.other i haddressee]
      exact (h.known hmaster i hne).imp id fun hmem => hd.kept_of_addressee hmem haddressee

/-- Every arrival keeps the leader ahead and the others behind. -/
theorem Led.arrives (h : Led ids policy leader k a s) (he : Enrolled ids policy due s)
    (hids : ∀ i, i ≠ leader → ids leader < ids i) (hk : policy.minAttempts.toNat + 2 ≤ k)
    (ha : Announcement.ofStanding? (reached policy k).standing = some a) (hs : Arrives s s') :
    Led ids policy leader k a s' := by
  obtain ⟨d, now, hd⟩ := hs.arrival
  -- What the leader hears is different from what the others hear.
  by_cases hi : d.addressee = leader
  · exact h.arrives_leader he hk ha hd hi
  · exact h.arrives_follower he hids hk ha hd hi

/-! ### From round to round -/

/-- After `k` rounds nothing is on its way, and the members are all at one position up to the first
rung, or the leader is past it and the others stand by, or have come onto the second rung in the
last round. -/
structure Settled (ids : Fin n → String) (policy : ElectionPolicy) (leader : Fin n) (k : Nat)
    (s : Electorate n) : Prop where
  inFlight : s.inFlight = []
  climbing : (s.members leader).StandsAt (reached policy k)
  together : k ≤ policy.minAttempts.toNat + 1 → ∀ i, (s.members i).StandsAt (reached policy k)
  led : policy.minAttempts.toNat + 2 ≤ k → ∀ i, i ≠ leader →
    (s.members i).standing = .inactive ∨
      k = policy.minAttempts.toNat + 2 ∧ (s.members i).StandsAt ⟨.requesting1, 0⟩
  known : (s.members leader).standing = .active → ∀ i, i ≠ leader →
    (s.members i).knownMaster = some (ids leader)

/-- Members that were just founded are all at the bottom. -/
theorem settled_founded (names : Fin n → String) (henabled : policy.enabled = true)
    (now : Instant) : Settled ids policy leader 0 (founded names ids policy now) := by
  have hstands : ∀ i, ((founded names ids policy now).members i).StandsAt (reached policy 0) :=
    fun i => ⟨by simp [founded, Candidate.create, henabled, reached, Position.reached], Or.inr rfl⟩
  refine ⟨rfl, hstands leader, fun _ => hstands, fun hk => ?_, fun hmaster => ?_⟩
  · simp at hk
  · rw [(hstands leader).1] at hmaster
    exact absurd hmaster (reached_ne_active (by omega))

/-- After every round all members take part in the election. -/
theorem Settled.ne_disabled (h : Settled ids policy leader k s) (i : Fin n) :
    (s.members i).standing ≠ .disabled := by
  by_cases hk : k ≤ policy.minAttempts.toNat + 1
  · rw [(h.together hk i).1]
    exact reached_ne_disabled policy k
  · by_cases hi : i = leader
    · rw [hi, h.climbing.1]
      exact reached_ne_disabled policy k
    · rcases h.led (by omega) i hi with hs | ⟨-, hs, -⟩ <;> simp [hs]

/-- Polls on the first rung begin a round in which the members stay together. -/
theorem Settled.together_pollAll (h : Settled ids policy leader k s)
    (he : Enrolled ids policy due s) (hk : k ≤ policy.minAttempts.toNat + 1)
    (hfew : k + 1 < UInt32.size) (hdue : due ≤ now) (draw : Fin n → Nat) :
    Together ids policy k (s.pollAll now draw) := by
  have hpoll : ∀ i, ((s.members i).poll now (draw i)).1.StandsAt (reached policy k).polled ∧
      ((s.members i).poll now (draw i)).2 = some .whoIsMaster := by
    intro i
    rw [← ofStanding?_reached hk]
    have hcount : (reached policy k).attempts ≤ k := Position.attempts_reached_le _ k
    exact (h.together hk i).poll (Position.climbs_reached _ k) (by omega)
      (Nat.le_trans (he.nextPoll i) hdue) (draw i)
  refine ⟨fun i => Or.inl ⟨(hpoll i).1, ?_⟩, fun d hd => ?_⟩
  · exact (mem_inFlight_pollAll h.inFlight).mpr ⟨i, (he.service i).symm, (hpoll i).2⟩
  · obtain ⟨i, -, hwords⟩ := (mem_inFlight_pollAll h.inFlight).mp hd
    exact Option.some.inj (hwords.symm.trans (hpoll i).2)

/-- Polls past the first rung begin a round that the leader leads. -/
theorem Settled.led_pollAll (h : Settled ids policy leader k s) (he : Enrolled ids policy due s)
    (hids : ∀ i, i ≠ leader → ids leader < ids i) (hattempts : 1 ≤ policy.minAttempts.toNat)
    (hk : policy.minAttempts.toNat + 2 ≤ k) (hfew : k + 1 < UInt32.size) (hdue : due ≤ now)
    (ha : Announcement.ofStanding? (reached policy k).standing = some a) (draw : Fin n → Nat) :
    Led ids policy leader k a (s.pollAll now draw) := by
  have hcount : (reached policy k).attempts ≤ k := Position.attempts_reached_le _ k
  obtain ⟨hleader, hwords⟩ := h.climbing.poll (Position.climbs_reached _ k) (by omega)
    (Nat.le_trans (he.nextPoll leader) hdue) (draw leader)
  have hwords : ((s.members leader).poll now (draw leader)).2 = some a := hwords.trans ha
  -- Whoever starts again makes the first of two polls, and who has just come onto the second rung
  -- too.
  have hlags : ∀ i, i ≠ leader →
      ((s.members i).poll now (draw i)).1.Lags policy.minAttempts.toNat ∧
        (((s.members i).poll now (draw i)).2 = some .whoIsMaster ∨
          ((s.members i).poll now (draw i)).2 = some .requestingControl1) := by
    intro i hi
    exact Candidate.Lags.poll ((h.led hk i hi).imp id And.right) hattempts
      (Nat.le_trans (he.nextPoll i) hdue)
  have hmem : ∀ i, ⟨i, ids leader, a⟩ ∈ (s.pollAll now draw).inFlight := fun i =>
    (mem_inFlight_pollAll h.inFlight).mpr ⟨leader, (he.service leader).symm, hwords⟩
  refine ⟨Or.inl ⟨hleader, hmem leader⟩, fun i hi => Or.inr ⟨(hlags i hi).1, hmem i⟩, ?_, ?_⟩
  · intro d hd
    obtain ⟨i, hsender, hsaid⟩ := (mem_inFlight_pollAll h.inFlight).mp hd
    rw [he.service] at hsender
    by_cases hi : i = leader
    · subst hi
      exact Or.inl ⟨hsender, Or.inl (Option.some.inj (hsaid.symm.trans hwords))⟩
    · refine Or.inr ⟨hsender ▸ hids i hi, (hlags i hi).2.imp ?_ ?_⟩
      · exact fun h => Option.some.inj (hsaid.symm.trans h)
      · exact fun h => Option.some.inj (hsaid.symm.trans h)
  · -- A leader that is master announces it with its poll.
    intro hmaster i hi
    have hactive : (reached policy k).standing = .active := hleader.1.symm.trans hmaster
    rw [hactive] at ha
    obtain rfl : Announcement.iAmMaster = a := Option.some.inj ha
    exact Or.inr (hmem i)

/-- When nothing is on its way any more, members that stayed together are all one position on. -/
theorem Together.settled (h : Together ids policy k s) (hk : k ≤ policy.minAttempts.toNat + 1)
    (hdone : s.inFlight = []) : Settled ids policy leader (k + 1) s := by
  have hstands : ∀ i, (s.members i).StandsAt (reached policy (k + 1)) := by
    intro i
    refine (h.climbing i).resolve_left fun ⟨_, hecho⟩ => ?_
    simp [hdone] at hecho
  refine ⟨hdone, hstands leader, fun _ => hstands, fun hlast i _ => ?_, fun hmaster => ?_⟩
  · have hlast : k + 1 = policy.minAttempts.toNat + 2 := by omega
    have hstood := hstands i
    rw [hlast, reached, Position.reached_requesting1] at hstood
    exact Or.inr ⟨hlast, hstood⟩
  · rw [(hstands leader).1] at hmaster
    exact absurd hmaster (reached_ne_active (by omega))

/-- When nothing is on its way any more, all but the leader stand by. -/
theorem Led.settled (h : Led ids policy leader k a s) (hk : policy.minAttempts.toNat + 2 ≤ k)
    (hdone : s.inFlight = []) : Settled ids policy leader (k + 1) s := by
  have hnone : ∀ d, d ∉ s.inFlight := by simp [hdone]
  refine ⟨hdone, ?_, fun hfew => ?_, fun _ i hi => ?_, fun hmaster i hi => ?_⟩
  · exact h.climbing.resolve_left fun ⟨_, hecho⟩ => hnone _ hecho
  · omega
  · exact Or.inl ((h.lagging i hi).resolve_right fun ⟨_, hmem⟩ => hnone _ hmem)
  · exact (h.known hmaster i hi).resolve_right (hnone _)

/-- What holds after a round holds after the next one. -/
theorem Settled.round (h : Settled ids policy leader k s) (he : Enrolled ids policy due s)
    (hids : ∀ i, i ≠ leader → ids leader < ids i) (hjitter : policy.pollJitter = 0)
    (hattempts : 1 ≤ policy.minAttempts.toNat) (hfew : k + 1 < UInt32.size) (hdue : due ≤ now)
    (hround : Round now s s') :
    Settled ids policy leader (k + 1) s' ∧ Enrolled ids policy (now + policy.pollSpan) s' := by
  obtain ⟨draw, hexchange, hdone⟩ := hround
  have henrolled := he.pollAll hdue hjitter h.ne_disabled draw
  -- Up to the first rung the members stay together, and past it the leader leads.
  by_cases hk : k ≤ policy.minAttempts.toNat + 1
  · obtain ⟨htogether, he'⟩ := hexchange.keeps
      (P := fun s => Together ids policy k s ∧ Enrolled ids policy (now + policy.pollSpan) s)
      (fun _ _ ⟨ht, he⟩ hs => ⟨ht.arrives he hk hs, he.arrives hs⟩)
      ⟨h.together_pollAll he hk hfew hdue draw, henrolled⟩
    exact ⟨htogether.settled hk hdone, he'⟩
  · have hk : policy.minAttempts.toNat + 2 ≤ k := by omega
    obtain ⟨a, ha⟩ := Standing.ofStanding?_of_isAhead (Position.reached_isAhead hk)
    obtain ⟨hled, he'⟩ := hexchange.keeps
      (P := fun s => Led ids policy leader k a s ∧ Enrolled ids policy (now + policy.pollSpan) s)
      (fun _ _ ⟨hl, he⟩ hs => ⟨hl.arrives he hids hk ha hs, he.arrives hs⟩)
      ⟨h.led_pollAll he hids hattempts hk hfew hdue ha draw, henrolled⟩
    exact ⟨hled.settled hk hdone, he'⟩

/-- What holds of members that were just founded holds after any number of rounds. -/
theorem Runs.settled {names : Fin n → String} {founding : Instant}
    (henabled : policy.enabled = true) (hjitter : policy.pollJitter = 0)
    (hattempts : 1 ≤ policy.minAttempts.toNat) (hids : ∀ i, i ≠ leader → ids leader < ids i)
    (hruns : Runs (founding + policy.initialSpan) policy.pollSpan
      (founded names ids policy founding) k due s) (hfew : k < UInt32.size) :
    Settled ids policy leader k s ∧ Enrolled ids policy due s := by
  -- The induction is on the rounds, each of which starts where the last one has ended.
  induction hruns with
  | nil =>
    refine ⟨settled_founded names henabled founding, fun i => rfl, fun i => rfl, fun i => ?_⟩
    exact Nat.le_refl _
  | round _ hdue hround ih =>
    obtain ⟨hsettled, henrolled⟩ := ih (by omega)
    exact hsettled.round henrolled hids hjitter hattempts hfew hdue hround

/-- Instances with different ids that were founded together poll in rounds without jitter, and
everything that is announced in a round arrives in it, in any order. After every round none but the
one with the lowest id, the leader, is master. After one round for the first echo and as many on
each of the four rungs as its policy asks for, the leader is master, and all others stand by and
know it. -/
theorem lowest_id_elected {names : Fin n → String} {founding : Instant}
    (henabled : policy.enabled = true) (hjitter : policy.pollJitter = 0)
    (hattempts : 1 ≤ policy.minAttempts) (hids : Function.Injective ids)
    (hlowest : ∀ i, ids leader ≤ ids i)
    (hruns : Runs (founding + policy.initialSpan) policy.pollSpan
      (founded names ids policy founding) k due s) (hfew : k < UInt32.size) :
    (∀ i, i ≠ leader → (s.members i).standing ≠ .active) ∧
      (1 + 4 * (policy.minAttempts.toNat + 1) ≤ k →
        (s.members leader).standing = .active ∧
          ∀ i, i ≠ leader → (s.members i).standing = .inactive ∧
            (s.members i).knownMaster = some (ids leader)) := by
  have hlower : ∀ i, i ≠ leader → ids leader < ids i := by
    intro i hi
    by_contra hle
    exact hi (hids (String.le_antisymm (String.not_lt.mp hle) (hlowest i)))
  have hattempts : 1 ≤ policy.minAttempts.toNat := UInt32.le_iff_toNat_le.mp hattempts
  obtain ⟨h, -⟩ := hruns.settled henabled hjitter hattempts hlower hfew
  refine ⟨fun i hi => ?_, fun hmany => ?_⟩
  -- Up to the first rung nobody is master. After it the others stand by, or are on the second rung.
  · by_cases hk : k ≤ policy.minAttempts.toNat + 1
    · rw [(h.together hk i).1]
      exact reached_ne_active (by omega)
    · rcases h.led (by omega) i hi with hs | ⟨-, hs, -⟩ <;> simp [hs]
  · have hmaster : (s.members leader).standing = .active :=
      h.climbing.1.trans (Position.reached_active hmany)
    -- The round on the second rung is over by then.
    refine ⟨hmaster, fun i hi => ⟨?_, h.known hmaster i hi⟩⟩
    exact (h.led (by omega) i hi).resolve_right fun ⟨hlast, _⟩ => by omega

/-- Two instances whose echoes lift them after their second poll have elected the lower id after
nine rounds. -/
theorem lowest_of_two_elected :
    let ids : Fin 2 → String := fun i => if i = 0 then "a" else "b"
    let policy := { ElectionPolicy.participating with pollJitter := 0, minAttempts := 1 }
    ∃ due s, Runs (0 + policy.initialSpan) policy.pollSpan
        (founded (fun _ => "billing") ids policy 0) 9 due s ∧
      (s.members 0).standing = .active ∧ (s.members 1).standing = .inactive ∧
        (s.members 1).knownMaster = some "a" := by
  intro ids policy
  obtain ⟨due, s, hruns⟩ := exists_runs (0 + policy.initialSpan) policy.pollSpan
    (founded (fun _ => "billing") ids policy 0) 9
  have hids : Function.Injective ids := by
    unfold Function.Injective
    decide
  have hlowest : ∀ i, ids 0 ≤ ids i := by decide
  have helected := (lowest_id_elected rfl rfl (by decide) hids hlowest hruns (by decide)).2
    (by decide)
  exact ⟨due, s, hruns, helected.1, helected.2 1 (by decide)⟩

end Electorate

end CommandMesh
