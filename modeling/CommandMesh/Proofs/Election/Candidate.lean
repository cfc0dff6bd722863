import CommandMesh.Election.Candidate

/-!
# `CommandMesh.Proofs.Election.Candidate`: what an event of the election does to a candidate

A candidate is one side of the election: a state and the functions that polls, messages and the host
call on it. The lemmas here say what a candidate keeps through polls and messages, what it does with
each announcement of another instance, and when it claims to be master. They are about one event at
a time; what comes of many is followed in the other modules on the election, each of which rests on
this one.

The candidate knows no clock and no bus. The present moment is given with every event and need not
grow from one event to the next, and random jitter comes as a number that is drawn elsewhere, so
that every theorem is for whatever the moments and the draws are. Nothing is assumed about who sends
an announcement: that a message is the candidate's own echo is told by a flag, which the node sets
by comparing instances.

Hearing is taken apart along its definition. `hearEcho` is for the candidate's own announcements,
`hearMaster`, `hearResync`, `hearStandby` and `hearContender` are for those of others, and the
lemmas about `hear` put these together by the kind of the announcement. What is to be done on
hearing something is a list of consequences; `utters` gives the announcements that come of it when
they are carried out at once, while the candidate stands as it does then.

`Candidate.Event` and `Candidate.afterAll` describe a history: any polls, messages, readable or not,
and changes by the host, in any order. They are the runs of the theorems about one candidate.

The theorems:

* `Candidate.keeps_hear`: a message changes neither the instance nor the time of its next poll.
* `Candidate.poll_of_due`: a poll that is due announces something.
* `Candidate.standing_hearMaster`, `Candidate.hearContender_of_yieldsTo`: who stands by, and why.
* `Candidate.active_of_claim_hear`, `Candidate.active_of_claim_poll`: a candidate is master when it
  is to announce that it is.
* `Candidate.isActive_hear`, `Candidate.isActive_poll`: no candidate becomes master or loses that
  without a consequence that tells of it.
* `Candidate.utters_hear`: what is announced on hearing an announcement, and that it comes later in
  an exchange than what it answers.
-/

set_option autoImplicit false

namespace CommandMesh

namespace Candidate

variable {c : Candidate} {now : Instant}

/-! ### Changes of standing -/

/-- After a change of standing the candidate has the new one, also if it had it before. -/
@[simp] theorem standing_transition (c : Candidate) (next : Standing) (now : Instant) :
    (c.transition next now).standing = next := by
  unfold transition
  split
  · assumption
  · rfl

/-- Who is promoted is master. -/
@[simp] theorem standing_promote (c : Candidate) (now : Instant) :
    (c.promote now).standing = .active :=
  c.standing_transition .active now

/-- Who is made master by its host is master. -/
theorem isActive_of_activate {c' : Candidate} (h : c.activate now = some c') :
    c'.isActive = true := by
  unfold activate at h
  split at h
  · simp at h
  · rw [← Option.some.inj h]
    simp [isActive]

/-! ### What stays -/

/-- Still the same instance under the same policy, with the same time of its next poll. -/
structure Keeps (c c' : Candidate) : Prop where
  service : c'.service = c.service
  policy : c'.policy = c.policy
  nextPoll : c'.nextPoll = c.nextPoll

/-- A candidate that is left as it is keeps all of this. -/
theorem Keeps.refl (c : Candidate) : Keeps c c := ⟨rfl, rfl, rfl⟩

/-- What is kept twice in a row is kept. -/
theorem Keeps.trans {c c' c'' : Candidate} (h : Keeps c c') (h' : Keeps c' c'') : Keeps c c'' where
  service := h'.service.trans h.service
  policy := h'.policy.trans h.policy
  nextPoll := h'.nextPoll.trans h.nextPoll

/-- A change of standing keeps the instance, its policy and the time of its next poll. -/
theorem keeps_transition (c : Candidate) (next : Standing) (now : Instant) :
    Keeps c (c.transition next now) := by
  unfold transition
  split <;> exact ⟨rfl, rfl, rfl⟩

/-- What is kept up to a change of standing is kept through it. -/
theorem Keeps.transition {c' : Candidate} (h : Keeps c c') (next : Standing) (now : Instant) :
    Keeps c (c'.transition next now) :=
  h.trans (c'.keeps_transition next now)

/-- Noting a partner keeps the instance, its policy and the time of its next poll. -/
theorem keeps_meet (c : Candidate) (sender : String) : Keeps c (c.meet sender) := by
  unfold meet
  split <;> exact ⟨rfl, rfl, rfl⟩

/-- Noting a partner does not change the standing. -/
@[simp] theorem standing_meet (c : Candidate) (sender : String) :
    (c.meet sender).standing = c.standing := by
  unfold meet
  split <;> rfl

/-- Noting a partner counts no poll. -/
@[simp] theorem attempts_meet (c : Candidate) (sender : String) :
    (c.meet sender).attempts = c.attempts := by
  unfold meet
  split <;> rfl

/-- Noting a partner makes nobody the known master. -/
@[simp] theorem knownMaster_meet (c : Candidate) (sender : String) :
    (c.meet sender).knownMaster = c.knownMaster := by
  unfold meet
  split <;> rfl

/-- On a new rung the polls are counted afresh. -/
@[simp] theorem attempts_transition_of_ne {next : Standing} (h : c.standing ≠ next) :
    (c.transition next now).attempts = 0 := by
  simp [transition, h]

/-- A change of standing by itself leaves the known master. -/
@[simp] theorem knownMaster_transition (c : Candidate) (next : Standing) (now : Instant) :
    (c.transition next now).knownMaster = c.knownMaster := by
  unfold transition
  split <;> rfl

/-- An echo changes neither the instance nor the time of its next poll. -/
theorem keeps_hearEcho (c : Candidate) (a : Announcement) (now : Instant) :
    Keeps c (c.hearEcho a now).1 := by
  unfold hearEcho
  split
  · exact c.keeps_transition _ now
  · split
    · exact Keeps.refl c
    · split
      · exact c.keeps_transition _ now
      · exact c.keeps_transition _ now
      · exact c.keeps_transition _ now
      · -- The last echo promotes the candidate, unless somebody has made it master meanwhile.
        unfold activate
        split
        · exact Keeps.refl c
        · exact (c.keeps_transition .active now).trans ⟨rfl, rfl, rfl⟩
      · exact Keeps.refl c

/-- A contender changes neither the instance nor the time of its next poll. -/
theorem keeps_hearContender (c : Candidate) (sender : String) (a : Announcement) (now : Instant) :
    Keeps c (c.hearContender sender a now).1 := by
  unfold hearContender
  dsimp only
  split
  · -- A master notes the contender and answers it.
    exact c.keeps_meet sender
  · split
    · exact ((c.keeps_meet sender).transition .inactive now).trans ⟨rfl, rfl, rfl⟩
    · exact c.keeps_meet sender

/-- A master changes neither the instance nor the time of its next poll. -/
theorem keeps_hearMaster (c : Candidate) (sender : String) (now : Instant) :
    Keeps c (c.hearMaster sender now).1 := by
  unfold hearMaster
  dsimp only
  split
  · refine Keeps.transition ?_ .inactive now
    exact ⟨rfl, rfl, rfl⟩
  · split
    · refine Keeps.transition ?_ .inactive now
      exact ⟨rfl, rfl, rfl⟩
    · exact ⟨rfl, rfl, rfl⟩

/-- An instance that resigns changes neither the instance nor the time of its next poll. -/
theorem keeps_hearResync (c : Candidate) (sender : String) (now : Instant) :
    Keeps c (c.hearResync sender now) := by
  unfold hearResync
  dsimp only
  split
  · refine Keeps.transition ?_ .starting now
    exact ⟨rfl, rfl, rfl⟩
  · exact ⟨rfl, rfl, rfl⟩

/-- A message changes neither the instance nor the time of its next poll. -/
theorem keeps_hear (c : Candidate) (isSelf : Bool) (sender : String) (a : Announcement)
    (now : Instant) : Keeps c (c.hear isSelf sender a now).1 := by
  unfold hear
  split
  · exact Keeps.refl c
  · split
    · exact c.keeps_hearEcho a now
    · -- Of the announcements of others, each kind has its own handler.
      cases a with
      | whoIsMaster => exact c.keeps_meet sender
      | iAmStandby => exact ⟨rfl, rfl, rfl⟩
      | iAmMaster => exact c.keeps_hearMaster sender now
      | resyncMaster => exact c.keeps_hearResync sender now
      | requestingControl1 | requestingControl2 | takingControl =>
        exact c.keeps_hearContender sender _ now

/-! ### Polls -/

/-- Only who stands by may start again. -/
theorem restart_of_ne_inactive (h : c.standing ≠ .inactive) (now : Instant) :
    c.restart now = c := by
  simp [restart, standbyIsOver, h]

/-- Starting again keeps the candidate standing by, or puts it on the first rung. -/
theorem restart_cases (c : Candidate) (now : Instant) :
    c.restart now = c ∨ c.standing = .inactive ∧ (c.restart now).standing = .starting ∧
      (c.restart now).attempts = 0 := by
  unfold restart
  split
  · rename_i hover
    have hinactive : c.standing = .inactive := by
      simp only [standbyIsOver, Bool.and_eq_true, beq_iff_eq] at hover
      exact hover.1
    refine Or.inr ⟨hinactive, standing_transition _ _ _, attempts_transition_of_ne ?_⟩
    simp [hinactive]
  · exact Or.inl rfl

/-- Starting again keeps the instance, its policy and the time of its next poll. -/
theorem keeps_restart (c : Candidate) (now : Instant) : Keeps c (c.restart now) := by
  unfold restart
  split
  · refine Keeps.transition ?_ .starting now
    exact ⟨rfl, rfl, rfl⟩
  · exact Keeps.refl c

/-- A candidate that takes part polls when a poll is due, and announces what its standing asks
for. -/
theorem poll_of_due (h : c.standing ≠ .disabled) (hdue : c.nextPoll ≤ now) (draw : Nat) :
    c.poll now draw =
      ((c.restart now).polled now draw, Announcement.ofStanding? (c.restart now).standing) := by
  -- Starting again does not take the candidate out of the election.
  have hstanding : (c.restart now).standing ≠ .disabled := by
    rcases c.restart_cases now with hsame | ⟨-, hstarting, -⟩
    · rwa [hsame]
    · simp [hstarting]
  unfold poll
  rw [if_neg (by simp [h, hdue])]
  dsimp only
  -- A poll gives no announcement on one standing only, which is excluded.
  cases hs : (c.restart now).standing with
  | disabled => exact absurd hs hstanding
  | _ => rfl

/-- A poll keeps the instance and its policy. It may set the time of the next one. -/
theorem keeps_poll (c : Candidate) (now : Instant) (draw : Nat) :
    (c.poll now draw).1.service = c.service ∧ (c.poll now draw).1.policy = c.policy := by
  have hrestart := c.keeps_restart now
  unfold poll
  split
  · exact ⟨rfl, rfl⟩
  · dsimp only
    split <;> exact ⟨hrestart.service, hrestart.policy⟩

/-! ### Announcements of others -/

/-- An announcement is read from its text. -/
theorem process_text (c : Candidate) (isSelf : Bool) (sender : String) (a : Announcement)
    (now : Instant) : c.process isSelf sender a.text now = .ok (c.hear isSelf sender a now) := by
  have htext : Announcement.ofText? a.text = some a := by cases a <;> decide
  simp only [process, Announcement.ofText, htext]

/-- Who takes no part does not listen. -/
theorem hear_of_disabled (h : c.standing = .disabled) (isSelf : Bool) (sender : String)
    (a : Announcement) (now : Instant) : c.hear isSelf sender a now = (c, []) :=
  if_pos h

/-- Who takes part listens to its own announcements in one way and to those of others in another. -/
theorem hear_of_ne_disabled (h : c.standing ≠ .disabled) (isSelf : Bool) (sender : String)
    (a : Announcement) (now : Instant) :
    c.hear isSelf sender a now =
      if isSelf then c.hearEcho a now else c.hearOther sender a now :=
  if_neg h

/-- Asked who the master is, a master says so, and nobody else says anything. -/
theorem hear_whoIsMaster (h : c.standing ≠ .disabled) (sender : String) (now : Instant) :
    c.hear false sender .whoIsMaster now =
      (c.meet sender, if c.standing = .active then [.broadcast .iAmMaster] else []) := by
  simp [hear, h, hearOther]

/-- Whether to give way does not depend on the partners that are known. -/
@[simp] theorem yieldsTo_meet (c : Candidate) (s sender : String) (a : Announcement) :
    (c.meet s).yieldsTo sender a = c.yieldsTo sender a := by
  simp only [yieldsTo, standing_meet, (c.keeps_meet s).service]

/-- Who stands by gives way to every contender. -/
theorem yieldsTo_of_inactive {a : Announcement} (h : c.standing = .inactive)
    (ha : a.senderStanding?.isSome = true) (sender : String) : c.yieldsTo sender a = true := by
  -- Standing by is below every rung.
  cases a <;> simp [yieldsTo, h, Standing.rung?, Announcement.senderStanding?] at ha ⊢

/-- A master answers a contender by saying that it is master. -/
theorem hearContender_of_active (h : c.standing = .active) (sender : String) (a : Announcement)
    (now : Instant) :
    c.hearContender sender a now = (c.meet sender, [.broadcast .iAmMaster]) := by
  simp [hearContender, h]

/-- Who is not master and does not give way takes note of a contender and says nothing. -/
theorem hearContender_of_not_yieldsTo {sender : String} {a : Announcement}
    (h : c.standing ≠ .active) (hy : c.yieldsTo sender a = false) (now : Instant) :
    c.hearContender sender a now = (c.meet sender, []) := by
  simp [hearContender, h, hy]

/-- Who gives way stands by and says nothing; it does not know yet who will be master. -/
theorem hearContender_of_yieldsTo {sender : String} {a : Announcement}
    (h : c.standing ≠ .active) (hy : c.yieldsTo sender a = true) (now : Instant) :
    (c.hearContender sender a now).1.standing = .inactive ∧
      (c.hearContender sender a now).1.knownMaster = c.knownMaster ∧
        (c.hearContender sender a now).2 = [] := by
  simp [hearContender, h, hy]

/-- The time of standing by does not depend on the partners that are known. -/
@[simp] theorem deadlineFrom_meet (c : Candidate) (sender : String) (now : Instant) :
    (c.meet sender).deadlineFrom now = c.deadlineFrom now := by
  rw [deadlineFrom, (c.keeps_meet sender).policy, deadlineFrom]

/-- Who gives way has a new deadline. -/
theorem standbyDeadline_hearContender {sender : String} {a : Announcement}
    (h : c.standing ≠ .active) (hy : c.yieldsTo sender a = true) (now : Instant) :
    (c.hearContender sender a now).1.standbyDeadline = some (c.deadlineFrom now) := by
  simp [hearContender, h, hy]

/-- Who is not master says nothing to a master, and stands by if it was contending. -/
theorem hearMaster_of_ne_active (h : c.standing ≠ .active) (sender : String) (now : Instant) :
    (c.hearMaster sender now).1.standing =
        (if c.standing.isContending then .inactive else c.standing) ∧
      (c.hearMaster sender now).1.knownMaster = some sender ∧ (c.hearMaster sender now).2 = [] := by
  unfold hearMaster recordMaster
  dsimp only
  rw [if_neg h]
  split <;> simp

/-- Who hears of a master stands by if it was master itself or was contending, and else stays where
it is. -/
theorem standing_hearMaster (c : Candidate) (sender : String) (now : Instant) :
    (c.hearMaster sender now).1.standing =
      if c.standing = .active ∨ c.standing.isContending = true then .inactive else c.standing := by
  -- A master has its own branch, in which it also says that it stands by.
  by_cases hactive : c.standing = .active
  · simp [hearMaster, recordMaster, hactive]
  · rw [(hearMaster_of_ne_active hactive sender now).1]
    simp [hactive]

/-- Nobody is master after hearing of another one. -/
theorem ne_active_hearMaster (c : Candidate) (sender : String) (now : Instant) :
    (c.hearMaster sender now).1.standing ≠ .active := by
  rw [standing_hearMaster]
  split
  · decide
  · next h => exact fun hactive => h (Or.inl hactive)

/-- Whoever hears of a master has a new deadline. -/
theorem standbyDeadline_hearMaster (c : Candidate) (sender : String) (now : Instant) :
    (c.hearMaster sender now).1.standbyDeadline = some (c.deadlineFrom now) := by
  -- Who begins to stand by is given once more the deadline that it was given just before.
  have hstandsBy : ∀ c₁ : Candidate, c₁.standbyDeadline = some (c₁.deadlineFrom now) →
      (c₁.transition .inactive now).standbyDeadline = c₁.standbyDeadline := by
    intro c₁ h
    unfold transition
    split
    · rfl
    · exact h.symm
  unfold hearMaster
  dsimp only
  split
  · rw [hstandsBy _ rfl]
    rfl
  · split
    · rw [hstandsBy _ rfl]
      rfl
    · rfl

/-! ### Claims of mastership -/

/-- An echo leads to no announcement but that of a promotion. -/
theorem claim_notMem_hearEcho (c : Candidate) (a : Announcement) (now : Instant) :
    Consequence.broadcast .iAmMaster ∉ (c.hearEcho a now).2 := by
  unfold hearEcho
  split
  · simp
  · split
    · simp
    · split <;> simp

/-- A contender is answered with a claim of mastership only by a master, which stays one. -/
theorem active_of_claim_hearContender {sender : String} {a : Announcement}
    (h : .broadcast .iAmMaster ∈ (c.hearContender sender a now).2) :
    c.isActive = true ∧ (c.hearContender sender a now).1.isActive = true := by
  by_cases hactive : c.standing = .active
  · refine ⟨by simp [isActive, hactive], ?_⟩
    simp [hearContender_of_active hactive, isActive, hactive]
  · -- Who is not master says nothing, whether it gives way or not.
    cases hy : c.yieldsTo sender a with
    | true =>
      rw [(hearContender_of_yieldsTo hactive hy now).2.2] at h
      simp at h
    | false =>
      rw [hearContender_of_not_yieldsTo hactive hy] at h
      simp at h

/-- Another instance's announcement is answered with a claim of mastership only by a master, which
stays one. -/
theorem active_of_claim_hearOther {sender : String} {a : Announcement}
    (h : .broadcast .iAmMaster ∈ (c.hearOther sender a now).2) :
    c.isActive = true ∧ (c.hearOther sender a now).1.isActive = true := by
  -- Only those who ask for the master or for control are answered with a claim.
  cases a with
  | iAmStandby | resyncMaster => simp [hearOther] at h
  | iAmMaster =>
    unfold hearOther hearMaster at h
    dsimp only at h
    split at h
    · simp at h
    · split at h <;> simp at h
  | whoIsMaster =>
    by_cases hactive : c.standing = .active
    · exact ⟨by simp [isActive, hactive], by simp [hearOther, isActive, hactive]⟩
    · simp [hearOther, hactive] at h
  | requestingControl1 | requestingControl2 | takingControl =>
    exact active_of_claim_hearContender h

/-- An announcement is answered with a claim of mastership only by a master, which stays one. -/
theorem active_of_claim_hear {isSelf : Bool} {sender : String} {a : Announcement}
    (h : .broadcast .iAmMaster ∈ (c.hear isSelf sender a now).2) :
    c.isActive = true ∧ (c.hear isSelf sender a now).1.isActive = true := by
  by_cases hdisabled : c.standing = .disabled
  · simp [hear, hdisabled] at h
  · cases isSelf with
    | true =>
      simp only [hear, if_neg hdisabled, if_true] at h
      exact absurd h (c.claim_notMem_hearEcho a now)
    | false =>
      simp only [hear, if_neg hdisabled, Bool.false_eq_true, if_false] at h ⊢
      exact active_of_claim_hearOther h

/-- A poll that ends the time of standing by does not make a master. -/
theorem standing_restart_eq_active (c : Candidate) (now : Instant) :
    (c.restart now).standing = .active ↔ c.standing = .active := by
  unfold restart standbyIsOver
  split
  · rename_i hover
    have hinactive : c.standing = .inactive := by
      simp only [Bool.and_eq_true, beq_iff_eq] at hover
      exact hover.1
    simp [hinactive]
  · exact Iff.rfl

/-- A poll claims mastership only for a master, which stays one. -/
theorem active_of_claim_poll {draw : Nat} (h : (c.poll now draw).2 = some .iAmMaster) :
    c.isActive = true ∧ (c.poll now draw).1.isActive = true := by
  unfold poll at h ⊢
  split at h
  · simp at h
  · rename_i hdue
    rw [if_neg hdue]
    -- Mastership is what a poll announces on no other rung.
    have hactive : (c.restart now).standing = .active := by
      cases hs : (c.restart now).standing <;> simp [hs, Announcement.ofStanding?] at h
      rfl
    refine ⟨?_, ?_⟩
    · simpa [isActive] using (c.standing_restart_eq_active now).mp hactive
    · simp [hactive, Announcement.ofStanding?, isActive, polled]

/-! ### Changes of mastership -/

/-- Whether a consequence tells that mastership was won or lost. -/
def tellsOfMastership : Consequence → Bool
  | .promoted | .demoted => true
  | .broadcast _ => false

/-- Being master is a matter of the standing alone. -/
theorem isActive_congr {c c' : Candidate} (h : c'.standing = .active ↔ c.standing = .active) :
    c'.isActive = c.isActive := by
  rw [Bool.eq_iff_iff, isActive, isActive, beq_iff_eq, beq_iff_eq, h]

/-- Only the last echo of a climb changes mastership. -/
theorem isActive_hearEcho (c : Candidate) (a : Announcement) (now : Instant) :
    (c.hearEcho a now).1.isActive = c.isActive ∨ .promoted ∈ (c.hearEcho a now).2 := by
  unfold hearEcho
  split
  · -- Rungs below the last one are left for other rungs, and none of these is mastership.
    next hs => exact Or.inl (isActive_congr (by simp [hs]))
  · split
    · exact Or.inl rfl
    · split
      · next hs => exact Or.inl (isActive_congr (by simp [hs]))
      · next hs => exact Or.inl (isActive_congr (by simp [hs]))
      · next hs => exact Or.inl (isActive_congr (by simp [hs]))
      · exact Or.inr (List.mem_singleton_self _)
      · exact Or.inl rfl

/-- Hearing of a master costs mastership, or changes nothing about it. -/
theorem isActive_hearMaster (c : Candidate) (sender : String) (now : Instant) :
    (c.hearMaster sender now).1.isActive = c.isActive ∨
      .demoted ∈ (c.hearMaster sender now).2 := by
  by_cases hactive : c.standing = .active
  · refine Or.inr ?_
    -- A master that hears another one is told that it is one no more.
    simp [hearMaster, recordMaster, hactive]
  · obtain ⟨hstanding, -, -⟩ := hearMaster_of_ne_active hactive sender now
    refine Or.inl (isActive_congr ?_)
    rw [hstanding]
    split <;> simp [hactive]

/-- Hearing of a resignation makes no master. -/
theorem isActive_hearResync (c : Candidate) (sender : String) (now : Instant) :
    (c.hearResync sender now).isActive = c.isActive := by
  unfold hearResync
  dsimp only
  split
  · next hs => exact isActive_congr (by simp [hs])
  · rfl

/-- Hearing of a contender makes no master and unmakes none. -/
theorem isActive_hearContender (c : Candidate) (sender : String) (a : Announcement)
    (now : Instant) : (c.hearContender sender a now).1.isActive = c.isActive := by
  refine isActive_congr ?_
  by_cases hactive : c.standing = .active
  · rw [hearContender_of_active hactive, standing_meet]
  · cases hy : c.yieldsTo sender a with
    | true =>
      obtain ⟨hstanding, -, -⟩ := hearContender_of_yieldsTo hactive hy now
      simp [hstanding, hactive]
    | false => rw [hearContender_of_not_yieldsTo hactive hy, standing_meet]

/-- An announcement that makes a master or unmakes one has that as a consequence. -/
theorem isActive_hear (c : Candidate) (isSelf : Bool) (sender : String) (a : Announcement)
    (now : Instant) :
    (c.hear isSelf sender a now).1.isActive = c.isActive ∨
      ∃ x ∈ (c.hear isSelf sender a now).2, tellsOfMastership x = true := by
  unfold hear
  split
  · exact Or.inl rfl
  · cases isSelf with
    | true => exact (c.isActive_hearEcho a now).imp id fun h => ⟨_, h, rfl⟩
    | false =>
      -- Of the announcements of others, only a claim of mastership can cost it.
      cases a with
      | iAmStandby => exact Or.inl rfl
      | iAmMaster => exact (c.isActive_hearMaster sender now).imp id fun h => ⟨_, h, rfl⟩
      | resyncMaster => exact Or.inl (c.isActive_hearResync sender now)
      | whoIsMaster => exact Or.inl (isActive_congr (by simp [hearOther]))
      | requestingControl1 | requestingControl2 | takingControl =>
        exact Or.inl (c.isActive_hearContender sender _ now)

/-- A poll neither makes a master nor unmakes one. -/
theorem isActive_poll (c : Candidate) (now : Instant) (draw : Nat) :
    (c.poll now draw).1.isActive = c.isActive := by
  -- All that a poll may do to the standing is to start again.
  have hrestart : (c.restart now).isActive = c.isActive :=
    isActive_congr (c.standing_restart_eq_active now)
  unfold poll
  split
  · rfl
  · dsimp only
    split
    · exact hrestart
    · exact hrestart

/-! ### Exchanges -/

/-- What is announced when a consequence is carried out while the candidate stands as it does. -/
def announcements (c : Candidate) : Consequence → List Announcement
  | .broadcast a => [a]
  | .promoted => if c.isActive then [.iAmMaster] else []
  | .demoted => []

/-- What is announced at once on hearing an announcement. -/
def utters (heard : Candidate × List Consequence) : List Announcement :=
  heard.2.flatMap heard.1.announcements

/-- An echo is answered by nothing, or by a claim of mastership if it is the last on the ladder. -/
theorem utters_hearEcho (c : Candidate) (a : Announcement) (now : Instant) :
    utters (c.hearEcho a now) = [] ∨
      a = .takingControl ∧ utters (c.hearEcho a now) = [.iAmMaster] := by
  unfold hearEcho
  split
  · exact Or.inl rfl
  · split
    · exact Or.inl rfl
    · rename_i hlift
      have ha : Announcement.ofStanding? c.standing = some a :=
        Decidable.not_not.mp (not_or.mp hlift).1
      split
      · exact Or.inl rfl
      · exact Or.inl rfl
      · exact Or.inl rfl
      -- Only the echo on the last rung promotes.
      · rename_i hs
        rw [hs] at ha
        have htaking : a = .takingControl := (Option.some.inj ha).symm
        cases hactive : ((c.activate now).getD c).isActive with
        | true => exact Or.inr ⟨htaking, by simp [utters, announcements, hactive]⟩
        | false => exact Or.inl (by simp [utters, announcements, hactive])
      · exact Or.inl rfl

/-- A contender is answered by nothing, or by the master. -/
theorem utters_hearContender (c : Candidate) (sender : String) (a : Announcement) (now : Instant) :
    utters (c.hearContender sender a now) = [] ∨
      utters (c.hearContender sender a now) = [.iAmMaster] := by
  by_cases hactive : c.standing = .active
  · rw [hearContender_of_active hactive]
    exact Or.inr rfl
  · cases hy : c.yieldsTo sender a with
    | true =>
      refine Or.inl ?_
      rw [utters, (hearContender_of_yieldsTo hactive hy now).2.2]
      rfl
    | false =>
      rw [hearContender_of_not_yieldsTo hactive hy]
      exact Or.inl rfl

/-- An announcement is answered by nothing, a claim of mastership by an instance that stands down,
and what asks for mastership by a claim of it. So exchanges come to an end. -/
theorem utters_hear (c : Candidate) (isSelf : Bool) (sender : String) (a : Announcement)
    (now : Instant) :
    utters (c.hear isSelf sender a now) = [] ∨
      (a = .iAmMaster ∧ utters (c.hear isSelf sender a now) = [.iAmStandby]) ∨
      (a ≠ .iAmMaster ∧ a ≠ .iAmStandby ∧ a ≠ .resyncMaster) ∧
        utters (c.hear isSelf sender a now) = [.iAmMaster] := by
  unfold hear
  split
  · exact Or.inl rfl
  · split
    · -- The last echo of a climb is the one that promotes.
      rcases c.utters_hearEcho a now with hnone | ⟨rfl, hclaim⟩
      · exact Or.inl hnone
      · exact Or.inr (Or.inr ⟨by simp, hclaim⟩)
    · cases a with
      | iAmStandby | resyncMaster => exact Or.inl rfl
      | whoIsMaster =>
        by_cases hactive : c.standing = .active
        · exact Or.inr (Or.inr ⟨by simp, by simp [hearOther, hactive, utters, announcements]⟩)
        · exact Or.inl (by simp [hearOther, hactive, utters])
      | requestingControl1 | requestingControl2 | takingControl =>
        rcases c.utters_hearContender sender _ now with hnone | hclaim
        · exact Or.inl hnone
        · exact Or.inr (Or.inr ⟨by simp, hclaim⟩)
      | iAmMaster =>
        by_cases hactive : c.standing = .active
        · -- It says that it stands by, and that is answered by nobody.
          refine Or.inr (Or.inl ⟨rfl, ?_⟩)
          simp [hearOther, hearMaster, recordMaster, hactive, utters, announcements]
        · refine Or.inl ?_
          rw [utters, hearOther, (hearMaster_of_ne_active hactive sender now).2.2]
          rfl

/-! ### Histories -/

/-- Something that happens to a candidate. -/
inductive Event where
  | poll (now : Instant) (draw : Nat)
  /-- Hears a message whose action is that text. -/
  | process (isSelf : Bool) (sender action : String) (now : Instant)
  | activate (now : Instant)
  | deactivate (now : Instant)

/-- The candidate after an event. A message that cannot be read changes nothing, nor does an event
that is refused. -/
def after (c : Candidate) : Event → Candidate
  | .poll now draw => (c.poll now draw).1
  | .process isSelf sender action now =>
    match c.process isSelf sender action now with
    | .ok heard => heard.1
    | .error _ => c
  | .activate now => (c.activate now).getD c
  | .deactivate now => (c.deactivate now).getD c

/-- The candidate after some events in turn. -/
def afterAll (c : Candidate) (es : List Event) : Candidate := es.foldl after c

/-- Before anything happened the candidate is as it was. -/
@[simp] theorem afterAll_nil (c : Candidate) : c.afterAll [] = c := rfl

/-- The last of some events comes after all others. -/
@[simp] theorem afterAll_append_singleton (c : Candidate) (es : List Event) (e : Event) :
    c.afterAll (es ++ [e]) = (c.afterAll es).after e := by
  simp [afterAll]

end Candidate

end CommandMesh
