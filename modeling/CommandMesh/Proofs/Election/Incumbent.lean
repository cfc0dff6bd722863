import CommandMesh.Proofs.Election.Electorate

/-!
# `CommandMesh.Proofs.Election.Incumbent`: a master among instances that join

An electorate has a master, the incumbent, and all others stand by or do not know yet whether they
are heard, as instances do that were just started. The theorem says that the incumbent stays the
only master over every run, and that whoever polls comes to know it.

A run goes in steps. In a step any members look whether a poll is due, in any number and at any
times, and then everything arrives that they announce and that is announced in answer, in any order;
a step ends when nothing is on its way. `Steps` keeps who has polled with success so far. Policies,
jitter and times are those of the members and free: a member may poll several times in a step, also
after its time of standing by is over, and the incumbent may not poll at all. Nobody resigns and no
host makes or unmakes a master. Ids are different.

`Presides` is what holds during a step: the others only ask for the master, and whoever has come
further than to ask is owed an answer, which sends it back. That is the point where the argument is
not about one candidate. An instance that has asked may hear its own echo before the incumbent's
answer, and with a policy that lifts after few polls it is then on the second rung. But its question
is still on its way to the incumbent, or the answer is on its way to it (`Owed`), and nothing it has
done on the second rung was announced, for it has not polled there. When the step is over, nothing
is owed any more, so nobody is past the first rung.

Nobody is `Owed` anything who has not asked: with no poll on the first rung an echo does not lift,
whatever the policy says. This is why `Candidate.Joins` counts polls on the first rung and not on
the others.

The theorems:

* `Presides.pollOne`, `Presides.arrives`: polls and arrivals keep what holds during a step.
* `Presides.steps`: after a step nobody but the incumbent is past the first rung, and so the next
  step can begin.
* `incumbent_stays_master`: over every run of steps.
-/

set_option autoImplicit false

namespace CommandMesh

namespace Candidate

variable {c : Candidate} {now : Instant}

/-! ### Who joins -/

/-- The candidate waits for its own echo, stands by or asks who the master is. -/
def AsksAtMost (c : Candidate) : Prop :=
  c.standing = .verifying ∨ c.standing = .inactive ∨ c.standing = .starting

/-- The candidate is on the second rung at most, and without polls on the first if it is not `owed`
the answer of a master. -/
def Joins (owed : Prop) (c : Candidate) : Prop :=
  c.AsksAtMost ∧ (c.standing = .starting → c.attempts = 0 ∨ owed) ∨ c.standing = .requesting1 ∧ owed

/-- Who joins takes part in the election and is not master. -/
theorem Joins.ne_active {owed : Prop} (h : c.Joins owed) :
    c.standing ≠ .disabled ∧ c.standing ≠ .active := by
  rcases h with ⟨h | h | h, -⟩ | ⟨h, -⟩ <;> simp [h]

/-- Who joins goes on to do so if it is owed no less. -/
theorem Joins.mono {owed owed' : Prop} (h : c.Joins owed) (himp : owed → owed') :
    c.Joins owed' := by
  rcases h with ⟨hs, hcount⟩ | ⟨hs, howed⟩
  · exact Or.inl ⟨hs, fun hstarting => (hcount hstarting).imp id himp⟩
  · exact Or.inr ⟨hs, himp howed⟩

/-- Who is owed nothing asks at most. -/
theorem Joins.asksAtMost (h : c.Joins False) : c.AsksAtMost :=
  h.elim And.left fun ⟨_, hfalse⟩ => hfalse.elim

/-- The echo of a question lifts nobody past the second rung, and to the second rung only who is
owed an answer. -/
theorem Joins.hearEcho {owed : Prop} (h : c.Joins owed) (now : Instant) :
    let heard := c.hearEcho .whoIsMaster now
    heard.2 = [] ∧ heard.1.knownMaster = c.knownMaster ∧ heard.1.Joins owed := by
  rcases h with ⟨hs | hs | hs, hcount⟩ | ⟨hs, howed⟩
  · -- A newcomer joins at its first echo, with no poll counted yet.
    simp [Candidate.hearEcho, hs, Joins, AsksAtMost]
  · simp [Candidate.hearEcho, hs, Joins, AsksAtMost]
  · by_cases hfew : c.attempts ≤ c.policy.minAttempts
    · simp only [Candidate.hearEcho, hs, hfew]
      simp [Joins, AsksAtMost, hs, hcount hs]
    · -- Who has polled on the first rung is owed an answer.
      have howed : owed := by
        refine (hcount hs).resolve_left fun hzero => hfew ?_
        rw [hzero]
        exact UInt32.le_iff_toNat_le.mpr (Nat.zero_le _)
      simp [Candidate.hearEcho, hs, hfew, Announcement.ofStanding?, Joins, howed]
  · simp [Candidate.hearEcho, hs, Announcement.ofStanding?, Joins, howed]

/-- A question, its own or another one's, makes nobody say anything who is not master, and lifts
only who is owed an answer. -/
theorem Joins.hear_whoIsMaster {owed : Prop} (h : c.Joins owed) (isSelf : Bool) (sender : String)
    (now : Instant) :
    let heard := c.hear isSelf sender .whoIsMaster now
    heard.2 = [] ∧ heard.1.knownMaster = c.knownMaster ∧ heard.1.Joins owed := by
  obtain ⟨hdisabled, hactive⟩ := h.ne_active
  cases isSelf with
  | true =>
    have hecho := h.hearEcho now
    simpa [hear, hdisabled] using hecho
  | false =>
    rw [Candidate.hear_whoIsMaster hdisabled, if_neg hactive]
    refine ⟨rfl, by simp, ?_⟩
    simpa [Joins, AsksAtMost] using h

/-- The answer of the master sends back who has come further than to ask. -/
theorem Joins.hear_iAmMaster {owed : Prop} (h : c.Joins owed) (sender : String) (now : Instant) :
    let heard := c.hear false sender .iAmMaster now
    heard.2 = [] ∧ heard.1.knownMaster = some sender ∧ heard.1.Joins False := by
  obtain ⟨hdisabled, hactive⟩ := h.ne_active
  obtain ⟨hstanding, hknown, hwords⟩ := hearMaster_of_ne_active hactive sender now
  simp only [hear, if_neg hdisabled, Bool.false_eq_true, if_false, hearOther]
  refine ⟨hwords, hknown, Or.inl ⟨?_, fun hs => ?_⟩⟩
  · rw [AsksAtMost, hstanding]
    rcases h with ⟨hs | hs | hs, -⟩ | ⟨hs, -⟩ <;> simp [hs, Standing.isContending]
  · rw [hstanding] at hs
    -- Nobody is on the first rung after this, so no count of polls is left to bound.
    rcases h with ⟨h | h | h, -⟩ | ⟨h, -⟩ <;> simp [h, Standing.isContending] at hs

/-- A poll of who asks at most asks. -/
theorem AsksAtMost.poll (h : c.AsksAtMost) (now : Instant) (draw : Nat) :
    c.poll now draw = (c, none) ∨
      (c.poll now draw).2 = some .whoIsMaster ∧ (c.poll now draw).1.AsksAtMost := by
  by_cases hdue : c.nextPoll ≤ now
  · have hdisabled : c.standing ≠ .disabled := by
      rcases h with h | h | h <;> simp [h]
    refine Or.inr ?_
    rw [poll_of_due hdisabled hdue]
    -- Who has stood by for too long starts again, and asks like before.
    have hrestart : (c.restart now).AsksAtMost := by
      rcases c.restart_cases now with hsame | ⟨-, hstarting, -⟩
      · rwa [hsame]
      · exact Or.inr (Or.inr hstarting)
    refine ⟨?_, hrestart⟩
    rcases hrestart with hs | hs | hs <;> rw [hs] <;> rfl
  · refine Or.inl ?_
    rw [Candidate.poll, if_pos (Or.inr (Nat.lt_of_not_le hdue))]

/-- A poll of a master announces that it is one, and leaves it master. -/
theorem poll_of_active (h : c.standing = .active) (now : Instant) (draw : Nat) :
    (c.poll now draw).1.standing = .active ∧
      ((c.poll now draw).2 = none ∨ (c.poll now draw).2 = some .iAmMaster) := by
  by_cases hdue : c.nextPoll ≤ now
  · rw [poll_of_due (by simp [h]) hdue, restart_of_ne_inactive (by simp [h])]
    exact ⟨h, Or.inr (by rw [h]; rfl)⟩
  · rw [Candidate.poll, if_pos (Or.inr (Nat.lt_of_not_le hdue))]
    exact ⟨h, Or.inl rfl⟩

/-- A master stays one when it is asked who the master is, and says so. Its own announcements it
hears with no effect. -/
theorem hear_of_active (h : c.standing = .active) (isSelf : Bool) (sender : String)
    (a : Announcement) (ha : a = .whoIsMaster ∨ isSelf = true) (now : Instant) :
    let heard := c.hear isSelf sender a now
    heard.1.standing = .active ∧
      utters heard = if isSelf then [] else [.iAmMaster] := by
  cases isSelf with
  | true => simp [hear, hearEcho, h, utters]
  | false =>
    obtain rfl := ha.resolve_right (by simp)
    simp [hear, hearOther, h, utters, announcements]

end Candidate

namespace Electorate

variable {n : Nat} {ids : Fin n → String} {leader : Fin n} {who : List (Fin n)}
  {s s' mid : Electorate n} {now : Instant}

/-! ### Steps -/

/-- A member looks whether a poll is due, and announces what it asks for. -/
def pollOne (s : Electorate n) (i : Fin n) (now : Instant) (draw : Nat) : Electorate n where
  members := Function.update s.members i ((s.members i).poll now draw).1
  inFlight := s.inFlight ++
    ((s.members i).poll now draw).2.toList.flatMap (broadcast (s.members i).service)

/-- Members look in turn whether a poll is due, each at any time and any number of times. `who` are
those whose poll was due. -/
inductive Polling (s : Electorate n) : List (Fin n) → Electorate n → Prop where
  | nil : Polling s [] s
  | idle {who : List (Fin n)} {mid : Electorate n} {i : Fin n} {now : Instant} {draw : Nat} :
      Polling s who mid → ((mid.members i).poll now draw).2 = none →
        Polling s who (mid.pollOne i now draw)
  | poll {who : List (Fin n)} {mid : Electorate n} {i : Fin n} {now : Instant} {draw : Nat}
      {a : Announcement} :
      Polling s who mid → ((mid.members i).poll now draw).2 = some a →
        Polling s (i :: who) (mid.pollOne i now draw)

/-- In each step some members poll, and then everything arrives. `who` are those whose polls were
due so far. -/
inductive Steps (s₀ : Electorate n) : List (Fin n) → Electorate n → Prop where
  | nil : Steps s₀ [] s₀
  | step {who more : List (Fin n)} {s mid s' : Electorate n} :
      Steps s₀ who s → Polling s more mid → Exchange mid s' → s'.inFlight = [] →
        Steps s₀ (more ++ who) s'

/-! ### During a step -/

/-- The member will hear from the incumbent: the incumbent has answered, or will be asked. -/
def Owed (ids : Fin n → String) (leader : Fin n) (s : Electorate n) (i : Fin n) : Prop :=
  ⟨i, ids leader, .iAmMaster⟩ ∈ s.inFlight ∨ ⟨leader, ids i, .whoIsMaster⟩ ∈ s.inFlight

/-- The incumbent is master, and the others ask who is. Those in `who` know it or will hear it. -/
structure Presides (ids : Fin n → String) (leader : Fin n) (who : List (Fin n))
    (s : Electorate n) : Prop where
  service : ∀ i, (s.members i).service = ids i
  leads : (s.members leader).standing = .active
  lawful : ∀ d ∈ s.inFlight,
    d.announcement = .whoIsMaster ∨ d.announcement = .iAmMaster ∧ d.sender = ids leader
  joins : ∀ i, i ≠ leader → (s.members i).Joins (Owed ids leader s i)
  known : ∀ i ∈ who, i ≠ leader →
    (s.members i).knownMaster = some (ids leader) ∨ Owed ids leader s i

/-- Who is owed an answer is still owed it while more is on its way. -/
theorem Owed.mono {i : Fin n} (h : Owed ids leader s i)
    (hsub : ∀ d ∈ s.inFlight, d ∈ s'.inFlight) : Owed ids leader s' i :=
  h.imp (hsub _) (hsub _)

/-- When an electorate is still, and its others ask for a master at most, a step can begin. -/
theorem presides_of_still (hids : ∀ i, (s.members i).service = ids i)
    (hleads : (s.members leader).standing = .active) (hstill : s.inFlight = [])
    (hasks : ∀ i, i ≠ leader → (s.members i).Joins False)
    (hknown : ∀ i ∈ who, i ≠ leader → (s.members i).knownMaster = some (ids leader)) :
    Presides ids leader who s where
  service := hids
  leads := hleads
  lawful := by simp [hstill]
  joins := fun i hi => (hasks i hi).mono False.elim
  known := fun i hmem hi => Or.inl (hknown i hmem hi)

/-- What is on its way after a poll was so before, or is what the poll announces. -/
theorem mem_inFlight_pollOne {i : Fin n} {draw : Nat} {d : Delivery n} :
    d ∈ (s.pollOne i now draw).inFlight ↔ d ∈ s.inFlight ∨
      d.sender = (s.members i).service ∧
        ((s.members i).poll now draw).2 = some d.announcement := by
  simp only [pollOne, List.mem_append, List.mem_flatMap, Option.mem_toList, mem_broadcast]
  refine or_congr_right ⟨?_, ?_⟩
  · rintro ⟨a, ha, hsender, rfl⟩
    exact ⟨hsender, ha⟩
  · rintro ⟨hsender, ha⟩
    exact ⟨_, ha, hsender, rfl⟩

/-- A poll asks who the master is, or is that of the master. -/
theorem Presides.words_poll (h : Presides ids leader who s)
    (hasks : ∀ i, i ≠ leader → (s.members i).AsksAtMost) {i : Fin n} {draw : Nat}
    {a : Announcement} (ha : ((s.members i).poll now draw).2 = some a) :
    a = .whoIsMaster ∧ i ≠ leader ∨ a = .iAmMaster ∧ i = leader := by
  by_cases hi : i = leader
  · subst hi
    rcases (Candidate.poll_of_active h.leads now draw).2 with hnone | hclaim
    · rw [hnone] at ha
      exact absurd ha (by simp)
    · exact Or.inr ⟨Option.some.inj (ha.symm.trans hclaim), rfl⟩
  · rcases (hasks i hi).poll now draw with hnone | ⟨hwords, -⟩
    · rw [hnone] at ha
      exact absurd ha (by simp)
    · exact Or.inl ⟨Option.some.inj (ha.symm.trans hwords), hi⟩

/-- A poll leaves everybody asking at most. -/
theorem asksAtMost_pollOne (hasks : ∀ i, i ≠ leader → (s.members i).AsksAtMost) (i : Fin n)
    (now : Instant) (draw : Nat) {j : Fin n} (hj : j ≠ leader) :
    ((s.pollOne i now draw).members j).AsksAtMost := by
  by_cases hi : j = i
  · subst hi
    simp only [pollOne, Function.update_self]
    rcases (hasks j hj).poll now draw with hnone | ⟨-, hasks⟩
    · rw [hnone]
      exact hasks j hj
    · exact hasks
  · simp only [pollOne, Function.update_of_ne hi]
    exact hasks j hj

/-- Whoever polls with success is owed an answer then. -/
theorem Presides.owed_pollOne (h : Presides ids leader who s)
    (hasks : ∀ i, i ≠ leader → (s.members i).AsksAtMost) {i : Fin n} {draw : Nat}
    {a : Announcement} (hi : i ≠ leader) (ha : ((s.members i).poll now draw).2 = some a) :
    Owed ids leader (s.pollOne i now draw) i := by
  obtain ⟨rfl, -⟩ := (h.words_poll hasks ha).resolve_right fun hleader => hi hleader.2
  exact Or.inr (mem_inFlight_pollOne.mpr (Or.inr ⟨(h.service i).symm, ha⟩))

/-- A poll that is not due changes nothing, so whoever is changed by a poll is owed an answer. -/
theorem Presides.same_or_owed (h : Presides ids leader who s)
    (hasks : ∀ i, i ≠ leader → (s.members i).AsksAtMost) (i : Fin n) (now : Instant) (draw : Nat)
    {j : Fin n} (hj : j ≠ leader) :
    (s.pollOne i now draw).members j = s.members j ∨
      Owed ids leader (s.pollOne i now draw) j := by
  by_cases hi : j = i
  · subst hi
    rcases (hasks j hj).poll now draw with hidle | ⟨hwords, -⟩
    · refine Or.inl ?_
      simp only [Electorate.pollOne, Function.update_self]
      rw [hidle]
    · exact Or.inr (h.owed_pollOne hasks hj hwords)
  · exact Or.inl (Function.update_of_ne hi _ _)

/-- A poll keeps what holds during a step. -/
theorem Presides.pollOne (h : Presides ids leader who s)
    (hasks : ∀ i, i ≠ leader → (s.members i).AsksAtMost) (i : Fin n) (now : Instant) (draw : Nat) :
    Presides ids leader who (s.pollOne i now draw) := by
  have hmono : ∀ {j}, Owed ids leader s j → Owed ids leader (s.pollOne i now draw) j :=
    fun howed => howed.mono fun _ hd => mem_inFlight_pollOne.mpr (Or.inl hd)
  have hself : (s.pollOne i now draw).members i = ((s.members i).poll now draw).1 :=
    Function.update_self _ _ _
  refine ⟨?_, ?_, ?_, ?_, ?_⟩
  · intro j
    by_cases hi : j = i
    · rw [hi, hself, ((s.members i).keeps_poll now draw).1, h.service]
    · rw [show (s.pollOne i now draw).members j = _ from Function.update_of_ne hi _ _, h.service]
  · by_cases hi : leader = i
    · rw [hi, hself]
      exact (Candidate.poll_of_active (hi ▸ h.leads) now draw).1
    · rw [show (s.pollOne i now draw).members leader = _ from Function.update_of_ne hi _ _]
      exact h.leads
  · intro d hd
    rcases mem_inFlight_pollOne.mp hd with hd | ⟨hsender, ha⟩
    · exact h.lawful d hd
    · rcases h.words_poll hasks ha with ⟨ha, -⟩ | ⟨ha, hi⟩
      · exact Or.inl ha
      · exact Or.inr ⟨ha, by rw [hsender, h.service, hi]⟩
  · intro j hj
    -- Whoever has polled asks at most, and has its question on its way.
    rcases h.same_or_owed hasks i now draw hj with hsame | howed
    · rw [hsame]
      exact (h.joins j hj).mono hmono
    · exact Or.inl ⟨asksAtMost_pollOne hasks i now draw hj, fun _ => Or.inr howed⟩
  · intro j hmem hj
    rcases h.same_or_owed hasks i now draw hj with hsame | howed
    · rw [hsame]
      exact (h.known j hmem hj).imp id hmono
    · exact Or.inr howed

/-- Whatever the incumbent hears, it stays master, and answers who asks. -/
theorem Presides.arrives_leader (h : Presides ids leader who s) (hids : Function.Injective ids)
    {d : Delivery n} (hd : Arrival s d now s') (hi : d.addressee = leader) :
    Presides ids leader who s' := by
  obtain ⟨i, sender, a⟩ := d
  obtain rfl : i = leader := hi
  have hheard := heard_eq s ⟨i, sender, a⟩ now
  rw [h.service] at hheard
  have ha : a = .whoIsMaster ∨ (sender == ids i) = true :=
    (h.lawful _ hd.mem).imp id fun ⟨_, hsender⟩ => beq_iff_eq.mpr hsender
  -- All that comes to the incumbent are questions and its own announcements.
  obtain ⟨hactive, hwords⟩ := Candidate.hear_of_active h.leads (sender == ids i) sender a ha now
  rw [← hheard] at hactive hwords
  have howed : ∀ {j}, j ≠ i → Owed ids i s j → Owed ids i s' j := by
    rintro j hj (hmem | hmem)
    · exact Or.inl (hd.kept_of_addressee hmem hj)
    · by_cases heq : (⟨i, ids j, .whoIsMaster⟩ : Delivery n) = ⟨i, sender, a⟩
      · -- This is the question that has arrived, and the incumbent answers it.
        simp only [Delivery.mk.injEq, true_and] at heq
        have hother : (sender == ids i) = false :=
          beq_eq_false_iff_ne.mpr fun hsender => hj (hids (heq.1.trans hsender))
        rw [hother] at hwords
        refine Or.inl (hd.answered _ (mem_answers.mpr ⟨(h.service i).symm, ?_⟩))
        rw [hwords]
        exact List.mem_singleton_self _
      · exact Or.inr (hd.kept _ hmem heq)
  refine ⟨fun j => (hd.keeps j).service.trans (h.service j), ?_, ?_, ?_, ?_⟩
  · rw [show s'.members i = _ from hd.self]
    exact hactive
  · -- What is on its way now was so before, or the incumbent has just said it.
    intro e he
    rcases hd.origin e he with he | he
    · exact h.lawful e he
    · obtain ⟨hsender, hutters⟩ := mem_answers.mp he
      rw [hwords] at hutters
      split at hutters
      · simp at hutters
      · exact Or.inr ⟨List.mem_singleton.mp hutters, hsender.trans (h.service i)⟩
  · intro j hj
    rw [hd.other j hj]
    exact (h.joins j hj).mono (howed hj)
  · intro j hmem hj
    rw [hd.other j hj]
    exact (h.known j hmem hj).imp id (howed hj)

/-- What another member hears makes it say nothing. It goes back if it hears the incumbent, which
settles what it is owed, and all other debts stay. -/
theorem Presides.hears_other (h : Presides ids leader who s) (hids : Function.Injective ids)
    {d : Delivery n} (hd : Arrival s d now s') (hi : d.addressee ≠ leader) :
    (s.heard d now).2 = [] ∧
      (s'.members d.addressee).Joins (Owed ids leader s' d.addressee) ∧
      (∀ j, j ≠ d.addressee → Owed ids leader s j → Owed ids leader s' j) ∧
      ((s'.members d.addressee).knownMaster = some (ids leader) ∨
        (s'.members d.addressee).knownMaster = (s.members d.addressee).knownMaster ∧
          (Owed ids leader s d.addressee → Owed ids leader s' d.addressee)) := by
  obtain ⟨i, sender, a⟩ := d
  have hi : i ≠ leader := hi
  have hheard := heard_eq s ⟨i, sender, a⟩ now
  rw [h.service] at hheard
  have hself : s'.members i = (s.heard ⟨i, sender, a⟩ now).1 := hd.self
  have hjoins := h.joins i hi
  -- No question to the incumbent arrives here.
  have hquestion : ∀ {j}, ⟨leader, ids j, .whoIsMaster⟩ ∈ s.inFlight →
      ⟨leader, ids j, .whoIsMaster⟩ ∈ s'.inFlight :=
    fun hmem => hd.kept_of_addressee hmem (Ne.symm hi)
  rw [hself]
  -- What arrives is a question or the claim of the incumbent.
  rcases h.lawful _ hd.mem with rfl | ⟨rfl, rfl⟩
  · -- A question pays no debt: neither what the incumbent has said nor what it will be asked is
    -- this message.
    obtain ⟨hwords, hknown, hjoins'⟩ := hjoins.hear_whoIsMaster (sender == ids i) sender now
    have hmono : ∀ {j}, Owed ids leader s j → Owed ids leader s' j :=
      fun howed => howed.imp (fun hmem => hd.kept _ hmem (by simp)) hquestion
    rw [← hheard] at hwords hknown hjoins'
    exact ⟨hwords, hjoins'.mono hmono, fun j _ => hmono, Or.inr ⟨hknown, hmono⟩⟩
  · -- The claim pays the debt of its addressee, and of nobody else.
    have hother : (ids leader == ids i) = false :=
      beq_eq_false_iff_ne.mpr fun heq => hi (hids heq.symm)
    obtain ⟨hwords, hknown, hjoins'⟩ := hjoins.hear_iAmMaster (ids leader) now
    rw [hother] at hheard
    rw [← hheard] at hwords hknown hjoins'
    refine ⟨hwords, hjoins'.mono False.elim, fun j hj howed => ?_, Or.inl hknown⟩
    exact howed.imp (fun hmem => hd.kept_of_addressee hmem hj) hquestion

/-- Whatever another member hears, what holds during a step goes on to hold. -/
theorem Presides.arrives_other (h : Presides ids leader who s) (hids : Function.Injective ids)
    {d : Delivery n} (hd : Arrival s d now s') (hi : d.addressee ≠ leader) :
    Presides ids leader who s' := by
  obtain ⟨hwords, hjoins, howed, hknown⟩ := h.hears_other hids hd hi
  refine ⟨fun j => (hd.keeps j).service.trans (h.service j), ?_, ?_, ?_, ?_⟩
  · rw [hd.other leader (Ne.symm hi)]
    exact h.leads
  · intro e he
    rcases hd.origin e he with he | he
    · exact h.lawful e he
    · -- A member that is not master answers nothing.
      simp [mem_answers, Candidate.utters, hwords] at he
  · intro j hj
    by_cases hji : j = d.addressee
    · exact hji ▸ hjoins
    · rw [hd.other j hji]
      exact (h.joins j hj).mono (howed j hji)
  · intro j hmem hj
    by_cases hji : j = d.addressee
    · subst hji
      rcases hknown with hknown | ⟨hknown, howed⟩
      · exact Or.inl hknown
      · rw [hknown]
        exact (h.known _ hmem hj).imp id howed
    · rw [hd.other j hji]
      exact (h.known j hmem hj).imp id (howed j hji)

/-- Every arrival keeps what holds during a step. -/
theorem Presides.arrives (h : Presides ids leader who s) (hids : Function.Injective ids)
    (hs : Arrives s s') : Presides ids leader who s' := by
  obtain ⟨d, now, hd⟩ := hs.arrival
  by_cases hi : d.addressee = leader
  · exact h.arrives_leader hids hd hi
  · exact h.arrives_other hids hd hi

/-! ### From step to step -/

/-- Polls leave the others asking, and those whose poll was due are owed an answer. -/
theorem Presides.polling {more : List (Fin n)} (h : Presides ids leader who s)
    (hasks : ∀ i, i ≠ leader → (s.members i).AsksAtMost) (hpolling : Polling s more mid) :
    Presides ids leader (more ++ who) mid ∧ ∀ i, i ≠ leader → (mid.members i).AsksAtMost := by
  -- The induction is on the polls of the step, in which nothing arrives.
  induction hpolling with
  | nil => exact ⟨h, hasks⟩
  | @idle more mid i now draw _ _ ih =>
    obtain ⟨hmid, hasks'⟩ := ih
    exact ⟨hmid.pollOne hasks' i now draw,
      fun j hj => asksAtMost_pollOne hasks' i now draw hj⟩
  | @poll more mid i now draw a _ ha ih =>
    obtain ⟨hmid, hasks'⟩ := ih
    have hnext := hmid.pollOne hasks' i now draw
    refine ⟨⟨hnext.service, hnext.leads, hnext.lawful, hnext.joins, fun j hmem hj => ?_⟩,
      fun j hj => asksAtMost_pollOne hasks' i now draw hj⟩
    rcases List.mem_cons.mp hmem with rfl | hmem
    · -- Its question is on its way to the incumbent.
      exact Or.inr (hmid.owed_pollOne hasks' hj ha)
    · exact hnext.known j hmem hj

/-- When everything has arrived, the others ask at most, and those in `who` know the incumbent. -/
theorem Presides.still (h : Presides ids leader who s) (hstill : s.inFlight = []) :
    (∀ i, i ≠ leader → (s.members i).Joins False) ∧
      ∀ i ∈ who, i ≠ leader → (s.members i).knownMaster = some (ids leader) := by
  have howed : ∀ i, ¬ Owed ids leader s i := by
    intro i
    simp [Owed, hstill]
  exact ⟨fun i hi => (h.joins i hi).mono (howed i),
    fun i hmem hi => (h.known i hmem hi).resolve_right (howed i)⟩

/-- What holds before a step holds at every moment of it. -/
theorem Presides.during {more : List (Fin n)} (h : Presides ids leader who s)
    (hstill : s.inFlight = []) (hids : Function.Injective ids) (hpolling : Polling s more mid)
    (hexchange : Exchange mid s') : Presides ids leader (more ++ who) s' := by
  have hasks : ∀ i, i ≠ leader → (s.members i).AsksAtMost :=
    fun i hi => ((h.still hstill).1 i hi).asksAtMost
  exact hexchange.keeps (fun _ _ h hs => h.arrives hids hs) (h.polling hasks hpolling).1

/-- What holds before the first step holds after every step. -/
theorem Presides.steps {s₀ : Electorate n} {who : List (Fin n)} (h : Presides ids leader [] s₀)
    (hstill : s₀.inFlight = []) (hids : Function.Injective ids) (hsteps : Steps s₀ who s) :
    Presides ids leader who s ∧ s.inFlight = [] := by
  induction hsteps with
  | nil => exact ⟨h, hstill⟩
  | step _ hpolling hexchange hdone ih => exact ⟨ih.1.during ih.2 hids hpolling hexchange, hdone⟩

/-- A master and instances that stand by, or do not know yet whether they are heard, poll in steps,
any of them at any times, and everything that is announced in a step arrives in it, in any order. At
every moment the incumbent is master and nobody else. After every step all others wait for their
echo, stand by or ask who the master is, and whoever has polled knows the incumbent. -/
theorem incumbent_stays_master {s₀ s : Electorate n} {who : List (Fin n)}
    (hids : Function.Injective fun i => (s₀.members i).service)
    (hleads : (s₀.members leader).standing = .active)
    (hjoin : ∀ i, i ≠ leader →
      (s₀.members i).standing = .verifying ∨ (s₀.members i).standing = .inactive)
    (hstill : s₀.inFlight = []) (hsteps : Steps s₀ who s) :
    (∀ more mid s', Polling s more mid → Exchange mid s' →
      (s'.members leader).standing = .active ∧
        ∀ i, i ≠ leader → (s'.members i).standing ≠ .active) ∧
    (∀ i, i ≠ leader → (s.members i).standing = .verifying ∨ (s.members i).standing = .inactive ∨
      (s.members i).standing = .starting) ∧
    ∀ i ∈ who, i ≠ leader →
      (s.members i).knownMaster = some (s₀.members leader).service := by
  have hjoins : ∀ i, i ≠ leader → (s₀.members i).Joins False := by
    intro i hi
    rcases hjoin i hi with hs | hs <;> simp [Candidate.Joins, Candidate.AsksAtMost, hs]
  have hstart : Presides (fun i => (s₀.members i).service) leader [] s₀ :=
    presides_of_still (fun _ => rfl) hleads hstill hjoins (by simp)
  obtain ⟨h, hdone⟩ := hstart.steps hstill hids hsteps
  refine ⟨fun more mid s' hpolling hexchange => ?_, fun i hi => ?_, (h.still hdone).2⟩
  · have hduring := h.during hdone hids hpolling hexchange
    exact ⟨hduring.leads, fun i hi => (hduring.joins i hi).ne_active.2⟩
  · exact ((h.still hdone).1 i hi).asksAtMost

/-- An instance "b" that joins the master "a" knows it after its first poll. -/
theorem joiner_learns_incumbent :
    let leader := (Candidate.create "billing" "a" .participating 0).promote 0
    let joiner := Candidate.create "billing" "b" .participating 0
    let s₀ : Electorate 2 := ⟨fun i => if i = 0 then leader else joiner, []⟩
    ∃ s, Steps s₀ [1] s ∧ (s.members 0).standing = .active ∧
      (s.members 1).knownMaster = some "a" := by
  intro leader joiner s₀
  have hpolling : Polling s₀ [1] (s₀.pollOne 1 joiner.nextPoll 0) :=
    Polling.poll Polling.nil (show _ = some .whoIsMaster by decide +kernel)
  obtain ⟨s, hexchange, hdone⟩ := (s₀.pollOne 1 joiner.nextPoll 0).exists_exchange
  have hsteps : Steps s₀ [1] s := Steps.step Steps.nil hpolling hexchange hdone
  have hids : Function.Injective fun i => (s₀.members i).service := by
    unfold Function.Injective
    decide +kernel
  have hjoin : ∀ i, i ≠ 0 → (s₀.members i).standing = .verifying ∨
      (s₀.members i).standing = .inactive := by
    decide +kernel
  obtain ⟨hmaster, -, hknown⟩ :=
    incumbent_stays_master hids (by decide +kernel) hjoin rfl hsteps
  have hnow := hmaster [] s s Polling.nil Relation.ReflTransGen.refl
  exact ⟨s, hsteps, hnow.1, hknown 1 (by simp) (by decide)⟩

end Electorate

end CommandMesh
