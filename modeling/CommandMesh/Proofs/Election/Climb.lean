import CommandMesh.Proofs.Election.Ladder
import Mathlib.Data.List.Chain
import Mathlib.Data.List.Induction

/-!
# `CommandMesh.Proofs.Election.Climb`: mastership is won by a full climb

Whatever a candidate polls and hears, in whatever order and however often, an announcement makes it
master only at the top of a ladder that it has climbed rung by rung. The host may make it master or
unmake it at any time between; only an announcement cannot do so in any other way.

The counter of polls forgets the rungs below, so the history has to be kept beside the candidate:
`Candidate.pollsMade` lists the polls of a history with the rung that each of them counts for, and
`Rungs` says that they are enough to stand where the candidate stands. A poll that announces nothing
is none, and a poll that ends the time of standing by counts for the first rung. The counter is a
word of 32 bits and may wrap around. It is bounded here from above by the polls that were made and
never from below, so that no bound on the number of polls is needed: who wraps around has made more
polls than it counts.

The history is any list of events. The times of the polls need not grow, and messages may be the
candidate's own echoes in any number, announcements of others, or texts that are no announcement.
That polls come an interval apart is not assumed: it follows from the time of the next poll, which
the candidate keeps and which nothing but a poll changes.

`Candidate.Rises` is the step: an event leaves a candidate contending if it sets out at the foot of
the ladder, stays on its rung, or is lifted by one. From it `Candidate.exists_ascent` follows by
induction over the history: what a contender has behind it is a climb that began when it was last at
the foot, and was not broken since. `Candidate.Ascent` keeps what has to hold all the way, that it
contended and that no other instance claimed to be master; the rungs are then taken off from the
top.

The theorems:

* `Candidate.rises_of_isContending`: an event leads to a rung in no other way.
* `Candidate.exists_ascent`: a contender has climbed to its rung since it was last at the foot.
* `Candidate.spaced_pollsMade`: polls that announce something are an interval apart at least.
* `Candidate.top_of_promoted`: which message makes a master, and where the candidate stands then.
* `Candidate.promoted_by_full_climb`: the message that makes a candidate master is the echo of its
  own last announcement, after a climb of enough polls on every rung.
-/

set_option autoImplicit false

namespace CommandMesh

/-- A poll that announced something. -/
structure PollMade where
  time : Instant
  /-- The standing that the poll counts for. -/
  standing : Standing
deriving DecidableEq

/-- The polls `ps` are those by which one comes to stand on a rung with `n` polls counted there, if
an echo lifts after more than `m` polls. -/
inductive Rungs (m : Nat) : Standing → Nat → List PollMade → Prop where
  | lowest {n : Nat} {ps : List PollMade} :
      (∀ p ∈ ps, p.standing = .starting) → n ≤ ps.length → Rungs m .starting n ps
  | lift {s : Standing} {n k : Nat} {ps qs : List PollMade} :
      Rungs m s n ps → s.isContending = true → m < n → (∀ q ∈ qs, q.standing = s.next) →
        k ≤ qs.length → Rungs m s.next k (ps ++ qs)

namespace Rungs

variable {m n k : Nat} {s : Standing} {ps qs : List PollMade}

/-- More polls on the same rung. -/
theorem more (h : Rungs m s n ps) (hqs : ∀ q ∈ qs, q.standing = s) (hk : k ≤ n + qs.length) :
    Rungs m s k (ps ++ qs) := by
  cases h with
  | lowest hps hn =>
    refine .lowest (fun p hp => ?_) (by rw [List.length_append]; omega)
    exact (List.mem_append.mp hp).elim (hps p) (hqs p)
  | lift hbelow hs hm hps hn =>
    rw [List.append_assoc]
    refine .lift hbelow hs hm (fun q hq => ?_) (by rw [List.length_append]; omega)
    exact (List.mem_append.mp hq).elim (hps q) (hqs q)

/-- There are enough polls on all rungs below, and `n` on the present one. -/
theorem of_next (h : Rungs m s.next n ps) (hs : s.isContending = true) :
    ∃ k qs rs, Rungs m s k qs ∧ m < k ∧ ps = qs ++ rs ∧ (∀ r ∈ rs, r.standing = s.next) ∧
      n ≤ rs.length := by
  generalize hnext : s.next = t at h
  cases h with
  | lowest => cases s <;> simp [Standing.next] at hnext hs
  | @lift s' k _ qs rs hbelow hs' hm hrs hn =>
    -- There is one rung below each.
    have hsame : s' = s := by
      cases s <;> cases s' <;> simp_all [Standing.next, Standing.isContending]
    subst hsame
    exact ⟨k, qs, rs, hbelow, hm, rfl, hrs, hn⟩

/-- On the first rung there are only polls of that rung, and `n` of them at least. -/
theorem of_starting (h : Rungs m .starting n ps) :
    (∀ p ∈ ps, p.standing = .starting) ∧ n ≤ ps.length := by
  generalize hs : Standing.starting = s at h
  cases h with
  | lowest hps hn => exact ⟨hps, hn⟩
  | @lift s => cases s <;> simp [Standing.next] at hs

end Rungs

namespace Candidate

variable {c : Candidate} {now : Instant}

/-! ### Polls of a history -/

/-- The poll that an event makes, if it announces something. A poll that ends the time of standing
by counts for the first rung. -/
def pollMade? (c : Candidate) (e : Event) : Option PollMade :=
  match e with
  | .poll now draw => (c.poll now draw).2.map fun _ => ⟨now, (c.poll now draw).1.standing⟩
  | .process _ _ _ _ | .activate _ | .deactivate _ => none

/-- The polls of a history that announced something, in their order. -/
def pollsMade (c : Candidate) : List Event → List PollMade
  | [] => []
  | e :: es => (c.pollMade? e).toList ++ (c.after e).pollsMade es

/-- The poll of the last event comes after those of all others. -/
theorem pollsMade_append_singleton (c : Candidate) (es : List Event) (e : Event) :
    c.pollsMade (es ++ [e]) = c.pollsMade es ++ ((c.afterAll es).pollMade? e).toList := by
  induction es generalizing c with
  | nil => simp [pollsMade]
  | cons e' es ih =>
    rw [List.cons_append, pollsMade, ih, pollsMade, List.append_assoc]
    rfl

/-- A poll counts for the standing that it leaves the candidate in. -/
theorem standing_of_mem_pollMade? {e : Event} {p : PollMade}
    (h : p ∈ (c.pollMade? e).toList) : p.standing = (c.after e).standing := by
  rw [Option.mem_toList] at h
  cases e with
  | poll now draw =>
    obtain ⟨-, -, rfl⟩ := Option.map_eq_some_iff.mp h
    rfl
  | process | activate | deactivate => exact absurd h (by simp [pollMade?])

/-! ### One step -/

/-- The ways in which an event leaves a candidate on its way to mastership. -/
inductive Rises (c : Candidate) (e : Event) : Prop where
  /-- From the foot of the ladder to its lowest rung. -/
  | setsOut : c.standing = .verifying ∨ c.standing = .inactive →
      (c.after e).standing = .starting →
      (c.after e).attempts.toNat ≤ (c.pollMade? e).toList.length → Rises c e
  /-- On the same rung, perhaps with a poll. -/
  | stays : (c.after e).standing = c.standing →
      (c.after e).attempts.toNat ≤ c.attempts.toNat + (c.pollMade? e).toList.length → Rises c e
  /-- By an echo, after enough polls. -/
  | lifted : c.standing.isContending = true → (c.after e).standing = c.standing.next →
      c.policy.minAttempts.toNat < c.attempts.toNat → (c.after e).attempts = 0 → Rises c e

/-- An event that changes nothing leaves a candidate on its rung. -/
theorem rises_of_same {e : Event} (h : c.after e = c) : c.Rises e :=
  .stays (by rw [h]) (by rw [h]; exact Nat.le_add_right _ _)

/-- Who was at the foot of the ladder and contends now has just set out. -/
theorem rises_of_transition {e : Event} {next : Standing} {c' : Candidate}
    (h : c.after e = c'.transition next now) (hc' : c'.standing = c.standing)
    (hfoot : c.standing = .verifying ∨ c.standing = .inactive) (hnext : next = .starting) :
    c.Rises e := by
  subst hnext
  have hne : c'.standing ≠ .starting := by
    rw [hc']
    rcases hfoot with hs | hs <;> simp [hs]
  refine .setsOut hfoot (by rw [h, standing_transition]) ?_
  rw [h, attempts_transition_of_ne hne]
  exact Nat.zero_le _

/-- One more poll counts one more at most: the counter may wrap around, but never runs ahead. -/
theorem toNat_add_one_le (a : UInt32) : (a + 1).toNat ≤ a.toNat + 1 := by
  rw [UInt32.toNat_add]
  exact Nat.mod_le _ _

/-- A poll is due, or it changes nothing and announces nothing. -/
theorem poll_cases (c : Candidate) (now : Instant) (draw : Nat) :
    c.standing ≠ .disabled ∧ c.nextPoll ≤ now ∨ c.poll now draw = (c, none) := by
  by_cases hidle : c.standing = .disabled ∨ now < c.nextPoll
  · exact Or.inr (if_pos hidle)
  · rw [not_or, Nat.not_lt] at hidle
    exact Or.inl hidle

/-- A poll leaves a contender on its rung, or sets a candidate that stood by on the first one. -/
theorem rises_poll {draw : Nat} (h : (c.after (.poll now draw)).standing.isContending = true) :
    c.Rises (.poll now draw) := by
  rcases c.poll_cases now draw with hdue | hidle
  · have hpoll := poll_of_due hdue.1 hdue.2 draw
    have hafter : c.after (.poll now draw) = (c.restart now).polled now draw :=
      congrArg Prod.fst hpoll
    have hstanding : (c.after (.poll now draw)).standing = (c.restart now).standing := by
      rw [hafter]
      rfl
    -- A contender has something to announce, so the poll is counted.
    have hmade : (c.pollMade? (.poll now draw)).toList.length = 1 := by
      rw [hstanding] at h
      cases hs : (c.restart now).standing <;>
        simp [pollMade?, hpoll, hs, Announcement.ofStanding?, Standing.isContending] at h ⊢
    have hcounted :
        (c.after (.poll now draw)).attempts.toNat ≤ (c.restart now).attempts.toNat + 1 := by
      rw [hafter]
      unfold polled
      dsimp only
      split
      · omega
      · exact toNat_add_one_le _
    rcases c.restart_cases now with hsame | ⟨hinactive, hstarting, hzero⟩
    · rw [hsame] at hstanding hcounted
      exact .stays hstanding (by rw [hmade]; exact hcounted)
    · refine .setsOut (Or.inr hinactive) (hstanding.trans hstarting) ?_
      rw [hmade]
      simpa [hzero] using hcounted
  · exact rises_of_same (congrArg Prod.fst hidle)

/-- An event that changes neither the standing nor the count leaves a candidate on its rung. -/
theorem rises_of_eq {e : Event} (hs : (c.after e).standing = c.standing)
    (ha : (c.after e).attempts = c.attempts) : c.Rises e :=
  .stays hs (by rw [ha]; exact Nat.le_add_right _ _)

/-- A message that can be read is heard. -/
theorem after_process {isSelf : Bool} {sender action : String} {a : Announcement}
    (h : Announcement.ofText? action = some a) :
    c.after (.process isSelf sender action now) = (c.hear isSelf sender a now).1 := by
  simp only [after, process, Announcement.ofText, h]

/-- A message that cannot be read changes nothing. -/
theorem after_process_of_none {isSelf : Bool} {sender action : String}
    (h : Announcement.ofText? action = none) :
    c.after (.process isSelf sender action now) = c := by
  simp only [after, process, Announcement.ofText, h]

/-- An echo takes a candidate to the ladder, or up by one rung, or nowhere. -/
theorem rises_hearEcho {e : Event} {a : Announcement}
    (he : c.after e = (c.hearEcho a now).1) (h : (c.after e).standing.isContending = true) :
    c.Rises e := by
  by_cases hverifying : c.standing = .verifying
  · exact rises_of_transition (he.trans (by rw [hearEcho_of_verifying hverifying])) rfl
      (Or.inl hverifying) rfl
  · by_cases hlift : Announcement.ofStanding? c.standing ≠ some a ∨
        c.attempts ≤ c.policy.minAttempts
    · exact rises_of_same (he.trans (by simp [hearEcho, hverifying, hlift]))
    · have hcount : c.policy.minAttempts.toNat < c.attempts.toNat := by
        rw [not_or, UInt32.not_le] at hlift
        exact UInt32.lt_iff_toNat_lt.mp hlift.2
      rw [hearEcho, if_neg hverifying, if_neg hlift] at he
      cases hs : c.standing with
      | starting | requesting1 | requesting2 =>
        simp only [hs] at he
        refine .lifted (by rw [hs]; rfl) ?_ hcount ?_
        · rw [he, standing_transition, hs]
          rfl
        · rw [he]
          exact attempts_transition_of_ne (by simp [hs])
      | takingControl =>
        -- The last echo ends the climb.
        simp only [hs, activate, reduceCtorEq, if_false, Option.getD_some] at he
        rw [he, standing_promote] at h
        exact absurd h (by decide)
      | disabled | verifying | inactive | active =>
        simp only [hs] at he
        exact rises_of_same he

/-- Another instance's claim of mastership leaves no contender. -/
theorem not_isContending_hearMaster (c : Candidate) (sender : String) (now : Instant) :
    (c.hearMaster sender now).1.standing.isContending = false := by
  rw [standing_hearMaster]
  split
  · rfl
  · next hs => exact Bool.eq_false_iff.mpr fun hcontending => hs (Or.inr hcontending)

/-- A contender leaves a candidate on its rung, unless the candidate gives way and contends no more.
-/
theorem rises_hearContender {e : Event} {sender : String} {a : Announcement}
    (he : c.after e = (c.hearContender sender a now).1)
    (h : (c.after e).standing.isContending = true) : c.Rises e := by
  by_cases hactive : c.standing = .active
  · rw [hearContender_of_active hactive] at he
    exact rises_of_eq (by rw [he, standing_meet]) (by rw [he, attempts_meet])
  · cases hy : c.yieldsTo sender a with
    | true =>
      rw [he, (hearContender_of_yieldsTo hactive hy now).1] at h
      exact absurd h (by decide)
    | false =>
      rw [hearContender_of_not_yieldsTo hactive hy] at he
      exact rises_of_eq (by rw [he, standing_meet]) (by rw [he, attempts_meet])

/-- Another instance that resigns sends a candidate that stands by to the lowest rung. -/
theorem rises_hearResync {e : Event} {sender : String}
    (he : c.after e = c.hearResync sender now) : c.Rises e := by
  unfold hearResync at he
  dsimp only at he
  split at he
  · rename_i hs
    exact rises_of_transition he rfl (Or.inr hs) rfl
  · exact rises_of_eq (by rw [he]) (by rw [he])

/-- A message leads to a rung from the foot of the ladder, from the rung below, or from the rung
itself. -/
theorem rises_process {isSelf : Bool} {sender action : String}
    (h : (c.after (.process isSelf sender action now)).standing.isContending = true) :
    c.Rises (.process isSelf sender action now) := by
  cases htext : Announcement.ofText? action with
  | none => exact rises_of_same (after_process_of_none htext)
  | some a =>
    have hafter : c.after (.process isSelf sender action now) = (c.hear isSelf sender a now).1 :=
      after_process htext
    by_cases hdisabled : c.standing = .disabled
    · exact rises_of_same (hafter.trans (by simp [hear, hdisabled]))
    · cases isSelf with
      | true =>
        rw [hear, if_neg hdisabled, if_pos rfl] at hafter
        exact rises_hearEcho hafter h
      | false =>
        rw [hear, if_neg hdisabled, if_neg Bool.false_ne_true] at hafter
        cases a with
        | iAmStandby => exact rises_of_eq (by rw [hafter]; rfl) (by rw [hafter]; rfl)
        | iAmMaster =>
          rw [hafter] at h
          exact absurd h (by simp [hearOther, not_isContending_hearMaster])
        | resyncMaster => exact rises_hearResync hafter
        | whoIsMaster =>
          exact rises_of_eq (by rw [hafter]; exact standing_meet _ _)
            (by rw [hafter]; exact attempts_meet _ _)
        | requestingControl1 | requestingControl2 | takingControl =>
          exact rises_hearContender hafter h

/-- An event leads to a rung from the foot of the ladder, from the rung below, or from the rung
itself. -/
theorem rises_of_isContending {e : Event} (h : (c.after e).standing.isContending = true) :
    c.Rises e := by
  cases e with
  | poll now draw => exact rises_poll h
  | process isSelf sender action now => exact rises_process h
  -- The host makes a master or makes it stand by, and neither contends.
  | activate now =>
    unfold after activate at h
    dsimp only at h
    split at h
    · rename_i hs
      rw [Option.getD_none, hs] at h
      exact absurd h (by decide)
    · rw [Option.getD_some, standing_promote] at h
      exact absurd h (by decide)
  | deactivate now =>
    unfold after deactivate at h
    dsimp only at h
    split at h
    · rw [Option.getD_some, standing_transition] at h
      exact absurd h (by decide)
    · rename_i hs
      exact rises_of_same (by simp [after, deactivate, hs])

/-! ### Ascents -/

/-- The event is that another instance claims to be master. -/
def Event.isRivalClaim : Event → Bool
  | .process false _ action _ => Announcement.ofText? action == some .iAmMaster
  | _ => false

/-- Who still contends after an event has not heard another instance claim mastership. -/
theorem isRivalClaim_eq_false {e : Event} (h : (c.after e).standing.isContending = true) :
    e.isRivalClaim = false := by
  rw [← Bool.not_eq_true]
  intro hclaim
  cases e with
  | process isSelf sender action now =>
    cases isSelf with
    | true => exact absurd hclaim (by simp [Event.isRivalClaim])
    | false =>
      rw [after_process (beq_iff_eq.mp hclaim), hear] at h
      split at h
      · rename_i hs
        rw [hs] at h
        exact absurd h (by decide)
      · exact absurd h (by simp [hearOther, not_isContending_hearMaster])
  | poll | activate | deactivate => exact absurd hclaim (by simp [Event.isRivalClaim])

/-- Since it was at the foot of the ladder the candidate `c` has climbed through the events `es`
without a break, and heard no other instance claim mastership. -/
structure Ascent (c : Candidate) (es : List Event) : Prop where
  foot : c.standing = .verifying ∨ c.standing = .inactive
  aloft : ∀ before after, es = before ++ after → before ≠ [] →
    (c.afterAll before).standing.isContending = true
  unrivalled : ∀ e ∈ es, e.isRivalClaim = false

/-- A climb goes on through an event that leaves the candidate contending. -/
theorem Ascent.append_singleton {es : List Event} {e : Event} (h : c.Ascent es)
    (he : (c.afterAll (es ++ [e])).standing.isContending = true) : c.Ascent (es ++ [e]) where
  foot := h.foot
  aloft := by
    intro before after hsplit hne
    -- Every beginning of the longer climb is the whole of it or a beginning of the shorter one.
    rcases List.eq_nil_or_concat' after with rfl | ⟨after, e', rfl⟩
    · rwa [← List.append_nil before, ← hsplit]
    · rw [← List.append_assoc] at hsplit
      exact h.aloft before after (List.append_inj' hsplit rfl).1 hne
  unrivalled := by
    intro e' he'
    rcases List.mem_append.mp he' with he' | he'
    · exact h.unrivalled e' he'
    · rw [List.mem_singleton.mp he']
      rw [afterAll_append_singleton] at he
      exact isRivalClaim_eq_false he

/-- A climb begins at the foot of the ladder. -/
theorem ascent_nil (h : c.standing = .verifying ∨ c.standing = .inactive) : c.Ascent [] where
  foot := h
  aloft := by
    intro before after hsplit hne
    exact absurd (List.append_eq_nil_iff.mp hsplit.symm).1 hne
  unrivalled := by simp

/-! ### What stays over a history -/

/-- Promotion keeps the instance, its policy and the time of its next poll. -/
theorem keeps_promote (c : Candidate) (now : Instant) : Keeps c (c.promote now) :=
  (c.keeps_transition .active now).trans ⟨rfl, rfl, rfl⟩

/-- An event that is no poll changes neither the instance nor the time of its next poll. -/
theorem keeps_after {e : Event} (he : ∀ now draw, e ≠ .poll now draw) : Keeps c (c.after e) := by
  cases e with
  | poll now draw => exact absurd rfl (he now draw)
  | process isSelf sender action now =>
    cases htext : Announcement.ofText? action with
    | none =>
      rw [after_process_of_none htext]
      exact Keeps.refl c
    | some a =>
      rw [after_process htext]
      exact c.keeps_hear isSelf sender a now
  | activate now =>
    unfold after activate
    dsimp only
    split
    · exact Keeps.refl c
    · exact c.keeps_promote now
  | deactivate now =>
    unfold after deactivate
    dsimp only
    split
    · exact c.keeps_transition .inactive now
    · exact Keeps.refl c

/-- No event changes the policy. -/
theorem policy_after (c : Candidate) (e : Event) : (c.after e).policy = c.policy := by
  cases e with
  | poll now draw => exact (c.keeps_poll now draw).2
  | process | activate | deactivate => exact (keeps_after (by simp)).policy

/-- The policy is the same over a whole history. -/
theorem policy_afterAll (c : Candidate) (es : List Event) : (c.afterAll es).policy = c.policy := by
  induction es using List.reverseRecOn with
  | nil => rfl
  | append_singleton es e ih => rw [afterAll_append_singleton, policy_after, ih]

/-- A history goes on from where its first part has led. -/
theorem afterAll_append (c : Candidate) (es es' : List Event) :
    c.afterAll (es ++ es') = (c.afterAll es).afterAll es' :=
  List.foldl_append

/-- A contender has climbed to its rung since it was last at the foot of the ladder: it has made
enough polls on all rungs below, and as many as it counts on its own. -/
theorem exists_ascent (hc : c.standing.isContending = false) {es : List Event}
    (h : (c.afterAll es).standing.isContending = true) :
    ∃ before climb, es = before ++ climb ∧ (c.afterAll before).Ascent climb ∧
      Rungs c.policy.minAttempts.toNat (c.afterAll es).standing (c.afterAll es).attempts.toNat
        ((c.afterAll before).pollsMade climb) := by
  -- The induction is on the last event: it is what the rungs grow by.
  induction es using List.reverseRecOn with
  | nil =>
    rw [afterAll_nil, hc] at h
    exact absurd h Bool.false_ne_true
  | append_singleton es e ih =>
    have hstep : ((c.afterAll es).after e).standing.isContending = true := by
      rwa [← afterAll_append_singleton]
    have hmade : ∀ p ∈ ((c.afterAll es).pollMade? e).toList,
        p.standing = ((c.afterAll es).after e).standing := fun p hp => standing_of_mem_pollMade? hp
    -- A climb that was under way goes on with the event.
    have hextend : ∀ before climb, es = before ++ climb →
        (c.afterAll before).Ascent climb →
          (c.afterAll before).Ascent (climb ++ [e]) ∧
            (c.afterAll before).pollsMade (climb ++ [e]) =
              (c.afterAll before).pollsMade climb ++ ((c.afterAll es).pollMade? e).toList := by
      rintro before climb rfl hascent
      rw [afterAll_append] at hstep
      refine ⟨hascent.append_singleton (by rwa [afterAll_append_singleton]), ?_⟩
      rw [pollsMade_append_singleton, afterAll_append]
    rw [afterAll_append_singleton]
    rcases rises_of_isContending hstep with ⟨hfoot, hstarting, hcount⟩ | ⟨hsame, hcount⟩ |
        ⟨hbelow, hnext, hm, hzero⟩
    · -- The climb begins with this event.
      refine ⟨es, [e], rfl, (ascent_nil hfoot).append_singleton hstep, ?_⟩
      rw [pollsMade, pollsMade, List.append_nil, hstarting]
      exact .lowest (fun p hp => (hmade p hp).trans hstarting) hcount
    · -- The candidate contended before, and on the same rung.
      have hbefore := ih (by rwa [← hsame])
      obtain ⟨before, climb, hsplit, hascent, hrungs⟩ := hbefore
      obtain ⟨hascent', hpolls⟩ := hextend before climb hsplit hascent
      refine ⟨before, climb ++ [e], by rw [hsplit, List.append_assoc], hascent', ?_⟩
      rw [hpolls, hsame]
      exact hrungs.more (fun p hp => (hmade p hp).trans hsame) hcount
    · -- It contended on the rung below, and an echo has lifted it.
      obtain ⟨before, climb, hsplit, hascent, hrungs⟩ := ih hbelow
      obtain ⟨hascent', hpolls⟩ := hextend before climb hsplit hascent
      refine ⟨before, climb ++ [e], by rw [hsplit, List.append_assoc], hascent', ?_⟩
      rw [hpolls, hnext]
      rw [policy_afterAll] at hm
      refine .lift hrungs hbelow hm (fun p hp => (hmade p hp).trans hnext) ?_
      rw [hzero]
      exact Nat.zero_le _

/-! ### The time between polls -/

/-- A poll that announces something was due, and the next one is not due before an interval has
passed. -/
theorem nextPoll_of_pollMade? {e : Event} {p : PollMade} (h : c.pollMade? e = some p) :
    c.nextPoll ≤ p.time ∧ p.time + c.policy.pollSpan ≤ (c.after e).nextPoll := by
  cases e with
  | poll now draw =>
    obtain ⟨a, ha, rfl⟩ := Option.map_eq_some_iff.mp h
    rcases c.poll_cases now draw with hdue | hidle
    · refine ⟨hdue.2, ?_⟩
      rw [after, poll_of_due hdue.1 hdue.2, polled, (c.keeps_restart now).policy]
      exact Nat.le_add_right _ _
    · rw [hidle] at ha
      exact absurd ha (by simp)
  | process | activate | deactivate => exact absurd h (by simp [pollMade?])

/-- Whatever announces nothing leaves the time of the next poll as it is. -/
theorem nextPoll_of_not_pollMade? {e : Event} (h : c.pollMade? e = none) :
    (c.after e).nextPoll = c.nextPoll := by
  cases e with
  | poll now draw =>
    have hnone : (c.poll now draw).2 = none := by simpa [pollMade?] using h
    rcases c.poll_cases now draw with hdue | hidle
    · rw [poll_of_due hdue.1 hdue.2] at hnone
      -- Starting again does not take the candidate out of the election.
      rcases c.restart_cases now with hsame | ⟨-, hstarting, -⟩
      · rw [hsame] at hnone
        cases hs : c.standing <;> simp [hs, Announcement.ofStanding?] at hnone
        exact absurd hs hdue.1
      · simp [hstarting, Announcement.ofStanding?] at hnone
    · rw [after, hidle]
  | process | activate | deactivate => exact (keeps_after (by simp)).nextPoll

/-- The polls of a history come when they are due, each an interval after the one before at
least. -/
theorem spaced_pollsMade (c : Candidate) (es : List Event) :
    (∀ p ∈ (c.pollsMade es).head?, c.nextPoll ≤ p.time) ∧
      (c.pollsMade es).IsChain fun p q => p.time + c.policy.pollSpan ≤ q.time := by
  -- The candidate is general, since its first event leaves another one behind.
  induction es generalizing c with
  | nil => simp [pollsMade]
  | cons e es ih =>
    obtain ⟨hhead, hchain⟩ := ih (c.after e)
    rw [policy_after] at hchain
    cases hmade : c.pollMade? e with
    | none =>
      rw [nextPoll_of_not_pollMade? hmade] at hhead
      simpa [pollsMade, hmade] using And.intro hhead hchain
    | some p =>
      -- The polls that follow come after the time that this one sets.
      obtain ⟨hdue, hnext⟩ := nextPoll_of_pollMade? hmade
      have hpolls : c.pollsMade (e :: es) = p :: (c.after e).pollsMade es := by
        simp [pollsMade, hmade]
      rw [hpolls]
      refine ⟨by simpa using hdue, ?_⟩
      exact List.isChain_cons.mpr ⟨fun q hq => hnext.trans (hhead q hq), hchain⟩

/-- Between the first and the last of some polls that are a span apart lie all but one of these
spans. -/
theorem span_of_isChain {span : Span} {ps : List PollMade}
    (h : ps.IsChain fun p q => p.time + span ≤ q.time) (hne : ps ≠ []) :
    (ps.head hne).time + (ps.length - 1) * span ≤ (ps.getLast hne).time := by
  induction ps with
  | nil => exact absurd rfl hne
  | cons p ps ih =>
    cases ps with
    | nil => simp
    | cons q ps =>
      obtain ⟨hpq, hrest⟩ := List.isChain_cons_cons.mp h
      have hlate := ih hrest (by simp)
      simp only [List.head_cons, List.length_cons, Nat.add_sub_cancel] at hlate ⊢
      rw [List.getLast_cons (by simp)]
      calc p.time + (ps.length + 1) * span
          = p.time + span + ps.length * span := by
            rw [Nat.add_mul, Nat.one_mul, Nat.add_comm (_ * span), Nat.add_assoc]
        _ ≤ q.time + ps.length * span := Nat.add_le_add_right hpq _
        _ ≤ _ := hlate

/-! ### The whole ladder -/

/-- From the foot of the ladder the candidate `c` has climbed through the events `es` to the last
rung. It has made more than `m` polls on each rung, the lowest first, and no others. -/
structure FullClimb (m : Nat) (span : Span) (c : Candidate) (es : List Event) : Prop
    extends Ascent c es where
  rungs : ∃ starting requesting1 requesting2 takingControl,
    c.pollsMade es = starting ++ requesting1 ++ requesting2 ++ takingControl ∧
      (∀ p ∈ starting, p.standing = .starting) ∧ m + 1 ≤ starting.length ∧
      (∀ p ∈ requesting1, p.standing = .requesting1) ∧ m + 1 ≤ requesting1.length ∧
      (∀ p ∈ requesting2, p.standing = .requesting2) ∧ m + 1 ≤ requesting2.length ∧
      (∀ p ∈ takingControl, p.standing = .takingControl) ∧ m + 1 ≤ takingControl.length
  /-- The last poll comes so long after the first. -/
  duration : ∃ first last, (c.pollsMade es).head? = some first ∧
    (c.pollsMade es).getLast? = some last ∧ first.time + (4 * (m + 1) - 1) * span ≤ last.time

/-- Who stands on the last rung with enough polls has climbed the whole ladder. -/
theorem Ascent.fullClimb {m n : Nat} {es : List Event} (h : c.Ascent es)
    (hrungs : Rungs m .takingControl n (c.pollsMade es)) (hn : m < n) :
    FullClimb m c.policy.pollSpan c es := by
  -- The rungs are taken off from the top.
  obtain ⟨n₃, ps₃, takingControl, hrungs, hm₃, hpolls₃, htaking, hlen₄⟩ :=
    Rungs.of_next (s := .requesting2) hrungs rfl
  obtain ⟨n₂, ps₂, requesting2, hrungs, hm₂, hpolls₂, hrequesting2, hlen₃⟩ :=
    Rungs.of_next (s := .requesting1) hrungs rfl
  obtain ⟨n₁, starting, requesting1, hrungs, hm₁, hpolls₁, hrequesting1, hlen₂⟩ :=
    Rungs.of_next (s := .starting) hrungs rfl
  obtain ⟨hstarting, hlen₁⟩ := hrungs.of_starting
  have hpolls : c.pollsMade es = starting ++ requesting1 ++ requesting2 ++ takingControl := by
    rw [hpolls₃, hpolls₂, hpolls₁]
  refine ⟨h, ⟨starting, requesting1, requesting2, takingControl, hpolls, hstarting, by omega,
    hrequesting1, by omega, hrequesting2, by omega, htaking, by omega⟩, ?_⟩
  have hlength : 4 * (m + 1) ≤ (c.pollsMade es).length := by
    rw [hpolls]
    simp only [List.length_append]
    omega
  have hne : c.pollsMade es ≠ [] := by
    intro hnil
    rw [hnil, List.length_nil] at hlength
    omega
  refine ⟨_, _, List.head?_eq_some_head hne, List.getLast?_eq_some_getLast hne, ?_⟩
  have hspan := span_of_isChain (c.spaced_pollsMade es).2 hne
  exact (Nat.add_le_add_left (Nat.mul_le_mul_right _ (by omega)) _).trans hspan

/-- No announcement of another instance makes a master. -/
theorem active_of_active_hearOther {sender : String} {a : Announcement}
    (h : (c.hearOther sender a now).1.standing = .active) : c.standing = .active := by
  have hsame : ∀ {c' : Candidate}, c'.isActive = c.isActive → c'.standing = .active →
      c.standing = .active := by
    intro c' hactive hs
    rw [isActive, hs, beq_self_eq_true, isActive] at hactive
    exact beq_iff_eq.mp hactive.symm
  cases a with
  | iAmStandby => exact h
  | iAmMaster =>
    -- A claim makes whoever is not master stand by, or leaves it where it is.
    by_contra hne
    obtain ⟨hstanding, -, -⟩ := hearMaster_of_ne_active hne sender now
    rw [hearOther, hstanding] at h
    split at h
    · exact absurd h (by decide)
    · exact hne h
  | resyncMaster => exact hsame (c.isActive_hearResync sender now) h
  | whoIsMaster => exact (standing_meet c sender).symm.trans h
  | requestingControl1 | requestingControl2 | takingControl =>
    exact hsame (c.isActive_hearContender sender _ now) h

/-- An echo makes a master only if it is that of the last announcement on the ladder, and after
enough polls. -/
theorem top_of_active_hearEcho {a : Announcement} (hbefore : c.standing ≠ .active)
    (h : (c.hearEcho a now).1.standing = .active) :
    a = .takingControl ∧ (c.hearEcho a now).2 = [.promoted] ∧ c.standing = .takingControl ∧
      c.policy.minAttempts.toNat < c.attempts.toNat := by
  by_cases hverifying : c.standing = .verifying
  · rw [hearEcho_of_verifying hverifying, standing_transition] at h
    exact absurd h (by decide)
  · by_cases hlift : Announcement.ofStanding? c.standing ≠ some a ∨
        c.attempts ≤ c.policy.minAttempts
    · rw [hearEcho, if_neg hverifying, if_pos hlift] at h
      exact absurd h hbefore
    · rw [hearEcho, if_neg hverifying, if_neg hlift] at h ⊢
      rw [not_or, Decidable.not_not, UInt32.not_le] at hlift
      cases hs : c.standing with
      | takingControl =>
        rw [hs] at hlift
        exact ⟨(Option.some.inj hlift.1).symm, rfl, rfl, UInt32.lt_iff_toNat_lt.mp hlift.2⟩
      | starting | requesting1 | requesting2 =>
        simp only [hs, standing_transition] at h
        exact absurd h (by decide)
      | disabled | verifying | inactive =>
        simp only [hs] at h
        exact absurd h (by decide)
      | active => exact absurd hs hbefore

/-- A message makes a candidate master only if it is the echo of the last announcement on the
ladder, after enough polls on its last rung. -/
theorem top_of_promoted {isSelf : Bool} {sender action : String} (hbefore : c.standing ≠ .active)
    (hafter : (c.after (.process isSelf sender action now)).standing = .active) :
    isSelf = true ∧ Announcement.ofText? action = some .takingControl ∧
      c.process isSelf sender action now =
        .ok (c.after (.process isSelf sender action now), [.promoted]) ∧
      c.standing = .takingControl ∧ c.policy.minAttempts.toNat < c.attempts.toNat := by
  cases htext : Announcement.ofText? action with
  | none =>
    rw [after_process_of_none htext] at hafter
    exact absurd hafter hbefore
  | some a =>
    have hprocess : c.process isSelf sender action now = .ok (c.hear isSelf sender a now) := by
      simp only [process, Announcement.ofText, htext]
    rw [after_process htext] at hafter ⊢
    rw [hprocess]
    by_cases hdisabled : c.standing = .disabled
    · rw [hear, if_pos hdisabled] at hafter
      exact absurd hafter hbefore
    · cases isSelf with
      -- Whatever another instance says, it makes no master.
      | false =>
        rw [hear, if_neg hdisabled, if_neg Bool.false_ne_true] at hafter
        exact absurd (active_of_active_hearOther hafter) hbefore
      | true =>
        rw [hear, if_neg hdisabled, if_pos rfl] at hafter ⊢
        obtain ⟨rfl, hpromoted, htop, hcount⟩ := top_of_active_hearEcho hbefore hafter
        exact ⟨rfl, rfl, by rw [← hpromoted], htop, hcount⟩

/-- Whatever a candidate has polled and heard before, in whatever order, and wherever it was made
master or unmade from outside: a message that makes it master is the echo of its own announcement
that it takes control, and promotes it. Since the candidate was last at the foot of the ladder it
has climbed the whole ladder and heard no other instance claim mastership, and between the first
and the last of its polls on the way lie all but one of the intervals of that many polls. -/
theorem promoted_by_full_climb (name service : String) (policy : ElectionPolicy)
    (founding : Instant) (es : List Event) (isSelf : Bool) (sender action : String) (now : Instant)
    (hbefore : ((create name service policy founding).afterAll es).standing ≠ .active)
    (hafter : (((create name service policy founding).afterAll es).after
      (.process isSelf sender action now)).standing = .active) :
    let c := (create name service policy founding).afterAll es
    isSelf = true ∧ Announcement.ofText? action = some .takingControl ∧
      c.process isSelf sender action now =
        .ok (c.after (.process isSelf sender action now), [.promoted]) ∧
      ∃ before climb, es = before ++ climb ∧
        FullClimb policy.minAttempts.toNat policy.pollSpan
          ((create name service policy founding).afterAll before) climb := by
  intro c
  obtain ⟨hself, htext, hprocess, htop, hcount⟩ := top_of_promoted hbefore hafter
  refine ⟨hself, htext, hprocess, ?_⟩
  have hfounded : (create name service policy founding).standing.isContending = false := by
    unfold create
    dsimp only
    split <;> rfl
  have hcontending : ((create name service policy founding).afterAll es).standing.isContending =
      true := by
    rw [htop]
    rfl
  obtain ⟨before, climb, hsplit, hascent, hrungs⟩ := exists_ascent hfounded hcontending
  refine ⟨before, climb, hsplit, ?_⟩
  rw [htop] at hrungs
  rw [policy_afterAll] at hcount
  have hclimb := hascent.fullClimb hrungs hcount
  rwa [policy_afterAll] at hclimb

/-- A candidate that is left alone polls once to verify that it is heard, and then three times on
each rung. -/
def quietClimb : List Event :=
  let polls (first : Nat) : List Event :=
    [.poll (first * 5000000000) 0, .poll ((first + 1) * 5000000000) 0,
     .poll ((first + 2) * 5000000000) 0]
  [.poll 1000000000 0, .process true "a" "WhoIsMaster" 1000000000] ++
    polls 2 ++ [.process true "a" "WhoIsMaster" 20000000000] ++
    polls 5 ++ [.process true "a" "RequestingControl1" 35000000000] ++
    polls 8 ++ [.process true "a" "RequestingControl2" 50000000000] ++ polls 11

/-- The climb of a candidate that is left alone. -/
theorem promoted_after_quiet_climb :
    let c := (create "billing" "a" .participating 0).afterAll quietClimb
    c.standing ≠ .active ∧
      (c.after (.process true "a" "TakingControl" 65000000000)).standing = .active ∧
      c.process true "a" "TakingControl" 65000000000 =
        .ok (c.after (.process true "a" "TakingControl" 65000000000), [.promoted]) ∧
      ∃ before climb, quietClimb = before ++ climb ∧
        FullClimb 2 (.ofMillis 5000) ((create "billing" "a" .participating 0).afterAll before)
          climb := by
  have hbefore : ((create "billing" "a" .participating 0).afterAll quietClimb).standing ≠
      .active := by decide +kernel
  have hafter : (((create "billing" "a" .participating 0).afterAll quietClimb).after
      (.process true "a" "TakingControl" 65000000000)).standing = .active := by decide +kernel
  obtain ⟨-, -, hprocess, hclimb⟩ := promoted_by_full_climb "billing" "a" .participating 0
    quietClimb true "a" "TakingControl" 65000000000 hbefore hafter
  exact ⟨hbefore, hafter, hprocess, hclimb⟩

end Candidate

end CommandMesh
