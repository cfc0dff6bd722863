import CommandMesh.Proofs.Election.Climb
import CommandMesh.Proofs.Election.Partners

/-!
# `CommandMesh.Proofs.Election.Standby`: until when a candidate stands by

A candidate that stands by has a deadline, and the poll that finds it passed makes the candidate
start again. The theorem says, over every history, where this deadline comes from and what a poll
that is due does before it and after it.

An event `renews` the time of standing by if it makes the candidate stand by, or if another instance
is heard that is master or contends (`Event.isBid`). `lastRenewal` reads off a history when that
happened last, without a look at any deadline; the claim is that the deadline of who stands by is
that moment and the time of the policy. A question for the master, the news that somebody stands by
and the candidate's own echoes do not renew it. A resignation does not either: it makes who stands
by start again at once.

Times are those of the events and need not grow: the deadline is that of the last renewal in the
order of the history, also where an earlier event carries a later time. A poll is due or not by the
time of the next poll, and one that is not due changes nothing. Who hears a master before its first
echo is the one exception to "nobody else has a deadline": it writes one down and does not stand by,
and since the first echo takes it away again, it never counts.

`Shifts` is the step: what an event does to the standing and to the deadline, in four cases. From it
come the invariant `Watched` and that nobody goes back to where it was before it joined. That a
master knows of no other master needs the table of partners, and is taken from
`CommandMesh.Proofs.Election.Partners`: whoever is master after an event was it before and wrote
down no other, or has just written that nobody else is.

The theorems:

* `Candidate.shifts_after`: an event does nothing else to the standing and the deadline.
* `Candidate.watched_afterAll`: over every history the deadline of who stands by comes from the last
  renewal, and nobody on the ladder or above it has one.
* `Candidate.poll_of_inactive`: what a poll does before the deadline and after it.
* `Candidate.knowsNone_of_active`: a master knows of no other master.
* `Candidate.standing_of_afterAll`: nobody comes back to where it was before it joined.
* `Candidate.stands_by_until_deadline`: all this together, with what a poll does that is due.
-/

set_option autoImplicit false

namespace CommandMesh

/-- Whether an instance that announces this is master or on its way past the first rung. -/
def Announcement.isBid : Announcement → Bool
  | iAmMaster | requestingControl1 | requestingControl2 | takingControl => true
  | whoIsMaster | iAmStandby | resyncMaster => false

namespace Candidate

variable {c c' : Candidate} {now : Instant}

/-! ### Renewals -/

/-- When an event happens. -/
def Event.time : Event → Instant
  | .poll now _ | .process _ _ _ now | .activate now | .deactivate now => now

/-- The event is that another instance is heard that is master or contends. -/
def Event.isBid : Event → Bool
  | .process false _ action _ => (Announcement.ofText? action).any Announcement.isBid
  | _ => false

/-- Whether the time of standing by begins afresh with an event: the candidate begins to stand by,
or another instance is heard that is master or contends. -/
def renews (c : Candidate) (e : Event) : Bool :=
  (c.standing != .inactive && (c.after e).standing == .inactive) || e.isBid

/-- When the time of standing by began afresh last. -/
def lastRenewal (c : Candidate) : List Event → Option Instant
  | [] => none
  | e :: es => (c.after e).lastRenewal es <|> if c.renews e then some e.time else none

/-- The last event of a history is the last renewal if it is one. -/
theorem lastRenewal_append_singleton (c : Candidate) (es : List Event) (e : Event) :
    c.lastRenewal (es ++ [e]) =
      if (c.afterAll es).renews e then some e.time else c.lastRenewal es := by
  induction es generalizing c with
  | nil => rfl
  | cons e' es ih =>
    rw [List.cons_append, lastRenewal, ih, lastRenewal]
    show _ = if ((c.after e').afterAll es).renews e = true then _ else _
    split <;> rfl

/-- A message is a bid if it is another instance's and its announcement is one. -/
theorem isBid_process (isSelf : Bool) (sender : String) (now : Instant) {action : String}
    {a : Announcement} (h : Announcement.ofText? action = some a) :
    (Event.process isSelf sender action now).isBid = (!isSelf && a.isBid) := by
  cases isSelf <;> simp [Event.isBid, h]

/-! ### One step -/

/-- How an event that leads from `c` to `c'` bears on standing by. -/
inductive Shifts (c : Candidate) (e : Event) (c' : Candidate) : Prop where
  /-- The candidate stays where it is, and keeps the deadline that it may have. -/
  | stays : c'.standing = c.standing → c'.standbyDeadline = c.standbyDeadline →
      (c.standing = .inactive → e.isBid = false) → Shifts c e c'
  /-- It begins to stand by, or goes on for longer. -/
  | standsBy : c'.standing = .inactive → c'.standbyDeadline = some (c.deadlineFrom e.time) →
      (c.standing = .inactive → e.isBid = true) → Shifts c e c'
  /-- It hears of a master and does not know yet whether it is heard itself. -/
  | awaitsEcho : c.standing = .verifying → c'.standing = .verifying → Shifts c e c'
  /-- It comes to a rung, or becomes master. -/
  | climbs : c'.standing.isContending = true ∨ c'.standing = .active →
      c'.standbyDeadline = none → Shifts c e c'

/-- An event that is no bid and changes neither the standing nor the deadline leaves the candidate
where it is. -/
theorem shifts_of_eq {e : Event} (h : c'.standing = c.standing)
    (hdeadline : c'.standbyDeadline = c.standbyDeadline) (he : e.isBid = false) :
    c.Shifts e c' :=
  .stays h hdeadline fun _ => he

/-- Who comes to a rung or becomes master has no deadline. -/
theorem shifts_transition {e : Event} {next : Standing} (hne : c'.standing ≠ next)
    (hnext : next.isContending = true ∨ next = .active) :
    c.Shifts e (c'.transition next now) := by
  refine .climbs (by rwa [standing_transition]) ?_
  have hinactive : next ≠ .inactive := by
    rcases hnext with hs | rfl
    · rintro rfl
      exact absurd hs (by decide)
    · decide
  simp [transition, hne, hinactive]

/-- Who becomes master has no deadline. -/
theorem shifts_promote {e : Event} (hne : c.standing ≠ .active) : c.Shifts e (c.promote now) := by
  refine .climbs (Or.inr (c.standing_promote now)) ?_
  simp [promote, transition, hne]

/-- Noting a partner leaves the candidate where it is. -/
theorem shifts_meet {e : Event} (sender : String)
    (he : c.standing = .inactive → e.isBid = false) : c.Shifts e (c.meet sender) := by
  refine .stays (c.standing_meet sender) ?_ he
  unfold meet
  split <;> rfl

/-- An echo leads up the ladder, or leaves the candidate where it is. -/
theorem shifts_hearEcho {e : Event} (he : e.isBid = false) (a : Announcement) (now : Instant) :
    c.Shifts e (c.hearEcho a now).1 := by
  unfold hearEcho
  split
  · -- An echo that a newcomer was waiting for lets it join, whatever it says.
    next hs => exact shifts_transition (by simp [hs]) (by decide)
  · split
    · exact shifts_of_eq rfl rfl he
    · split
      · next hs => exact shifts_transition (by simp [hs]) (by decide)
      · next hs => exact shifts_transition (by simp [hs]) (by decide)
      · next hs => exact shifts_transition (by simp [hs]) (by decide)
      · next hs =>
        have hactivate : (c.activate now).getD c = c.promote now := by
          simp [activate, hs]
        rw [hactivate]
        exact shifts_promote (by simp [hs])
      · exact shifts_of_eq rfl rfl he

/-- A master is heard: whoever takes part stands by from now on, unless it has not joined yet. -/
theorem shifts_hearMaster {e : Event} (hdisabled : c.standing ≠ .disabled) (he : e.isBid = true)
    (sender : String) : c.Shifts e (c.hearMaster sender e.time).1 := by
  have hstanding := c.standing_hearMaster sender e.time
  -- Who waits for its echo hears a master and goes on to wait; all others stand by.
  cases hs : c.standing with
  | disabled => exact absurd hs hdisabled
  | verifying =>
    refine .awaitsEcho hs ?_
    rw [hstanding, hs]
    rfl
  | inactive | starting | requesting1 | requesting2 | takingControl | active =>
    refine .standsBy ?_ (c.standbyDeadline_hearMaster sender e.time) fun _ => he
    rw [hstanding, hs]
    rfl

/-- A resignation makes who stands by start again, without a deadline, and leaves everybody else. -/
theorem shifts_hearResync {e : Event} (he : e.isBid = false) (sender : String) (now : Instant) :
    c.Shifts e (c.hearResync sender now) := by
  unfold hearResync
  dsimp only
  split
  · next hs =>
    refine shifts_transition ?_ (by decide)
    rw [show c.standing = .inactive from hs]
    decide
  · exact shifts_of_eq rfl rfl he

/-- A contender is heard: who gives way stands by, and who stands by goes on for longer. -/
theorem shifts_hearContender {e : Event} {a : Announcement} (ha : a.senderStanding?.isSome = true)
    (he : e.isBid = true) (sender : String) :
    c.Shifts e (c.hearContender sender a e.time).1 := by
  by_cases hactive : c.standing = .active
  · rw [hearContender_of_active hactive]
    -- A master does not give way to a contender.
    exact shifts_meet sender fun hs => absurd (hactive.symm.trans hs) (by decide)
  · cases hy : c.yieldsTo sender a with
    | true =>
      exact .standsBy (hearContender_of_yieldsTo hactive hy _).1
        (standbyDeadline_hearContender hactive hy _) fun _ => he
    | false =>
      rw [hearContender_of_not_yieldsTo hactive hy]
      refine shifts_meet sender fun hs => ?_
      -- Who stands by gives way to everybody, so this one does not stand by.
      rw [yieldsTo_of_inactive hs ha] at hy
      exact absurd hy (by decide)

/-- A message does nothing else to the standing and the deadline than what `Shifts` lists. -/
theorem shifts_process (isSelf : Bool) (sender action : String) (now : Instant) :
    c.Shifts (.process isSelf sender action now)
      (c.after (.process isSelf sender action now)) := by
  cases htext : Announcement.ofText? action with
  | none =>
    rw [after_process_of_none htext]
    exact shifts_of_eq rfl rfl (by cases isSelf <;> simp [Event.isBid, htext])
  | some a =>
    have hbid := isBid_process isSelf sender now htext
    rw [after_process htext, hear]
    split
    · -- Who takes no part hears nothing, and does not stand by either.
      next hs => exact .stays rfl rfl fun h => absurd (hs.symm.trans h) (by decide)
    · next hdisabled =>
      cases isSelf with
      | true => exact shifts_hearEcho hbid a now
      | false =>
        cases a with
        | whoIsMaster => exact shifts_meet sender fun _ => hbid
        | iAmStandby => exact shifts_of_eq rfl rfl hbid
        | iAmMaster => exact shifts_hearMaster hdisabled hbid sender
        | resyncMaster => exact shifts_hearResync hbid sender now
        | requestingControl1 | requestingControl2 | takingControl =>
          exact shifts_hearContender rfl hbid sender

/-- A poll makes who has stood by for its time start again, and else leaves the candidate where it
is. -/
theorem shifts_poll (now : Instant) (draw : Nat) :
    c.Shifts (.poll now draw) (c.after (.poll now draw)) := by
  rcases c.poll_cases now draw with hdue | hidle
  · rw [after, poll_of_due hdue.1 hdue.2]
    show Shifts _ _ ((c.restart now).polled now draw)
    unfold restart
    split
    · next hover =>
      have hs : c.standing = .inactive := by
        simp only [standbyIsOver, Bool.and_eq_true, beq_iff_eq] at hover
        exact hover.1
      -- A poll that ends the time of standing by leads to the first rung at once.
      exact .climbs (Or.inl (by simp [polled, Standing.isContending]))
        (by simp [polled, transition, hs])
    · exact shifts_of_eq rfl rfl rfl
  · rw [after, hidle]
    exact shifts_of_eq rfl rfl rfl

/-- What an event does to the standing and to the deadline. -/
theorem shifts_after (c : Candidate) (e : Event) : c.Shifts e (c.after e) := by
  cases e with
  | poll now draw => exact shifts_poll now draw
  | process isSelf sender action now => exact shifts_process isSelf sender action now
  | activate now =>
    unfold after activate
    dsimp only
    split
    · exact shifts_of_eq rfl rfl rfl
    · next hs => exact shifts_promote hs
  | deactivate now =>
    unfold after deactivate
    dsimp only
    split
    · next hs =>
      refine .standsBy (standing_transition _ _ _) ?_ fun h => ?_
      · simp [transition, hs, Event.time]
      · exact absurd (hs.symm.trans h) (by decide)
    · exact shifts_of_eq rfl rfl rfl

/-! ### The deadline -/

/-- Who stands by has done so since `since` as far as its deadline says, and nobody has a deadline
that has joined and does not stand by. -/
structure Watched (since : Option Instant) (c : Candidate) : Prop where
  deadline : c.standing = .inactive →
    ∃ t, since = some t ∧ c.standbyDeadline = some (c.deadlineFrom t)
  unset : c.standing ≠ .inactive → c.standing ≠ .verifying → c.standbyDeadline = none

/-- An event keeps the deadline where the last renewal has put it, or is the last renewal itself. -/
theorem Watched.after {since : Option Instant} (h : Watched since c) (e : Event) :
    Watched (if c.renews e then some e.time else since) (c.after e) := by
  -- The span of standing by is a setting and never changes.
  have hspan : ∀ t, (c.after e).deadlineFrom t = c.deadlineFrom t := by
    intro t
    rw [deadlineFrom, policy_after, deadlineFrom]
  rcases c.shifts_after e with ⟨hs, hdeadline, hbid⟩ | ⟨hs, hdeadline, hbid⟩ | ⟨-, hs⟩ |
      ⟨hs, hdeadline⟩
  · -- The deadline is as old as it was.
    have hsame : c.standing = .inactive → c.renews e = false := by
      intro hinactive
      simp [renews, hinactive, hbid hinactive]
    refine ⟨fun hinactive => ?_, fun hne hverifying => ?_⟩
    · rw [hs] at hinactive
      obtain ⟨t, hsince, ht⟩ := h.deadline hinactive
      refine ⟨t, ?_, by rw [hdeadline, ht, hspan]⟩
      rw [hsame hinactive, if_neg Bool.false_ne_true, hsince]
    · rw [hdeadline]
      exact h.unset (by rwa [← hs]) (by rwa [← hs])
  · -- The deadline is new, and so is the renewal.
    have hrenews : c.renews e = true := by
      by_cases hinactive : c.standing = .inactive
      · simp [renews, hbid hinactive]
      · simp [renews, hinactive, hs]
    rw [if_pos hrenews]
    exact ⟨fun _ => ⟨e.time, rfl, by rw [hdeadline, hspan]⟩, fun hne => absurd hs hne⟩
  · exact ⟨fun h => absurd (hs.symm.trans h) (by decide), fun _ hne => absurd hs hne⟩
  · refine ⟨fun h => ?_, fun _ _ => hdeadline⟩
    rw [h] at hs
    exact absurd hs (by decide)

/-- Over every history the deadline of who stands by comes from the last renewal. -/
theorem watched_afterAll {c₀ : Candidate} (h : Watched none c₀) (es : List Event) :
    Watched (c₀.lastRenewal es) (c₀.afterAll es) := by
  induction es using List.reverseRecOn with
  | nil => exact h
  | append_singleton es e ih =>
    rw [lastRenewal_append_singleton, afterAll_append_singleton]
    exact ih.after e

/-- A poll that is due asks who the master is if the candidate stands by. It goes on to do so before
its deadline, and starts again after it. -/
theorem poll_of_inactive {deadline : Instant} (h : c.standing = .inactive)
    (hdeadline : c.standbyDeadline = some deadline) (hdue : c.nextPoll ≤ now) (draw : Nat) :
    (c.poll now draw).2 = some .whoIsMaster ∧
      (now < deadline → (c.poll now draw).1.standing = .inactive) ∧
      (deadline ≤ now → (c.poll now draw).1.standing = .starting ∧
        (c.poll now draw).1.attempts = 1 ∧ (c.poll now draw).1.knownMaster = none) := by
  have hover : c.standbyIsOver now = decide (deadline ≤ now) := by
    simp [standbyIsOver, h, hdeadline]
  rw [poll_of_due (by simp [h]) hdue]
  by_cases hlate : deadline ≤ now
  · have hrestart : c.restart now = { c with knownMaster := none }.transition .starting now := by
      rw [restart, hover, if_pos (decide_eq_true hlate)]
    rw [hrestart]
    refine ⟨by simp [Announcement.ofStanding?], fun hearly => absurd hlate (Nat.not_le.mpr hearly),
      fun _ => ?_⟩
    simp [polled, h]
  · have hrestart : c.restart now = c := by
      rw [restart, hover, decide_eq_false hlate, if_neg Bool.false_ne_true]
    rw [hrestart]
    exact ⟨by rw [h]; rfl, fun _ => h, fun hle => absurd hle hlate⟩

/-! ### A master has no rival -/

/-- No master is known, and none is flagged. -/
structure KnowsNone (c : Candidate) : Prop where
  known : c.knownMaster = none
  flags : ∀ s, ¬ c.Flags s

/-- Who knows no master and writes none down goes on to know none. -/
theorem KnowsNone.notes {note : Note} (h : c.KnowsNone) (hn : Notes note c c')
    (hnote : ∀ m, note ≠ .master m) : c'.KnowsNone := by
  refine ⟨?_, fun s hs => ?_⟩
  · rw [hn.known, h.known]
    cases note with
    | master m => exact absurd rfl (hnote m)
    | nothing | nobody | silence | standby => rfl
  · rw [hn.flags] at hs
    cases note with
    | master m => exact hnote m rfl
    | nobody => exact hs
    | nothing | silence => exact h.flags s hs
    | standby => exact h.flags s hs.2

/-- Who has written that nobody is master knows none. -/
theorem knowsNone_of_nobody (hn : Notes .nobody c c') : c'.KnowsNone :=
  ⟨hn.known, fun s hs => (hn.flags s).mp hs⟩

/-- A message that another instance sent makes nobody a master, and a master that stays one after it
has not written down another. -/
theorem note_of_active_hearOther {a : Announcement} {sender : String}
    (h : (c.hearOther sender a now).1.standing = .active) :
    c.standing = .active ∧ ∀ m, noteOf sender a ≠ .master m := by
  have hs := active_of_active_hearOther h
  refine ⟨hs, fun m hm => ?_⟩
  cases a with
  | iAmMaster =>
    -- A master that hears another one stands down.
    simp [hearOther, hearMaster, recordMaster, hs] at h
  | whoIsMaster | iAmStandby | resyncMaster | requestingControl1 | requestingControl2
  | takingControl => simp [noteOf] at hm

/-- Who is master after an event was it before and has written down no other, or has written down
that nobody else is. -/
theorem note_of_active {e : Event} (h : (c.after e).standing = .active) :
    c.note e = .nobody ∨ c.standing = .active ∧ ∀ m, c.note e ≠ .master m := by
  cases e with
  | poll now draw =>
    -- A poll makes nobody a master and unmakes none.
    have hactive : c.isActive = true := by
      rw [← c.isActive_poll now draw]
      exact beq_iff_eq.mpr h
    refine Or.inr ⟨beq_iff_eq.mp hactive, fun m hm => ?_⟩
    unfold note at hm
    dsimp only at hm
    split at hm <;> cases hm
  | activate now =>
    by_cases hs : c.standing = .active
    · exact Or.inr ⟨hs, by simp [note, hs]⟩
    · exact Or.inl (by simp [note, hs])
  | deactivate now =>
    unfold after deactivate at h
    dsimp only at h
    split at h
    · rw [Option.getD_some, standing_transition] at h
      exact absurd h (by decide)
    · next hs => exact absurd h hs
  | process isSelf sender action now =>
    cases htext : Announcement.ofText? action with
    | none =>
      rw [after_process_of_none htext] at h
      exact Or.inr ⟨h, by simp [note, htext]⟩
    | some a =>
      rw [after_process htext, hear] at h
      split at h
      · next hs => exact absurd (hs.symm.trans h) (by decide)
      · next hdisabled =>
        cases isSelf with
        | true =>
          -- Its own announcements tell it of nobody else.
          by_cases hs : c.standing = .active
          · refine Or.inr ⟨hs, ?_⟩
            simp [note, htext, hs, hearEcho_of_active hs]
          · obtain ⟨-, hpromoted, -, -⟩ := top_of_active_hearEcho hs h
            exact Or.inl (by simp [note, htext, hdisabled, hpromoted])
        | false =>
          rw [if_neg Bool.false_ne_true] at h
          obtain ⟨hs, hnote⟩ := note_of_active_hearOther h
          refine Or.inr ⟨hs, fun m hm => hnote m ?_⟩
          simpa only [note, htext, hdisabled, if_false, Bool.false_eq_true] using hm

/-- Over every history a master knows of no other one. -/
theorem knowsNone_of_active {c₀ : Candidate} (hinOrder : InOrder c₀.partners)
    (hs : c₀.standing ≠ .active) (es : List Event) :
    (c₀.afterAll es).standing = .active → (c₀.afterAll es).KnowsNone := by
  induction es using List.reverseRecOn with
  | nil => exact fun h => absurd h hs
  | append_singleton es e ih =>
    rw [afterAll_append_singleton]
    intro hactive
    have hn := notes_after (inOrder_afterAll hinOrder es) e
    rcases note_of_active hactive with hnobody | ⟨hbefore, hnote⟩
    · rw [hnobody] at hn
      exact knowsNone_of_nobody hn
    · exact (ih hbefore).notes hn hnote

/-! ### Where nobody comes back to -/

/-- No event leads to where a candidate is before it has joined, or to where it takes no part. -/
theorem standing_of_after {e : Event} {s : Standing} (hs : s = .verifying ∨ s = .disabled)
    (h : (c.after e).standing = s) : c.standing = s := by
  -- Only the cases in which the candidate stays, or waits for its echo, end there.
  rcases c.shifts_after e with ⟨hsame, -, -⟩ | ⟨hinactive, -, -⟩ | ⟨hbefore, hafter⟩ | ⟨hclimbs, -⟩
  · exact hsame.symm.trans h
  · rw [hinactive] at h
    subst h
    exact absurd hs (by decide)
  · exact hbefore.trans (hafter.symm.trans h)
  · rw [h] at hclimbs
    rcases hs with rfl | rfl <;> exact absurd hclimbs (by decide)

/-- Over every history nobody comes back to where it was before it joined, or before it took part.
-/
theorem standing_of_afterAll {s : Standing} (hs : s = .verifying ∨ s = .disabled)
    (es : List Event) (h : (c.afterAll es).standing = s) : c.standing = s := by
  induction es using List.reverseRecOn with
  | nil => exact h
  | append_singleton es e ih =>
    rw [afterAll_append_singleton] at h
    exact ih (standing_of_after hs h)

/-! ### Standing by -/

/-- After every history a candidate that stands by has a deadline, which is the time of standing by
after the last renewal: when it began to stand by, or last heard another instance that is master or
contends. Before it a poll that is due leaves the candidate standing by, after it such a poll makes
it start again and forget the master, and either asks who the master is. Nobody else has a deadline
who has joined, a master knows of no other, and nobody comes back to where it was before it joined
or before it took part. -/
theorem stands_by_until_deadline (name service : String) (policy : ElectionPolicy)
    (founding : Instant) (es : List Event) :
    let c₀ := create name service policy founding
    let c := c₀.afterAll es
    (c.standing = .inactive → ∃ t, c₀.lastRenewal es = some t ∧
      c.standbyDeadline = some (t + policy.standbySpan) ∧
      ∀ now draw, c.nextPoll ≤ now →
        (c.poll now draw).2 = some .whoIsMaster ∧
          (now < t + policy.standbySpan → (c.poll now draw).1.standing = .inactive) ∧
          (t + policy.standbySpan ≤ now → (c.poll now draw).1.standing = .starting ∧
            (c.poll now draw).1.attempts = 1 ∧ (c.poll now draw).1.knownMaster = none)) ∧
    (c.standing ≠ .inactive → c.standing ≠ .verifying → c.standbyDeadline = none) ∧
    (c.standing = .active → c.knownMaster = none ∧ ∀ s, ¬ c.Flags s) ∧
    ∀ es', ((c.afterAll es').standing = .verifying → c.standing = .verifying) ∧
      ((c.afterAll es').standing = .disabled → c.standing = .disabled) := by
  intro c₀ c
  have hfounded : c₀.standing = .verifying ∨ c₀.standing = .disabled := by
    have hs : c₀.standing = if policy.enabled then .verifying else .disabled := rfl
    rw [hs]
    split
    · exact Or.inl rfl
    · exact Or.inr rfl
  have hnew : c₀.standing ≠ .inactive ∧ c₀.standing ≠ .active := by
    rcases hfounded with hs | hs <;> simp [hs]
  have hwatched : Watched (c₀.lastRenewal es) c :=
    watched_afterAll ⟨fun hs => absurd hs hnew.1, fun _ _ => rfl⟩ es
  refine ⟨fun hinactive => ?_, hwatched.unset, fun hactive => ?_, fun es' => ?_⟩
  · obtain ⟨t, hsince, hdeadline⟩ := hwatched.deadline hinactive
    rw [deadlineFrom, policy_afterAll] at hdeadline
    refine ⟨t, hsince, hdeadline, fun now draw hdue => ?_⟩
    exact poll_of_inactive hinactive hdeadline hdue draw
  · have hinOrder : InOrder c₀.partners := List.Pairwise.nil
    have hknows := knowsNone_of_active hinOrder hnew.2 es hactive
    exact ⟨hknows.known, hknows.flags⟩
  · exact ⟨standing_of_afterAll (Or.inl rfl) es', standing_of_afterAll (Or.inr rfl) es'⟩

/-- An instance gives way to a master, which is then silent, and 7 seconds later hears a contender.
It stands by until 20 seconds after that. -/
theorem stands_by_after_contender :
    let c := (create "billing" "b" .participating 0).afterAll
      [.poll 1000000000 0, .process true "b" "WhoIsMaster" 1000000000,
        .process false "a" "IAmMaster" 2000000000, .process false "c" "TakingControl" 9000000000]
    c.standing = .inactive ∧ c.standbyDeadline = some 29000000000 ∧
      (c.poll 28999999999 0).1.standing = .inactive ∧
      (c.poll 29000000000 0).1.standing = .starting := by
  intro c
  have hinactive : c.standing = .inactive := by decide +kernel
  obtain ⟨t, hsince, hdeadline, hpoll⟩ := (stands_by_until_deadline "billing" "b" .participating 0
    [.poll 1000000000 0, .process true "b" "WhoIsMaster" 1000000000,
      .process false "a" "IAmMaster" 2000000000,
      .process false "c" "TakingControl" 9000000000]).1 hinactive
  have ht : t = 9000000000 := by
    have hlast : (create "billing" "b" .participating 0).lastRenewal
        [.poll 1000000000 0, .process true "b" "WhoIsMaster" 1000000000,
          .process false "a" "IAmMaster" 2000000000,
          .process false "c" "TakingControl" 9000000000] = some 9000000000 := by decide +kernel
    exact Option.some.inj (hsince.symm.trans hlast)
  subst ht
  have hdue : c.nextPoll ≤ 28999999999 := by decide +kernel
  exact ⟨hinactive, hdeadline, (hpoll _ 0 hdue).2.1 (by decide +kernel),
    ((hpoll _ 0 (Nat.le_succ_of_le hdue)).2.2 (by decide +kernel)).1⟩

end Candidate

end CommandMesh
