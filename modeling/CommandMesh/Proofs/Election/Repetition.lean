import CommandMesh.Proofs.Election.Climb
import CommandMesh.Proofs.Election.Partners

/-!
# `CommandMesh.Proofs.Election.Repetition`: a message that is heard twice

A broadcast may bring a message twice. The theorem is that the second hearing, at the same instant
and from the same sender, leaves the candidate in every respect as the first left it, and that no
promotion or demotion is told a second time. It holds in whatever state the candidate is, reachable
or not, for its own announcements and for those of others, and for texts that are no announcement.
Nothing else may happen between the two: with a poll in between the second echo may lift once more,
and with another announcement in between a claim may be news again.

Each kind of message has its own reason. The table of partners has been written already, and writing
the same once more changes nothing (`setPartner_setPartner`, `demoteAll_setPartner`); who gave way
stands by, and gives way again with the same deadline, since the instant is the same; and who
climbed a rung has polled nothing on it yet and announces something else, so that the echo does not
lift it again. The last holds also with a policy that lifts after every poll, because what the echo
repeats is not what the new rung asks for.

That the state is the same does not yet say that the second hearing tells nothing: a consequence
might be told without any change. `Candidate.isActive_ne_of_tells` closes this gap. Whatever tells
of a change of mastership comes with one, and the repetition changes nothing.

The theorems:

* `Announcement.ofText?_eq_none_iff`: which texts are no announcement.
* `Candidate.hearEcho_again`, `Candidate.hearStandby_again`, `Candidate.hearMaster_again`,
  `Candidate.hearResync_again`, `Candidate.hearContender_again`: one for each kind of message.
* `Candidate.hear_again`: whatever is heard, heard once more it changes nothing.
* `Candidate.isActive_ne_of_tells`: what tells of a change of mastership comes with one, so the
  repetition tells of none.
* `Candidate.process_again`: all this for messages as they come, also those that cannot be read.
-/

set_option autoImplicit false

namespace CommandMesh

/-! ### Announcements that cannot be read -/

namespace Announcement

/-- The list of announcements names all of them. -/
theorem mem_all (a : Announcement) : a ∈ all := by
  cases a <;> decide

/-- A text is unknown if it is that of no announcement, whatever the case of its letters and the
white space around it. -/
theorem ofText?_eq_none_iff {s : String} :
    ofText? s = none ↔
      ¬ ∃ a : Announcement, Text.eqIgnoringAsciiCase a.text (Text.trim s) = true := by
  rw [ofText?, List.find?_eq_none, not_exists]
  exact ⟨fun h a => h a a.mem_all, fun h a _ => h a⟩

end Announcement

namespace Candidate

variable {c : Candidate} {now : Instant}

/-! ### The table of partners -/

/-- What is written about a partner replaces what was written before. -/
theorem setPartner_setPartner (s : String) (b b' : Bool) (ps : List (String × Bool)) :
    setPartner s b (setPartner s b' ps) = setPartner s b ps := by
  induction ps with
  | nil => simp [setPartner]
  | cons p rest ih =>
    by_cases hs : s = p.1
    · simp [setPartner, hs]
    · by_cases hlt : s < p.1
      · simp [setPartner, hs, hlt]
      · simp [setPartner, hs, hlt, ih]

/-- Taking all flags away twice is taking them away once. -/
@[simp] theorem demoteAll_demoteAll (ps : List (String × Bool)) :
    demoteAll (demoteAll ps) = demoteAll ps := by
  simp [demoteAll]

/-- Whatever was just written about a partner, its flag is taken away with all others. -/
theorem demoteAll_setPartner (s : String) (b : Bool) (ps : List (String × Bool)) :
    demoteAll (setPartner s b ps) = setPartner s false (demoteAll ps) := by
  -- The table is in the order of ids, so the partner is written in front of the first one that is
  -- not before it.
  induction ps with
  | nil => rfl
  | cons p rest ih =>
    have hcons : demoteAll (p :: rest) = (p.1, false) :: demoteAll rest := rfl
    rw [hcons]
    by_cases hs : s = p.1
    · simp [setPartner, hs, demoteAll]
    · by_cases hlt : s < p.1
      · simp [setPartner, hs, hlt, demoteAll]
      · simp only [setPartner, hs, hlt, if_false, ← ih]
        rfl

/-- Who was written down is known. -/
theorem isSome_lookup_setPartner (s : String) (b : Bool) (ps : List (String × Bool)) :
    ((setPartner s b ps).lookup s).isSome = true := by
  induction ps with
  | nil => simp [setPartner]
  | cons p rest ih =>
    obtain ⟨q, isMaster⟩ := p
    by_cases hs : s = q
    · simp [setPartner, hs]
    · by_cases hlt : s < q
      · simp [setPartner, hs, hlt]
      · have hother : (s == q) = false := beq_eq_false_iff_ne.mpr hs
        simp only [setPartner, hs, hlt, if_false, List.lookup_cons, hother]
        exact ih

/-- Who is known already is not met once more. -/
theorem meet_of_isSome {sender : String} (h : (c.partners.lookup sender).isSome = true) :
    c.meet sender = c :=
  if_pos h

/-- Who was met is known. -/
theorem isSome_lookup_meet (c : Candidate) (sender : String) :
    ((c.meet sender).partners.lookup sender).isSome = true := by
  by_cases h : (c.partners.lookup sender).isSome = true
  · rwa [meet_of_isSome h]
  · rw [meet, if_neg h]
    exact isSome_lookup_setPartner _ _ _

/-- Who was just met is not met once more. -/
@[simp] theorem meet_meet (c : Candidate) (sender : String) :
    (c.meet sender).meet sender = c.meet sender :=
  meet_of_isSome (c.isSome_lookup_meet sender)

/-! ### One message twice -/

/-- Writing what is there already changes nothing. -/
theorem rewrite_self {ps : List (String × Bool)} {known : Option String}
    {deadline : Option Instant} (hpartners : c.partners = ps) (hknown : c.knownMaster = known)
    (hdeadline : c.standbyDeadline = deadline) :
    { c with partners := ps, knownMaster := known, standbyDeadline := deadline } = c := by
  subst hpartners hknown hdeadline
  rfl

/-- An echo lifts by one rung and not by two: nothing is polled yet on the new one, and it is not
what the new one asks for. -/
theorem hearEcho_again (c : Candidate) (a : Announcement) (now : Instant) :
    ((c.hearEcho a now).1.hearEcho a now).1 = (c.hearEcho a now).1 := by
  by_cases hverifying : c.standing = .verifying
  · rw [hearEcho_of_verifying hverifying]
    have hzero : (c.transition .starting now).attempts = 0 :=
      attempts_transition_of_ne (by simp [hverifying])
    rw [hearEcho_of_attempts_le (by simp) (by simp [hzero])]
  · by_cases hlift : Announcement.ofStanding? c.standing ≠ some a ∨
        c.attempts ≤ c.policy.minAttempts
    · have hsame : c.hearEcho a now = (c, []) := by simp [hearEcho, hverifying, hlift]
      rw [hsame, hsame]
    · rw [not_or, Decidable.not_not] at hlift
      -- Only a contender is lifted, and onto a rung that asks for something else.
      cases hcontending : c.standing.isContending with
      | true =>
        obtain ⟨hnext, -, -⟩ := hearEcho_of_contending hcontending hlift.1 hlift.2 now
        rw [hearEcho_of_ne]
        · rw [hnext]
          exact Standing.next_ne_verifying hcontending
        · rw [hnext, ← hlift.1]
          exact Standing.ofStanding?_next_ne hcontending
      | false =>
        have hsame : c.hearEcho a now = (c, []) := by
          cases hs : c.standing <;> simp_all [hearEcho, Standing.isContending]
        rw [hsame, hsame]

/-- Hearing twice that an instance stands by is hearing it once. -/
theorem hearStandby_again (c : Candidate) (sender : String) :
    (c.hearStandby sender).hearStandby sender = c.hearStandby sender := by
  refine rewrite_self (c := c.hearStandby sender) ?_ ?_ rfl
  · exact (setPartner_setPartner _ _ _ _).symm
  · show (if c.knownMaster = some sender then none else c.knownMaster) = _
    by_cases h : c.knownMaster = some sender <;> simp [hearStandby, h]

/-- What a candidate has written down that has heard a master. -/
theorem written_hearMaster (c : Candidate) (sender : String) (now : Instant) :
    (c.hearMaster sender now).1.partners = setPartner sender true (demoteAll c.partners) ∧
      (c.hearMaster sender now).1.knownMaster = some sender := by
  unfold hearMaster recordMaster
  dsimp only
  split
  · simp
  · split <;> simp

/-- Hearing a master twice is hearing it once: whoever heard it contends no more and is no master.
-/
theorem hearMaster_again (c : Candidate) (sender : String) (now : Instant) :
    ((c.hearMaster sender now).1.hearMaster sender now).1 = (c.hearMaster sender now).1 := by
  obtain ⟨hpartners, hknown⟩ := c.written_hearMaster sender now
  have hactive := c.ne_active_hearMaster sender now
  have hcontending := c.not_isContending_hearMaster sender now
  have hdeadline := c.standbyDeadline_hearMaster sender now
  have hpolicy := (c.keeps_hearMaster sender now).policy
  -- From here on only what was written down matters, not where the candidate stood before.
  generalize (c.hearMaster sender now).1 = c' at *
  have hheard : (c'.hearMaster sender now).1 = { c' with
      partners := setPartner sender true (demoteAll c'.partners), knownMaster := some sender,
      standbyDeadline := some (c'.deadlineFrom now) } := by
    simp [hearMaster, recordMaster, hactive, hcontending, deadlineFrom]
  rw [hheard]
  refine rewrite_self ?_ hknown ?_
  · rw [hpartners, demoteAll_setPartner, demoteAll_demoteAll, setPartner_setPartner]
  · rw [hdeadline, deadlineFrom, deadlineFrom, hpolicy]

/-- Hearing a resignation twice is hearing it once: whoever heard it does not stand by any more. -/
theorem hearResync_again (c : Candidate) (sender : String) (now : Instant) :
    (c.hearResync sender now).hearResync sender now = c.hearResync sender now := by
  have hheard : (c.hearResync sender now).standing ≠ .inactive ∧
      (c.hearResync sender now).partners = demoteAll (setPartner sender false c.partners) ∧
      (c.hearResync sender now).knownMaster = none := by
    unfold hearResync
    dsimp only
    split
    · rw [standing_transition, partners_transition, knownMaster_transition]
      exact ⟨by decide, rfl, rfl⟩
    · next hs => exact ⟨hs, rfl, rfl⟩
  obtain ⟨hinactive, hpartners, hknown⟩ := hheard
  generalize c.hearResync sender now = c' at *
  rw [hearResync, if_neg hinactive]
  refine rewrite_self ?_ hknown rfl
  rw [hpartners, demoteAll_setPartner, demoteAll_setPartner, demoteAll_setPartner,
    demoteAll_demoteAll, setPartner_setPartner]

/-- Who gave way to a contender stands by, and gives way to it again. -/
theorem hearContender_again {a : Announcement} (ha : a.senderStanding?.isSome = true)
    (c : Candidate) (sender : String) (now : Instant) :
    ((c.hearContender sender a now).1.hearContender sender a now).1 =
      (c.hearContender sender a now).1 := by
  by_cases hactive : c.standing = .active
  · rw [hearContender_of_active hactive,
      hearContender_of_active (by rwa [standing_meet]), meet_meet]
  · cases hy : c.yieldsTo sender a with
    | false =>
      rw [hearContender_of_not_yieldsTo hactive hy, hearContender_of_not_yieldsTo
        (by rwa [standing_meet]) (by rwa [yieldsTo_meet]), meet_meet]
    | true =>
      have hs := (hearContender_of_yieldsTo hactive hy now).1
      have hknown : ((c.hearContender sender a now).1.partners.lookup sender).isSome = true := by
        have hpartners : (c.hearContender sender a now).1.partners = (c.meet sender).partners := by
          simp [hearContender, hactive, hy]
        rw [hpartners]
        exact c.isSome_lookup_meet sender
      have hdeadline := standbyDeadline_hearContender hactive hy now
      have hpolicy := (c.keeps_hearContender sender a now).policy
      generalize (c.hearContender sender a now).1 = c' at *
      have hyields := yieldsTo_of_inactive hs ha sender
      have hstays : c'.transition .inactive now = c' := if_pos hs
      rw [hearContender]
      dsimp only
      rw [meet_of_isSome hknown, if_neg (by simp [hs]), if_pos hyields, hstays]
      refine rewrite_self rfl rfl ?_
      rw [hdeadline, deadlineFrom, deadlineFrom, hpolicy]

/-- Whatever is heard of another instance, heard once more it changes nothing. -/
theorem hearOther_again (c : Candidate) (sender : String) (a : Announcement) (now : Instant) :
    ((c.hearOther sender a now).1.hearOther sender a now).1 = (c.hearOther sender a now).1 := by
  cases a with
  | whoIsMaster => exact c.meet_meet sender
  | iAmStandby => exact c.hearStandby_again sender
  | iAmMaster => exact c.hearMaster_again sender now
  | resyncMaster => exact c.hearResync_again sender now
  | requestingControl1 | requestingControl2 | takingControl =>
    exact hearContender_again rfl c sender now

/-- Whatever is heard, heard once more it changes nothing. -/
theorem hear_again (c : Candidate) (isSelf : Bool) (sender : String) (a : Announcement)
    (now : Instant) :
    ((c.hear isSelf sender a now).1.hear isSelf sender a now).1 =
      (c.hear isSelf sender a now).1 := by
  by_cases hafter : (c.hear isSelf sender a now).1.standing = .disabled
  · rw [hear_of_disabled hafter]
  · rw [hear_of_ne_disabled hafter]
    by_cases hdisabled : c.standing = .disabled
    · rw [hear_of_disabled hdisabled] at hafter
      exact absurd hdisabled hafter
    · rw [hear_of_ne_disabled hdisabled]
      cases isSelf with
      | true => exact c.hearEcho_again a now
      | false => exact c.hearOther_again sender a now

/-! ### What the repetition tells -/

/-- Being master is being on the top of the ladder. -/
theorem isActive_eq_true_iff : c.isActive = true ↔ c.standing = .active := beq_iff_eq

/-- An echo that tells of a change of mastership has made a master. -/
theorem isActive_ne_of_tells_hearEcho {a : Announcement} {x : Consequence}
    (hx : x ∈ (c.hearEcho a now).2) : (c.hearEcho a now).1.isActive ≠ c.isActive := by
  by_cases hverifying : c.standing = .verifying
  · rw [hearEcho_of_verifying hverifying] at hx
    exact absurd hx List.not_mem_nil
  · by_cases hlift : Announcement.ofStanding? c.standing ≠ some a ∨
        c.attempts ≤ c.policy.minAttempts
    · rw [hearEcho, if_neg hverifying, if_pos hlift] at hx
      exact absurd hx List.not_mem_nil
    · rw [hearEcho, if_neg hverifying, if_neg hlift] at hx ⊢
      cases hs : c.standing with
      | takingControl => simp [hs, activate, isActive]
      | disabled | verifying | inactive | starting | requesting1 | requesting2 | active =>
        rw [hs] at hx
        exact absurd hx List.not_mem_nil

/-- Who hears of another master and tells of a change of mastership was master itself. -/
theorem isActive_ne_of_tells_hearMaster {sender : String} {x : Consequence}
    (hx : x ∈ (c.hearMaster sender now).2) : (c.hearMaster sender now).1.isActive ≠ c.isActive := by
  by_cases hactive : c.standing = .active
  · have hafter := c.ne_active_hearMaster sender now
    rw [isActive_eq_true_iff.mpr hactive]
    exact fun h => hafter (isActive_eq_true_iff.mp h)
  · rw [(hearMaster_of_ne_active hactive sender now).2.2] at hx
    exact absurd hx List.not_mem_nil

/-- A contender's announcement is answered with nothing that tells of a change of mastership. -/
theorem calm_hearContender {sender : String} {a : Announcement} {x : Consequence}
    (hx : x ∈ (c.hearContender sender a now).2) : tellsOfMastership x = false := by
  by_cases hactive : c.standing = .active
  · rw [hearContender_of_active hactive] at hx
    rw [List.mem_singleton.mp hx]
    rfl
  · have hnone : (c.hearContender sender a now).2 = [] := by
      cases hy : c.yieldsTo sender a with
      | true => exact (hearContender_of_yieldsTo hactive hy now).2.2
      | false => rw [hearContender_of_not_yieldsTo hactive hy]
    rw [hnone] at hx
    exact absurd hx List.not_mem_nil

/-- What tells of a change of mastership comes with one. -/
theorem isActive_ne_of_tells {isSelf : Bool} {sender : String} {a : Announcement}
    {x : Consequence} (hx : x ∈ (c.hear isSelf sender a now).2)
    (htells : tellsOfMastership x = true) :
    (c.hear isSelf sender a now).1.isActive ≠ c.isActive := by
  by_cases hdisabled : c.standing = .disabled
  · rw [hear_of_disabled hdisabled] at hx
    exact absurd hx List.not_mem_nil
  · rw [hear_of_ne_disabled hdisabled] at hx ⊢
    cases isSelf with
    | true => exact isActive_ne_of_tells_hearEcho hx
    | false =>
      cases a with
      | iAmMaster => exact isActive_ne_of_tells_hearMaster hx
      | iAmStandby | resyncMaster => exact absurd hx List.not_mem_nil
      | whoIsMaster =>
        -- A master says that it is one, and stays it.
        have hx : x ∈ if c.standing = .active then [.broadcast .iAmMaster] else [] := hx
        split at hx
        · rw [List.mem_singleton.mp hx] at htells
          exact absurd htells (by decide)
        · exact absurd hx List.not_mem_nil
      | requestingControl1 | requestingControl2 | takingControl =>
        rw [calm_hearContender hx] at htells
        exact absurd htells Bool.false_ne_true

/-- A candidate in whatever state hears a message, its own or another instance's, and hears it once
more at the same instant. The second time leaves it in every respect as the first left it, and tells
of no change of mastership. A message that cannot be read is refused both times and changes
nothing. -/
theorem process_again (c : Candidate) (isSelf : Bool) (sender action : String) (now : Instant) :
    let e := Event.process isSelf sender action now
    ((∃ a : Announcement, Text.eqIgnoringAsciiCase a.text (Text.trim action) = true) →
      ∃ heard heard', c.process isSelf sender action now = .ok heard ∧ heard.1 = c.after e ∧
        heard.1.process isSelf sender action now = .ok heard' ∧ heard'.1 = heard.1 ∧
        .promoted ∉ heard'.2 ∧ .demoted ∉ heard'.2) ∧
    ((¬ ∃ a : Announcement, Text.eqIgnoringAsciiCase a.text (Text.trim action) = true) →
      c.process isSelf sender action now = .error (.unknownAnnouncement action) ∧
        c.after e = c ∧
        (c.after e).process isSelf sender action now = .error (.unknownAnnouncement action)) := by
  intro e
  refine ⟨fun hknown => ?_, fun hunknown => ?_⟩
  · obtain ⟨a, ha⟩ : ∃ a, Announcement.ofText? action = some a := by
      rw [← Option.ne_none_iff_exists', ne_eq, Announcement.ofText?_eq_none_iff]
      exact not_not_intro hknown
    have hprocess : ∀ c' : Candidate,
        c'.process isSelf sender action now = .ok (c'.hear isSelf sender a now) := by
      intro c'
      simp only [process, Announcement.ofText, ha]
    have hsame := c.hear_again isSelf sender a now
    have hcalm : ∀ x ∈ ((c.hear isSelf sender a now).1.hear isSelf sender a now).2,
        tellsOfMastership x = false := by
      intro x hx
      rw [← Bool.not_eq_true]
      exact fun htells => isActive_ne_of_tells hx htells (by rw [hsame])
    refine ⟨_, _, hprocess c, (after_process ha).symm, hprocess _, hsame, ?_, ?_⟩
    · exact fun hmem => absurd (hcalm _ hmem) (by decide)
    · exact fun hmem => absurd (hcalm _ hmem) (by decide)
  · have hnone := Announcement.ofText?_eq_none_iff.mpr hunknown
    have hsame : c.after e = c := after_process_of_none hnone
    have hrefused : c.process isSelf sender action now = .error (.unknownAnnouncement action) := by
      simp only [process, Announcement.ofText, hnone]
    exact ⟨hrefused, hsame, by rw [hsame, hrefused]⟩

/-- A master that hears of another one twice stands down once, and what it cannot read it
refuses. -/
theorem stands_down_once :
    let c := (create "billing" "b" .participating 0).promote 0
    (∃ c' xs, c.process false "a" " iammaster " 5 =
        .ok (c', [.demoted, .broadcast .iAmStandby]) ∧
      c'.process false "a" " iammaster " 5 = .ok (c', xs) ∧ .demoted ∉ xs) ∧
    c.process false "a" "I am master" 5 = .error (.unknownAnnouncement "I am master") := by
  intro c
  have hfirst : c.process false "a" " iammaster " 5 =
      .ok (c.after (.process false "a" " iammaster " 5), [.demoted, .broadcast .iAmStandby]) := by
    decide +kernel
  obtain ⟨heard, ⟨c', xs⟩, -, hheard, hsecond, hsame, -, hcalm⟩ :=
    (process_again c false "a" " iammaster " 5).1 ⟨.iAmMaster, by decide +kernel⟩
  rw [hheard] at hsecond hsame
  obtain rfl : c' = _ := hsame
  have hunknown : ¬ ∃ a : Announcement,
      Text.eqIgnoringAsciiCase a.text (Text.trim "I am master") = true := by
    rintro ⟨a, ha⟩
    cases a <;> exact absurd ha (by decide +kernel)
  obtain ⟨hrefused, -, -⟩ := (process_again c false "a" "I am master" 5).2 hunknown
  exact ⟨⟨_, xs, hfirst, hsecond, hcalm⟩, hrefused⟩

end Candidate

end CommandMesh
