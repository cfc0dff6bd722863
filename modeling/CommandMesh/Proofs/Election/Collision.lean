import CommandMesh.Proofs.Election.Electorate

/-!
# `CommandMesh.Proofs.Election.Collision`: several masters that announce themselves

A split brain is an electorate with several masters. Some of them, the speakers, have announced that
they are master, and every announcement arrives, in an order in which nobody's announcements
overtake each other. A master that hears another one stands down and says so. Which master prevails
is not a matter of ids here: whoever hears the other one first stands down, and if their
announcements cross, both do.

The theorem is about one collision. It begins when all members are master or stand by, and what is
on its way are the announcements of the speakers, and it ends when nothing is on its way any more;
nobody polls in between. Members that still climb are left out. Speakers may be named more than once
in the list, which then counts as several announcements, and there may be masters that have not
spoken. Ids have to be different, as elsewhere: an instance takes announcements under its own id for
echoes.

`Collides` is what holds meanwhile: every master has yet to hear of each speaker but itself, and who
is known as master is one, or will be heard to stand by. The order matters for the second part. A
claim that overtook the announcement that its sender stands by would leave somebody who knows a
master that is none; `ClaimsFirst` says that no claim is behind such an announcement, and arrivals
in order keep it so.

If there is one speaker, it alone stays master, and all others come to know it. If there are
several, each hears of another one, so no master is left: all stand by, know no master, and have a
deadline after which they start again. `no_master_after_crossing` is the smallest case of it, two
masters and one instance that stands by, for every order of arrival.

The theorems:

* `Collides.hears`: what an addressee makes of a delivery, in three cases.
* `Collides.arrives`: what holds during the exchange holds after every arrival.
* `sole_speaker_prevails`: who is master when nothing is on its way any more.
* `no_master_after_crossing`: two masters whose announcements cross.
-/

set_option autoImplicit false

namespace CommandMesh

namespace Candidate

variable {c : Candidate} {now : Instant}

/-- The candidate is master or stands by. -/
def IsSettled (c : Candidate) : Prop := c.standing = .active ∨ c.standing = .inactive

/-- Who is master or stands by hears its own announcements with no effect. -/
theorem IsSettled.hear_self (h : c.IsSettled) (sender : String) (a : Announcement)
    (now : Instant) : c.hear true sender a now = (c, []) := by
  rcases h with h | h <;> simp [hear, hearEcho, h]

/-- A settled candidate that hears a master stands by for its time and knows it. If it was master
itself it says that it stands by. -/
theorem IsSettled.hear_iAmMaster (h : c.IsSettled) (sender : String) (now : Instant) :
    let heard := c.hear false sender .iAmMaster now
    heard.1.standing = .inactive ∧ heard.1.knownMaster = some sender ∧
      heard.1.standbyDeadline.isSome ∧
        utters heard = if c.standing = .active then [.iAmStandby] else [] := by
  rcases h with h | h <;>
    simp [hear, hearOther, hearMaster, recordMaster, h, transition, utters, announcements,
      Standing.isContending]

/-- To hear that another instance stands by changes no standing. -/
theorem IsSettled.hear_iAmStandby (h : c.IsSettled) (sender : String) (now : Instant) :
    let heard := c.hear false sender .iAmStandby now
    heard.1.standing = c.standing ∧
      heard.1.knownMaster = (if c.knownMaster = some sender then none else c.knownMaster) ∧
        heard.1.standbyDeadline = c.standbyDeadline ∧ utters heard = [] := by
  rcases h with h | h <;> simp [hear, hearOther, hearStandby, h, utters]

end Candidate

namespace Electorate

variable {n : Nat} {ids : Fin n → String} {speakers : List (Fin n)} {s s' : Electorate n}
  {d : Delivery n} {now : Instant} {i k : Fin n}

/-! ### What holds during the exchange -/

/-- `i` knows that `k` is master, or will hear that it stands by, or knows no master any more since
`k` stands by. -/
def KeepsUp (ids : Fin n → String) (s : Electorate n) (i k : Fin n) : Prop :=
  (s.members i).knownMaster = some (ids k) ∧
      ((s.members k).standing = .active ∨ ⟨i, ids k, .iAmStandby⟩ ∈ s.inFlight) ∨
    (s.members i).knownMaster = none ∧ (s.members k).standing = .inactive

/-- Nobody's claim to be master comes after its announcement that it stands by. -/
def ClaimsFirst (ds : List (Delivery n)) : Prop :=
  ds.Pairwise fun d e => d.sender = e.sender → d.addressee = e.addressee →
    d.announcement = .iAmStandby → e.announcement ≠ .iAmMaster

/-- The speakers have announced that they are master. Each of the other instances has yet to hear
it, or has heard it. -/
structure Collides (ids : Fin n → String) (speakers : List (Fin n)) (s : Electorate n) : Prop where
  service : ∀ i, (s.members i).service = ids i
  settled : ∀ i, (s.members i).IsSettled
  lawful : ∀ d ∈ s.inFlight, ∃ k, d.sender = ids k ∧
    (d.announcement = .iAmMaster ∧ k ∈ speakers ∨
      d.announcement = .iAmStandby ∧ (s.members k).standing = .inactive)
  claimsFirst : ClaimsFirst s.inFlight
  /-- A master has heard of no other one. -/
  unheard : ∀ i, (s.members i).standing = .active → ∀ k ∈ speakers, k ≠ i →
    ⟨i, ids k, .iAmMaster⟩ ∈ s.inFlight
  /-- Who speaks alone is never contradicted. -/
  alone : ∀ i ∈ speakers, (∀ k ∈ speakers, k = i) → (s.members i).standing = .active
  /-- A claim that does not hold any more is followed by the announcement that says so. -/
  retracted : ∀ i, ∀ k ∈ speakers, ⟨i, ids k, .iAmMaster⟩ ∈ s.inFlight →
    (s.members k).standing = .active ∨ ⟨i, ids k, .iAmStandby⟩ ∈ s.inFlight
  informed : ∀ i, (∃ k ∈ speakers, k ≠ i) →
    (∃ k ∈ speakers, k ≠ i ∧ ⟨i, ids k, .iAmMaster⟩ ∈ s.inFlight) ∨
      (s.members i).standbyDeadline.isSome ∧ ∃ k ∈ speakers, k ≠ i ∧ KeepsUp ids s i k

/-- Before anything has arrived. -/
theorem collides_of_spoken (hids : ∀ i, (s.members i).service = ids i)
    (hsettled : ∀ i, (s.members i).IsSettled)
    (hspeakers : ∀ i ∈ speakers, (s.members i).standing = .active)
    (hflight : s.inFlight = speakers.flatMap fun i => broadcast (ids i) .iAmMaster) :
    Collides ids speakers s := by
  have hmem : ∀ d, d ∈ s.inFlight ↔
      ∃ k ∈ speakers, d.sender = ids k ∧ d.announcement = .iAmMaster := by
    intro d
    simp only [hflight, List.mem_flatMap, mem_broadcast]
  have hclaim : ∀ i, ∀ k ∈ speakers, ⟨i, ids k, .iAmMaster⟩ ∈ s.inFlight :=
    fun i k hk => (hmem _).mpr ⟨k, hk, rfl, rfl⟩
  refine ⟨hids, hsettled, ?_, ?_, fun i _ k hk _ => hclaim i k hk, fun i hi _ => hspeakers i hi,
    fun _ k hk _ => Or.inl (hspeakers k hk), ?_⟩
  · intro d hd
    obtain ⟨k, hk, hsender, ha⟩ := (hmem d).mp hd
    exact ⟨k, hsender, Or.inl ⟨ha, hk⟩⟩
  · refine List.pairwise_of_forall_mem_list fun d hd e _ _ _ hstandby => ?_
    obtain ⟨k, -, -, ha⟩ := (hmem d).mp hd
    rw [ha] at hstandby
    exact absurd hstandby (by decide)
  · rintro i ⟨k, hk, hne⟩
    exact Or.inl ⟨k, hk, hne, hclaim i k hk⟩

/-! ### What an arrival changes -/

/-- What the addressee makes of a delivery. -/
inductive Hears (ids : Fin n → String) (speakers : List (Fin n)) (s : Electorate n)
    (d : Delivery n) (now : Instant) : Prop where
  /-- It hears itself, and nothing changes. -/
  | echo (sender : d.sender = ids d.addressee)
      (heard : s.heard d now = (s.members d.addressee, []))
  /-- It hears a speaker and stands by. -/
  | claim (k : Fin n) (speaker : k ∈ speakers) (other : k ≠ d.addressee)
      (delivery : d = ⟨d.addressee, ids k, .iAmMaster⟩)
      (standing : (s.heard d now).1.standing = .inactive)
      (known : (s.heard d now).1.knownMaster = some (ids k))
      (deadline : (s.heard d now).1.standbyDeadline.isSome)
      (words : Candidate.utters (s.heard d now) =
        if (s.members d.addressee).standing = .active then [.iAmStandby] else [])
  /-- It hears that another instance stands by. -/
  | standby (k : Fin n) (other : k ≠ d.addressee)
      (delivery : d = ⟨d.addressee, ids k, .iAmStandby⟩)
      (inactive : (s.members k).standing = .inactive)
      (standing : (s.heard d now).1.standing = (s.members d.addressee).standing)
      (known : (s.heard d now).1.knownMaster =
        if (s.members d.addressee).knownMaster = some (ids k) then none
        else (s.members d.addressee).knownMaster)
      (deadline : (s.heard d now).1.standbyDeadline = (s.members d.addressee).standbyDeadline)
      (words : Candidate.utters (s.heard d now) = [])

/-- A delivery during a collision is an echo, the claim of a speaker or the news that somebody
stands by. -/
theorem Collides.hears (h : Collides ids speakers s) (hids : Function.Injective ids)
    (hd : d ∈ s.inFlight) (now : Instant) : Hears ids speakers s d now := by
  obtain ⟨i, sender, a⟩ := d
  obtain ⟨k, rfl, ha⟩ := h.lawful _ hd
  have hsettled := h.settled i
  have hheard := heard_eq s ⟨i, ids k, a⟩ now
  rw [h.service] at hheard
  by_cases hself : k = i
  · subst hself
    refine .echo rfl ?_
    rw [hheard, beq_self_eq_true, hsettled.hear_self]
  · have hother : (ids k == ids i) = false :=
      beq_eq_false_iff_ne.mpr fun heq => hself (hids heq)
    rw [hother] at hheard
    rcases ha with ⟨rfl, hk⟩ | ⟨rfl, hk⟩
    · obtain ⟨hstanding, hknown, hdeadline, hwords⟩ := hsettled.hear_iAmMaster (ids k) now
      rw [← hheard] at hstanding hknown hdeadline hwords
      exact .claim k hk hself rfl hstanding hknown hdeadline hwords
    · obtain ⟨hstanding, hknown, hdeadline, hwords⟩ := hsettled.hear_iAmStandby (ids k) now
      rw [← hheard] at hstanding hknown hdeadline hwords
      exact .standby k hself rfl hk hstanding hknown hdeadline hwords

/-- Nobody becomes master, and who stops being master tells everybody that it stands by. -/
theorem Collides.standing_arrival (h : Collides ids speakers s) (hids : Function.Injective ids)
    (hd : Arrival s d now s') (i : Fin n) :
    (s'.members i).standing = (s.members i).standing ∨
      i = d.addressee ∧ (s'.members i).standing = .inactive ∧
        (∃ k ∈ speakers, d = ⟨i, ids k, .iAmMaster⟩ ∧ k ≠ i) ∧
        ∀ j, ⟨j, ids i, .iAmStandby⟩ ∈ s'.inFlight := by
  by_cases hi : i = d.addressee
  · subst hi
    rw [hd.self]
    cases h.hears hids hd.mem now with
    | echo _ hheard => exact Or.inl (by rw [hheard])
    | standby _ _ _ _ hstanding => exact Or.inl hstanding
    | claim k hk hother hdelivery hstanding _ _ hwords =>
      -- Only a master has something to lose, and then it tells everybody.
      rcases h.settled d.addressee with hactive | hinactive
      · refine Or.inr ⟨rfl, hstanding, ⟨k, hk, hdelivery, hother⟩, fun j => hd.answered _ ?_⟩
        rw [if_pos hactive] at hwords
        exact mem_answers.mpr ⟨(h.service _).symm, hwords ▸ List.mem_singleton_self _⟩
      · exact Or.inl (hstanding.trans hinactive.symm)
  · exact Or.inl (congrArg Candidate.standing (hd.other i hi))

/-- Who hears another instance claim to be master stands by. -/
theorem Collides.inactive_of_claim (h : Collides ids speakers s) (hids : Function.Injective ids)
    (hne : k ≠ i) (hd : Arrival s ⟨i, ids k, .iAmMaster⟩ now s') :
    (s'.members i).standing = .inactive := by
  have hself : s'.members i = _ := hd.self
  rw [hself]
  cases h.hears hids hd.mem now with
  | echo hsender => exact absurd (hids hsender) hne
  | claim _ _ _ _ hstanding => exact hstanding
  | standby _ _ hdelivery => simp at hdelivery

/-- All that is said in answer is that the addressee stands by. -/
theorem Collides.origin_arrival (h : Collides ids speakers s) (hids : Function.Injective ids)
    (hd : Arrival s d now s') {e : Delivery n} (he : e ∈ s.answers d now) :
    e.sender = ids d.addressee ∧ e.announcement = .iAmStandby ∧
      (s'.members d.addressee).standing = .inactive := by
  obtain ⟨hsender, hutters⟩ := mem_answers.mp he
  rw [h.service] at hsender
  rw [hd.self]
  cases h.hears hids hd.mem now with
  | echo _ hheard => simp [hheard, Candidate.utters] at hutters
  | standby _ _ _ _ _ _ _ hwords => simp [hwords] at hutters
  | claim _ _ _ _ hstanding _ _ hwords =>
    rw [hwords] at hutters
    split at hutters
    · exact ⟨hsender, List.mem_singleton.mp hutters, hstanding⟩
    · simp at hutters

/-! ### From arrival to arrival -/

/-- After an arrival no claim stands behind the news that its sender stands by, if the answers are
no claims. -/
theorem ClaimsFirst.arrives {before after answers : List (Delivery n)}
    (h : ClaimsFirst (before ++ d :: after))
    (hanswers : ∀ e ∈ answers, e.announcement = .iAmStandby) :
    ClaimsFirst (before ++ after ++ answers) := by
  have hne : ∀ e ∈ answers, e.announcement ≠ .iAmMaster := by
    intro e he
    rw [hanswers e he]
    decide
  refine List.pairwise_append.mpr ⟨?_, ?_, fun _ _ e he _ _ _ => hne e he⟩
  · exact h.sublist (List.Sublist.append_left (List.sublist_cons_self d after) before)
  · exact List.pairwise_of_forall_mem_list fun _ _ e he _ _ _ => hne e he

/-- When an instance is heard to stand by, its addressee has heard all its claims. -/
theorem ClaimsFirst.not_mem {before after : List (Delivery n)}
    (h : ClaimsFirst (before ++ d :: after))
    (hfirst : ∀ e ∈ before, e.sender = d.sender → e.addressee ≠ d.addressee)
    (hd : d.announcement = .iAmStandby) :
    ⟨d.addressee, d.sender, .iAmMaster⟩ ∉ before ++ after := by
  intro hmem
  rcases List.mem_append.mp hmem with hmem | hmem
  · exact hfirst _ hmem rfl rfl
  · have hafter := List.pairwise_cons.mp (List.pairwise_append.mp h).2.1
    exact hafter.1 _ hmem rfl rfl hd rfl

/-- Who keeps up with a speaker does so as long as it hears nothing else. -/
theorem Collides.keepsUp_arrival (h : Collides ids speakers s) (hids : Function.Injective ids)
    (hd : Arrival s d now s') (hknown : (s'.members i).knownMaster = (s.members i).knownMaster)
    (hne : d ≠ ⟨i, ids k, .iAmStandby⟩) (hup : KeepsUp ids s i k) : KeepsUp ids s' i k := by
  rcases h.standing_arrival hids hd k with hstanding | ⟨-, hinactive, -, hwords⟩
  · rcases hup with ⟨hknew, hactive | hmem⟩ | ⟨hnone, hinactive⟩
    · exact Or.inl ⟨hknown.trans hknew, Or.inl (hstanding.trans hactive)⟩
    · exact Or.inl ⟨hknown.trans hknew, Or.inr (hd.kept _ hmem (Ne.symm hne))⟩
    · exact Or.inr ⟨hknown.trans hnone, hstanding.trans hinactive⟩
  -- The speaker has stood down just now, and has told everybody.
  · rcases hup with ⟨hknew, -⟩ | ⟨hnone, -⟩
    · exact Or.inl ⟨hknown.trans hknew, Or.inr (hwords i)⟩
    · exact Or.inr ⟨hknown.trans hnone, hinactive⟩

/-- A claim that is still on its way is that of a master, or is followed by the news that it stands
by. -/
theorem Collides.retracted_arrival (h : Collides ids speakers s) (hids : Function.Injective ids)
    (hd : Arrival s d now s') (hk : k ∈ speakers) (hmem : ⟨i, ids k, .iAmMaster⟩ ∈ s.inFlight)
    (hne : d ≠ ⟨i, ids k, .iAmStandby⟩) :
    (s'.members k).standing = .active ∨ ⟨i, ids k, .iAmStandby⟩ ∈ s'.inFlight := by
  rcases h.standing_arrival hids hd k with hstanding | ⟨-, -, -, hwords⟩
  · exact (h.retracted i k hk hmem).imp hstanding.trans fun hmem => hd.kept _ hmem (Ne.symm hne)
  · exact Or.inr (hwords i)

/-- Who keeps up with a speaker does so when it hears somebody stand by, the speaker or another
one. -/
theorem Collides.keepsUp_standby (h : Collides ids speakers s) (hids : Function.Injective ids)
    {j : Fin n} (hd : Arrival s ⟨i, ids j, .iAmStandby⟩ now s')
    (hinactive : (s.members j).standing = .inactive)
    (hknown : (s'.members i).knownMaster =
      if (s.members i).knownMaster = some (ids j) then none else (s.members i).knownMaster)
    (hup : KeepsUp ids s i k) : KeepsUp ids s' i k := by
  by_cases hsame : k = j
  · subst hsame
    -- Whoever it knew, it does not know this one any more.
    refine Or.inr ⟨?_, ?_⟩
    · rw [hknown]
      rcases hup with ⟨hknew, -⟩ | ⟨hnone, -⟩
      · rw [if_pos hknew]
      · rw [hnone, if_neg (by simp)]
    · exact (h.standing_arrival hids hd k).elim (·.trans hinactive) (·.2.1)
  · refine h.keepsUp_arrival hids hd ?_ ?_ hup
    · rw [hknown, if_neg]
      rcases hup with ⟨hknew, -⟩ | ⟨hnone, -⟩
      · rw [hknew]
        exact fun heq => hsame (hids (Option.some.inj heq))
      · simp [hnone]
    · intro heq
      simp only [Delivery.mk.injEq, true_and, and_true] at heq
      exact hsame (hids heq.symm)

/-- The addressee has yet to hear a speaker, or keeps up with one. -/
theorem Collides.informed_addressee (h : Collides ids speakers s) (hids : Function.Injective ids)
    (hd : Arrival s d now s') (hi : ∃ k ∈ speakers, k ≠ d.addressee) :
    (∃ k ∈ speakers, k ≠ d.addressee ∧ ⟨d.addressee, ids k, .iAmMaster⟩ ∈ s'.inFlight) ∨
      (s'.members d.addressee).standbyDeadline.isSome ∧
        ∃ k ∈ speakers, k ≠ d.addressee ∧ KeepsUp ids s' d.addressee k := by
  have hself := hd.self
  -- An echo takes nothing away, a claim is what it waited for, and news of who stands by may make
  -- it forget one.
  cases h.hears hids hd.mem now with
  | echo hsender hheard =>
    rw [hheard] at hself
    have hne : ∀ k, k ≠ d.addressee → ∀ a, d ≠ ⟨d.addressee, ids k, a⟩ := by
      intro k hk a heq
      exact hk (hids ((congrArg Delivery.sender heq).symm.trans hsender))
    rw [hself]
    rcases h.informed _ hi with ⟨k, hk, hother, hmem⟩ | ⟨hdeadline, k, hk, hother, hup⟩
    · exact Or.inl ⟨k, hk, hother, hd.kept _ hmem (Ne.symm (hne k hother _))⟩
    · refine Or.inr ⟨hdeadline, k, hk, hother, ?_⟩
      exact h.keepsUp_arrival hids hd (by rw [hself]) (hne k hother _) hup
  | claim k hk hother hdelivery _ hknown hdeadline =>
    -- It keeps up with this speaker from now on.
    have hretracted := h.retracted_arrival hids hd hk (hdelivery ▸ hd.mem)
      (fun heq => by rw [hdelivery] at heq; simp at heq)
    rw [← hself] at hknown hdeadline
    exact Or.inr ⟨hdeadline, k, hk, hother, Or.inl ⟨hknown, hretracted⟩⟩
  | standby j _ hdelivery hinactive _ hknown hdeadline =>
    rw [← hself] at hknown hdeadline
    rcases h.informed _ hi with ⟨k, hk, hother, hmem⟩ | ⟨hsome, k, hk, hother, hup⟩
    · refine Or.inl ⟨k, hk, hother, hd.kept _ hmem fun heq => ?_⟩
      rw [hdelivery] at heq
      simp at heq
    · refine Or.inr ⟨by rw [hdeadline]; exact hsome, k, hk, hother, ?_⟩
      rw [hdelivery] at hd
      exact h.keepsUp_standby hids hd hinactive hknown hup

/-- After an arrival, everybody has yet to hear a speaker or keeps up with one. -/
theorem Collides.informed_arrival (h : Collides ids speakers s) (hids : Function.Injective ids)
    (hd : Arrival s d now s') (i : Fin n) (hi : ∃ k ∈ speakers, k ≠ i) :
    (∃ k ∈ speakers, k ≠ i ∧ ⟨i, ids k, .iAmMaster⟩ ∈ s'.inFlight) ∨
      (s'.members i).standbyDeadline.isSome ∧
        ∃ k ∈ speakers, k ≠ i ∧ KeepsUp ids s' i k := by
  by_cases haddressee : i = d.addressee
  · subst haddressee
    exact h.informed_addressee hids hd hi
  · have hother := hd.other i haddressee
    rcases h.informed i hi with ⟨k, hk, hne, hmem⟩ | ⟨hdeadline, k, hk, hne, hup⟩
    · exact Or.inl ⟨k, hk, hne, hd.kept_of_addressee hmem haddressee⟩
    · refine Or.inr ⟨by rw [hother]; exact hdeadline, k, hk, hne, ?_⟩
      refine h.keepsUp_arrival hids hd (by rw [hother]) (fun heq => haddressee ?_) hup
      rw [heq]

/-- Every arrival keeps the state of a collision, if nobody's announcements overtake each other. -/
theorem Collides.arrives (h : Collides ids speakers s) (hids : Function.Injective ids)
    (hs : ArrivesInOrder s s') : Collides ids speakers s' := by
  obtain ⟨before, d, after, now, hsplit, hfirst, hs'⟩ := hs
  have hd : Arrival s d now s' := hs' ▸ arrival_deliver hsplit now
  have hflight : s'.inFlight = before ++ after ++ s.answers d now := by rw [hs']; rfl
  have hclaims : ClaimsFirst (before ++ d :: after) := hsplit ▸ h.claimsFirst
  have hstanding := h.standing_arrival hids hd
  -- Claims are not made any more.
  have hclaimed : ∀ e ∈ s'.inFlight, e.announcement = .iAmMaster → e ∈ before ++ after := by
    intro e he ha
    rw [hflight] at he
    refine (List.mem_append.mp he).resolve_right fun he => ?_
    rw [(h.origin_arrival hids hd he).2.1] at ha
    exact absurd ha (by decide)
  have hold : ∀ e ∈ before ++ after, e ∈ s.inFlight := by
    intro e he
    rw [hsplit]
    exact (List.Sublist.append_left (List.sublist_cons_self d after) before).subset he
  -- The parts in their order: who is settled, what is on its way, the order of claims, what masters
  -- have yet to hear, who speaks alone and which claims are retracted.
  refine ⟨fun i => (hd.keeps i).service.trans (h.service i), ?_, ?_, ?_, ?_, ?_, ?_,
    h.informed_arrival hids hd⟩
  · intro i
    rcases hstanding i with hs | ⟨-, hs, -⟩
    · exact (h.settled i).imp hs.trans hs.trans
    · exact Or.inr hs
  · intro e he
    rcases hd.origin e he with he | he
    · obtain ⟨k, hsender, ha⟩ := h.lawful e he
      refine ⟨k, hsender, ha.imp id fun ⟨ha, hinactive⟩ => ⟨ha, ?_⟩⟩
      exact (hstanding k).elim (·.trans hinactive) (·.2.1)
    · obtain ⟨hsender, ha, hinactive⟩ := h.origin_arrival hids hd he
      exact ⟨d.addressee, hsender, Or.inr ⟨ha, hinactive⟩⟩
  · rw [hflight]
    exact hclaims.arrives fun e he => (h.origin_arrival hids hd he).2.1
  · intro i hactive k hk hne
    rcases hstanding i with hs | ⟨-, hinactive, -⟩
    · refine hd.kept _ (h.unheard i (hs ▸ hactive) k hk hne) ?_
      rintro rfl
      rw [h.inactive_of_claim hids hne hd] at hactive
      exact absurd hactive (by decide)
    · rw [hinactive] at hactive
      exact absurd hactive (by decide)
  · intro i hi halone
    rcases hstanding i with hs | ⟨-, -, ⟨k, hk, -, hne⟩, -⟩
    · exact hs.trans (h.alone i hi halone)
    · exact absurd (halone k hk) hne
  · intro i k hk hmem
    have hmem := hclaimed _ hmem rfl
    refine h.retracted_arrival hids hd hk (hold _ hmem) ?_
    -- What its sender has claimed before has arrived before.
    rintro rfl
    exact hclaims.not_mem hfirst rfl hmem

/-- Any number of arrivals keep the state of a collision, if nobody's announcements overtake each
other. -/
theorem Collides.exchange (h : Collides ids speakers s) (hids : Function.Injective ids)
    (hs : OrderedExchange s s') : Collides ids speakers s' := by
  induction hs with
  | refl => exact h
  | tail _ hlast ih => exact ih.arrives hids hlast

/-! ### When nothing is on its way any more -/

/-- Whoever some other instance has claimed mastership to stands by in the end. -/
theorem Collides.inactive_of_done (h : Collides ids speakers s) (hdone : s.inFlight = [])
    (hi : ∃ k ∈ speakers, k ≠ i) : (s.members i).standing = .inactive := by
  obtain ⟨k, hk, hne⟩ := hi
  refine (h.settled i).resolve_left fun hactive => ?_
  have hmem := h.unheard i hactive k hk hne
  simp [hdone] at hmem

/-- It keeps up with one of those, and will start again after a time. -/
theorem Collides.informed_of_done (h : Collides ids speakers s) (hdone : s.inFlight = [])
    (hi : ∃ k ∈ speakers, k ≠ i) :
    (s.members i).standbyDeadline.isSome ∧ ∃ k ∈ speakers, k ≠ i ∧
      ((s.members i).knownMaster = some (ids k) ∧ (s.members k).standing = .active ∨
        (s.members i).knownMaster = none ∧ (s.members k).standing = .inactive) := by
  have hinformed := h.informed i hi
  simpa [KeepsUp, hdone] using hinformed

/-- Some masters have announced themselves, and everything arrives, in an order in which nobody's
announcements overtake each other. If one has announced itself, it alone is master in the end, and
all others stand by and know it. If two or more have, nobody is master: all stand by, know no
master, and have a deadline after which they start again. -/
theorem sole_speaker_prevails (hids : Function.Injective fun i => (s.members i).service)
    (hsettled : ∀ i, (s.members i).standing = .active ∨ (s.members i).standing = .inactive)
    (hspeakers : ∀ i ∈ speakers, (s.members i).standing = .active)
    (hflight : s.inFlight =
      speakers.flatMap fun i => broadcast (s.members i).service .iAmMaster)
    (hexchange : OrderedExchange s s') (hdone : s'.inFlight = []) :
    (∀ i ∈ speakers, (∀ k ∈ speakers, k = i) →
      (s'.members i).standing = .active ∧
        ∀ j, j ≠ i → (s'.members j).standing = .inactive ∧
          (s'.members j).knownMaster = some (s.members i).service) ∧
    ((∃ i ∈ speakers, ∃ k ∈ speakers, i ≠ k) →
      ∀ j, (s'.members j).standing = .inactive ∧ (s'.members j).knownMaster = none ∧
        (s'.members j).standbyDeadline.isSome) := by
  have h := (collides_of_spoken (fun _ => rfl) hsettled hspeakers hflight).exchange hids hexchange
  refine ⟨fun i hi halone => ?_, fun ⟨i, hi, k, hk, hne⟩ j => ?_⟩
  · -- Everybody else has heard this speaker and no other one.
    have hactive := h.alone i hi halone
    refine ⟨hactive, fun j hj => ?_⟩
    have hother : ∃ k ∈ speakers, k ≠ j := ⟨i, hi, Ne.symm hj⟩
    obtain ⟨-, k, hk, -, hup⟩ := h.informed_of_done hdone hother
    obtain rfl := halone k hk
    refine ⟨h.inactive_of_done hdone hother, ?_⟩
    rcases hup with ⟨hknown, -⟩ | ⟨-, hinactive⟩
    · exact hknown
    · rw [hactive] at hinactive
      exact absurd hinactive (by decide)
  · -- Everybody hears a speaker that is not itself, so nobody stays master.
    have hother : ∀ j, ∃ k ∈ speakers, k ≠ j := by
      intro j
      by_cases hj : i = j
      · exact ⟨k, hk, fun heq => hne (hj.trans heq.symm)⟩
      · exact ⟨i, hi, hj⟩
    obtain ⟨hdeadline, k, -, -, hup⟩ := h.informed_of_done hdone (hother j)
    refine ⟨h.inactive_of_done hdone (hother j), ?_, hdeadline⟩
    rcases hup with ⟨-, hactive⟩ | ⟨hknown, -⟩
    · rw [h.inactive_of_done hdone (hother k)] at hactive
      exact absurd hactive (by decide)
    · exact hknown

/-- Two masters "a" and "b" and an instance "c" that stands by. -/
def rivals : Fin 3 → Candidate
  | 0 => (Candidate.create "billing" "a" .participating 0).promote 0
  | 1 => (Candidate.create "billing" "b" .participating 0).promote 0
  | 2 => (Candidate.create "billing" "c" .participating 0).transition .inactive 0

/-- Both masters have announced themselves. -/
def crossing : Electorate 3 where
  members := rivals
  inFlight := [0, 1].flatMap fun i => broadcast (rivals i).service .iAmMaster

/-- When the announcements of both have arrived, everybody stands by. -/
theorem all_stand_by_after_crossing :
    ∃ s', OrderedExchange crossing s' ∧ s'.inFlight = [] ∧
      ∀ j, (s'.members j).standing = .inactive ∧ (s'.members j).knownMaster = none ∧
        (s'.members j).standbyDeadline.isSome := by
  have hids : Function.Injective fun i => (crossing.members i).service := by
    unfold Function.Injective
    decide
  have hsettled : ∀ i, (crossing.members i).standing = .active ∨
      (crossing.members i).standing = .inactive := by
    decide
  have hspeakers : ∀ i ∈ ([0, 1] : List (Fin 3)), (crossing.members i).standing = .active := by
    decide
  obtain ⟨s', hexchange, hdone⟩ := crossing.exists_orderedExchange
  obtain ⟨-, hcrossed⟩ := sole_speaker_prevails hids hsettled hspeakers rfl hexchange hdone
  exact ⟨s', hexchange, hdone, hcrossed ⟨0, by simp, 1, by simp, by decide⟩⟩

/-- Two instances are master and announce it, and the announcements of both are on their way. When
everything has arrived, in whatever order, it is not so that exactly one of them is master. -/
theorem no_master_after_crossing :
    (Function.Injective fun i => (rivals i).service) ∧
      (rivals 0).standing = .active ∧ (rivals 1).standing = .active ∧
      (rivals 2).standing = .inactive ∧
      (∃ s', OrderedExchange crossing s' ∧ s'.inFlight = []) ∧
      ∀ s', OrderedExchange crossing s' → s'.inFlight = [] →
        ¬ ∃! i, (s'.members i).standing = .active := by
  have hids : Function.Injective fun i => (rivals i).service := by
    unfold Function.Injective
    decide
  refine ⟨hids, rfl, rfl, rfl, crossing.exists_orderedExchange, ?_⟩
  rintro s' hexchange hdone ⟨i, hactive, -⟩
  have hcollides : Collides (fun i => (rivals i).service) [0, 1] crossing :=
    collides_of_spoken (fun _ => rfl)
      (by unfold Candidate.IsSettled; decide) (by decide) rfl
  have hother : ∀ i : Fin 3, ∃ k ∈ ([0, 1] : List (Fin 3)), k ≠ i := by decide
  have hinactive := (hcollides.exchange hids hexchange).inactive_of_done hdone (hother i)
  rw [hinactive] at hactive
  exact absurd hactive (by decide)

end Electorate

end CommandMesh
