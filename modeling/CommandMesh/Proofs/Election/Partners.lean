import CommandMesh.Proofs.Election.Candidate
import Mathlib.Data.List.Induction
import Mathlib.Data.String.Basic

/-!
# `CommandMesh.Proofs.Election.Partners`: which partner is flagged as master

A candidate keeps twice who is master: `knownMaster` names it, and the table of partners flags it.
Hosts read both, so it matters when they agree. The theorem is an equivalence over every history of
polls, messages and changes by the host: they agree exactly if no poll has left a silent master
flagged.

A `Note` says what an event writes into both places, and `notes_after` that it writes nothing else.
All notes leave exactly the known master flagged, but one: a poll that ends the time of standing by
forgets the known master and leaves it flagged (`Note.silence`). Such a partner is `LeftFlagged`
until a later event writes over its flag: an announcement of its own that it stands by, a claim of
mastership by anybody, a resignation, or the promotion of the candidate itself. This is defined by
the history and the notes alone, and the theorem relates it to the state.

Two states are possible after every history. Either the flags agree with the known master
(`Agrees`), or no master is known and exactly one partner is flagged (`Outdated`). Each note leads
from one of them to one of them, which is the induction. In particular no history flags two
partners, and a known master is always the one that is flagged; these parts hold without any
condition.

The table is a list in the order of ids with each partner once. Nothing is assumed about ids or
about who sends what; the sender of a message may be the candidate's own id under a flag that says
otherwise, which then is a partner like any other.

The theorems:

* `Candidate.notes_after`: what an event writes about masters.
* `Candidate.inOrder_afterAll`: every partner is in the table once.
* `Candidate.Agrees.step`, `Candidate.Outdated.step`: where each note leads.
* `Candidate.outdated_iff_leftFlagged`: which partner is flagged while no master is known.
* `Candidate.flags_agree_iff_none_left`: over every history, one partner is flagged at most, only
  the known master is flagged while there is one, and flags and known master agree exactly if no
  partner was left flagged.
* `Candidate.flagged_after_silence`: a history after which they do not agree.
-/

set_option autoImplicit false

namespace CommandMesh

namespace Candidate

/-! ### The table -/

/-- The partners are in the order of their ids, each once. -/
def InOrder (ps : List (String × Bool)) : Prop := ps.Pairwise fun p q => p.1 < q.1

/-- After a partner was written down, it is in the table with its flag, and all others are as
before. -/
theorem mem_setPartner {s : String} {b : Bool} {ps : List (String × Bool)} (h : InOrder ps)
    {p : String × Bool} : p ∈ setPartner s b ps ↔ p = (s, b) ∨ p.1 ≠ s ∧ p ∈ ps := by
  induction ps with
  | nil => simp [setPartner]
  | cons q rest ih =>
    obtain ⟨hfirst, hrest⟩ := List.pairwise_cons.mp h
    unfold setPartner
    split
    · -- The partner was in the table, and the rest comes after it.
      rename_i hs
      have hne : p ∈ rest → p.1 ≠ s := by
        intro hp heq
        exact String.lt_irrefl _ (hs ▸ heq ▸ hfirst p hp)
      constructor
      · intro hp
        rcases List.mem_cons.mp hp with hp | hp
        · exact Or.inl hp
        · exact Or.inr ⟨hne hp, List.mem_cons_of_mem q hp⟩
      · rintro (hp | ⟨hp, hmem⟩)
        · exact hp ▸ List.mem_cons_self
        · rcases List.mem_cons.mp hmem with rfl | hmem
          · exact absurd hs.symm hp
          · exact List.mem_cons_of_mem _ hmem
    · rename_i hs
      split
      · -- The place of the partner is here, in front of all with later ids.
        rename_i hlt
        have hne : p ∈ q :: rest → p.1 ≠ s := by
          rintro hp rfl
          rcases List.mem_cons.mp hp with rfl | hp
          · exact String.lt_irrefl _ hlt
          · exact String.lt_irrefl _ (String.lt_trans hlt (hfirst p hp))
        rw [List.mem_cons]
        exact or_congr_right ⟨fun hp => ⟨hne hp, hp⟩, And.right⟩
      · -- The place is further back, so the first row stays and is another one's.
        rw [List.mem_cons, ih hrest, List.mem_cons]
        constructor
        · rintro (rfl | hp | ⟨hp, hmem⟩)
          · exact Or.inr ⟨Ne.symm hs, Or.inl rfl⟩
          · exact Or.inl hp
          · exact Or.inr ⟨hp, Or.inr hmem⟩
        · rintro (hp | ⟨hp, rfl | hmem⟩)
          · exact Or.inr (Or.inl hp)
          · exact Or.inl rfl
          · exact Or.inr (Or.inr ⟨hp, hmem⟩)

/-- Writing a partner down keeps the table in order. -/
theorem inOrder_setPartner {s : String} {b : Bool} {ps : List (String × Bool)} (h : InOrder ps) :
    InOrder (setPartner s b ps) := by
  induction ps with
  | nil => exact List.pairwise_singleton _ _
  | cons q rest ih =>
    obtain ⟨hfirst, hrest⟩ := List.pairwise_cons.mp h
    unfold setPartner
    split
    · rename_i hs
      -- Only the flag of the first row is new.
      exact List.pairwise_cons.mpr ⟨hs ▸ hfirst, hrest⟩
    · rename_i hs
      split
      · rename_i hlt
        refine List.pairwise_cons.mpr ⟨fun p hp => ?_, h⟩
        rcases List.mem_cons.mp hp with rfl | hp
        · exact hlt
        · exact String.lt_trans hlt (hfirst p hp)
      · rename_i hle
        refine List.pairwise_cons.mpr ⟨fun p hp => ?_, ih hrest⟩
        rcases (mem_setPartner hrest).mp hp with rfl | ⟨-, hp⟩
        · exact lt_of_le_of_ne (not_lt.mp hle) (Ne.symm hs)
        · exact hfirst p hp

/-- Taking all flags away keeps the table in order. -/
theorem inOrder_demoteAll {ps : List (String × Bool)} (h : InOrder ps) :
    InOrder (demoteAll ps) :=
  List.Pairwise.map _ (fun _ _ hlt => hlt) h

/-- Nobody is flagged after all flags were taken away. -/
theorem not_mem_demoteAll (s : String) (ps : List (String × Bool)) : (s, true) ∉ demoteAll ps := by
  simp [demoteAll]

/-- A change of standing leaves the table as it is. -/
@[simp] theorem partners_transition (c : Candidate) (next : Standing) (now : Instant) :
    (c.transition next now).partners = c.partners := by
  unfold transition
  split <;> rfl

/-! ### Notes -/

/-- The partner is flagged as master. -/
def Flags (c : Candidate) (s : String) : Prop := (s, true) ∈ c.partners

/-- What a candidate writes down about masters. -/
inductive Note where
  | nothing
  /-- Nobody is master, or the candidate itself. -/
  | nobody
  | master (s : String)
  | standby (s : String)
  /-- Nothing was heard of a master for too long. -/
  | silence
deriving DecidableEq

namespace Note

/-- Whether `s` is flagged after the note, if `flagged` says so before it. -/
def flags (s : String) (flagged : Prop) : Note → Prop
  | nothing | silence => flagged
  | nobody => False
  | master m => s = m
  | standby m => s ≠ m ∧ flagged

/-- The known master after the note. -/
def known (before : Option String) : Note → Option String
  | nothing => before
  | nobody | silence => none
  | master m => some m
  | standby m => if before = some m then none else before

/-- Whether the note leaves the flag of `m` as it is, if it alone is flagged. -/
def spares (m : String) : Note → Bool
  | nothing | silence => true
  | nobody | master _ => false
  | standby s => s != m

end Note

/-- From `c` to `c'` the candidate has written this about masters and nothing else. -/
structure Notes (note : Note) (c c' : Candidate) : Prop where
  inOrder : InOrder c'.partners
  flags : ∀ s, c'.Flags s ↔ note.flags s (c.Flags s)
  known : c'.knownMaster = note.known c.knownMaster

variable {c c' : Candidate} {now : Instant}

/-- Who leaves both places as they are has written nothing. -/
theorem Notes.of_eq (h : InOrder c.partners) (hpartners : c'.partners = c.partners)
    (hknown : c'.knownMaster = c.knownMaster) : Notes .nothing c c' where
  inOrder := hpartners ▸ h
  flags := fun s => by rw [Flags, hpartners]; rfl
  known := hknown

/-- A change of standing after a note adds nothing to it. -/
theorem Notes.transition {note : Note} (h : Notes note c c') (next : Standing) (now : Instant) :
    Notes note c (c'.transition next now) where
  inOrder := by rw [partners_transition]; exact h.inOrder
  flags := fun s => by rw [Flags, partners_transition]; exact h.flags s
  known := by rw [knownMaster_transition]; exact h.known

/-- Noting that a partner exists writes nothing about masters: a new partner is not flagged. -/
theorem notes_meet (h : InOrder c.partners) (sender : String) :
    Notes .nothing c (c.meet sender) := by
  unfold meet
  split
  · exact Notes.of_eq h rfl rfl
  · rename_i hunknown
    refine ⟨inOrder_setPartner h, fun s => ?_, rfl⟩
    -- Who is not in the table was not flagged.
    have hnone : (sender, true) ∉ c.partners := by
      rw [Bool.not_eq_true, Option.isSome_eq_false_iff, Option.isNone_iff_eq_none] at hunknown
      intro hmem
      have hall := List.lookup_eq_none_iff.mp hunknown _ hmem
      simp at hall
    have hset : (s, true) ∈ setPartner sender false c.partners ↔ s ≠ sender ∧ c.Flags s := by
      rw [mem_setPartner h]
      simp [Flags]
    refine hset.trans ⟨And.right, fun hs => ⟨?_, hs⟩⟩
    rintro rfl
    exact hnone hs

/-- Who is promoted writes that nobody else is master. -/
theorem notes_promote (h : InOrder c.partners) (now : Instant) :
    Notes .nobody c (c.promote now) where
  inOrder := by
    show InOrder (demoteAll (c.transition .active now).partners)
    -- The flags are taken away after the change of standing, which touches no flag.
    rw [partners_transition]
    exact inOrder_demoteAll h
  flags := fun s => iff_of_false (not_mem_demoteAll s _) id
  known := rfl

/-- Who hears that an instance stands by writes that it is not master. -/
theorem notes_hearStandby (h : InOrder c.partners) (sender : String) :
    Notes (.standby sender) c (c.hearStandby sender) where
  inOrder := inOrder_setPartner h
  flags := by
    intro s
    show (s, true) ∈ setPartner sender false c.partners ↔ _
    rw [mem_setPartner h]
    simp [Note.flags, Flags]
  known := rfl

/-- Who writes down a master takes all other flags away. -/
theorem notes_recordMaster (h : InOrder c.partners) (sender : String) :
    Notes (.master sender) c (c.recordMaster sender) where
  inOrder := inOrder_setPartner (inOrder_demoteAll h)
  flags := by
    intro s
    show (s, true) ∈ setPartner sender true (demoteAll c.partners) ↔ _
    rw [mem_setPartner (inOrder_demoteAll h)]
    simp [Note.flags, not_mem_demoteAll]
  known := rfl

/-- Who hears a master writes it down, whether it stands by then or not. -/
theorem notes_hearMaster (h : InOrder c.partners) (sender : String) (now : Instant) :
    Notes (.master sender) c (c.hearMaster sender now).1 := by
  have hrecord := notes_recordMaster h sender
  have hheard : Notes (.master sender) c { c.recordMaster sender with
      standbyDeadline := some (c.deadlineFrom now) } :=
    ⟨hrecord.inOrder, hrecord.flags, hrecord.known⟩
  unfold hearMaster
  dsimp only
  split
  · exact hheard.transition .inactive now
  · split
    · exact hheard.transition .inactive now
    · exact hheard

/-- Who hears a resignation writes that nobody is master. -/
theorem notes_hearResync (h : InOrder c.partners) (sender : String) (now : Instant) :
    Notes .nobody c (c.hearResync sender now) := by
  have hnotes : Notes .nobody c { c with
      partners := demoteAll (setPartner sender false c.partners), knownMaster := none } :=
    ⟨inOrder_demoteAll (inOrder_setPartner h),
      fun s => iff_of_false (not_mem_demoteAll s _) id, rfl⟩
  unfold hearResync
  dsimp only
  split
  · exact hnotes.transition _ _
  · exact hnotes

/-- Who hears a contender writes nothing about masters, whether it gives way or not. -/
theorem notes_hearContender (h : InOrder c.partners) (sender : String) (a : Announcement)
    (now : Instant) : Notes .nothing c (c.hearContender sender a now).1 := by
  have hmeet := notes_meet h sender
  unfold hearContender
  dsimp only
  split
  · exact hmeet
  · split
    · -- It gives way, with a new deadline, which is no part of a note.
      obtain ⟨hinOrder, hflags, hknown⟩ := hmeet.transition .inactive now
      exact ⟨hinOrder, hflags, hknown⟩
    · exact hmeet

/-- An echo writes nothing about masters, unless it promotes the candidate. -/
theorem notes_hearEcho (h : InOrder c.partners) (a : Announcement) (now : Instant) :
    Notes (if .promoted ∈ (c.hearEcho a now).2 then .nobody else .nothing) c
      (c.hearEcho a now).1 := by
  have hsame : Notes .nothing c c := Notes.of_eq h rfl rfl
  unfold hearEcho
  split
  · exact hsame.transition _ _
  · -- Of the rungs only the last one promotes, so the note is decided by where the candidate
    -- stands.
    split
    · exact hsame
    · split
      · exact hsame.transition _ _
      · exact hsame.transition _ _
      · exact hsame.transition _ _
      · rename_i hstanding
        have hactivate : (c.activate now).getD c = c.promote now := by
          simp [activate, hstanding]
        rw [hactivate]
        exact notes_promote h now
      · exact hsame

/-! ### What an event writes -/

/-- What an announcement of another instance makes a candidate write. -/
def noteOf (sender : String) : Announcement → Note
  | .iAmMaster => .master sender
  | .iAmStandby => .standby sender
  | .resyncMaster => .nobody
  | .whoIsMaster | .requestingControl1 | .requestingControl2 | .takingControl => .nothing

/-- What a candidate writes about masters when an event happens. -/
def note (c : Candidate) : Event → Note
  | .poll now _ =>
    if c.nextPoll ≤ now ∧ c.standbyIsOver now = true then .silence else .nothing
  | .process isSelf sender action now =>
    match Announcement.ofText? action with
    | none => .nothing
    | some a =>
      if c.standing = .disabled then .nothing
      else if isSelf then if .promoted ∈ (c.hearEcho a now).2 then .nobody else .nothing
      else noteOf sender a
  | .activate _ => if c.standing = .active then .nothing else .nobody
  | .deactivate _ => .nothing

/-- Starting again forgets the known master and leaves its flag. -/
theorem notes_restart (h : InOrder c.partners) (now : Instant) :
    Notes (if c.standbyIsOver now = true then .silence else .nothing) c (c.restart now) := by
  have hforget : Notes .silence c { c with knownMaster := none } := ⟨h, fun _ => Iff.rfl, rfl⟩
  unfold restart
  split
  · exact hforget.transition .starting now
  · exact Notes.of_eq h rfl rfl

/-- A poll writes nothing about masters, unless it ends the time of standing by. -/
theorem notes_poll (h : InOrder c.partners) (now : Instant) (draw : Nat) :
    Notes (c.note (.poll now draw)) c (c.poll now draw).1 := by
  by_cases hpoll : c.standing ≠ .disabled ∧ c.nextPoll ≤ now
  · obtain ⟨hinOrder, hflags, hknown⟩ := notes_restart h now
    simp only [poll_of_due hpoll.1 hpoll.2, note, hpoll.2, true_and]
    exact ⟨hinOrder, hflags, hknown⟩
  · -- A poll that is not due changes nothing, and who takes no part does not stand by.
    have hidle : c.standing = .disabled ∨ now < c.nextPoll := by
      rw [not_and_or, not_not, not_le] at hpoll
      exact hpoll
    have hnote : ¬ (c.nextPoll ≤ now ∧ c.standbyIsOver now = true) := by
      rintro ⟨hdue, hover⟩
      rcases hidle with hs | hlt
      · simp [standbyIsOver, hs] at hover
      · exact absurd hdue (Nat.not_le.mpr hlt)
    simp only [poll, note, if_pos hidle, if_neg hnote]
    exact Notes.of_eq h rfl rfl

/-- A message makes a candidate write what its announcement asks for, and nothing if it cannot be
read. -/
theorem notes_process (h : InOrder c.partners) (isSelf : Bool) (sender action : String)
    (now : Instant) :
    Notes (c.note (.process isSelf sender action now)) c
      (c.after (.process isSelf sender action now)) := by
  cases htext : Announcement.ofText? action with
  | none =>
    simp only [after, note, process, Announcement.ofText, htext]
    exact Notes.of_eq h rfl rfl
  | some a =>
    simp only [after, note, process, Announcement.ofText, htext, hear]
    split
    · -- Who takes no part hears nothing.
      exact Notes.of_eq h rfl rfl
    · cases isSelf with
      | true => exact notes_hearEcho h a now
      | false =>
        cases a with
        | whoIsMaster => exact notes_meet h sender
        | iAmStandby => exact notes_hearStandby h sender
        | iAmMaster => exact notes_hearMaster h sender now
        | resyncMaster => exact notes_hearResync h sender now
        | requestingControl1 | requestingControl2 | takingControl =>
          exact notes_hearContender h sender _ now

/-- What an event writes about masters. -/
theorem notes_after (h : InOrder c.partners) (e : Event) : Notes (c.note e) c (c.after e) := by
  cases e with
  | poll now draw => exact notes_poll h now draw
  | process isSelf sender action now => exact notes_process h isSelf sender action now
  | activate now =>
    unfold after note activate
    dsimp only
    split
    · exact Notes.of_eq h rfl rfl
    · exact notes_promote h now
  | deactivate now =>
    unfold after note deactivate
    dsimp only
    split
    · exact (Notes.of_eq h rfl rfl).transition _ _
    · exact Notes.of_eq h rfl rfl

/-- Over every history each partner stays in the table once. -/
theorem inOrder_afterAll (h : InOrder c.partners) (es : List Event) :
    InOrder (c.afterAll es).partners := by
  induction es using List.reverseRecOn with
  | nil => exact h
  | append_singleton es e ih =>
    rw [afterAll_append_singleton]
    exact (notes_after ih e).inOrder

/-! ### Flags and the known master -/

/-- Exactly the known master is flagged. -/
def Agrees (c : Candidate) : Prop := ∀ s, c.Flags s ↔ c.knownMaster = some s

/-- No master is known, and `m` is still flagged as one, and nobody else. -/
structure Outdated (m : String) (c : Candidate) : Prop where
  known : c.knownMaster = none
  flags : ∀ s, c.Flags s ↔ s = m

/-- Flags do not agree while somebody is flagged whom nobody takes for the master. -/
theorem Outdated.not_agrees {m : String} (h : c.Outdated m) : ¬ c.Agrees := by
  intro hagrees
  have hknown := (hagrees m).mp ((h.flags m).mpr rfl)
  rw [h.known] at hknown
  exact absurd hknown (by simp)

/-- The flags agree with the known master after every note that is not one of silence. -/
theorem Agrees.notes {note : Note} (h : c.Agrees) (hn : Notes note c c')
    (hnote : note = .silence → c.knownMaster = none) : c'.Agrees := by
  intro s
  rw [hn.flags, hn.known]
  cases note with
  | nothing => exact h s
  | nobody => simp [Note.flags, Note.known]
  | master m => simp [Note.flags, Note.known, eq_comm]
  | standby m =>
    simp only [Note.flags, Note.known, h s]
    by_cases hm : c.knownMaster = some m
    · simp [hm, eq_comm]
    · rw [if_neg hm]
      -- Who stands by was not the known master, so the note changes neither side.
      refine ⟨And.right, fun hs => ⟨?_, hs⟩⟩
      rintro rfl
      exact hm hs
  | silence => simp [Note.flags, Note.known, h s, hnote rfl]

/-- After a note of silence the master that was known is still flagged. -/
theorem Agrees.outdated {m : String} (h : c.Agrees) (hm : c.knownMaster = some m)
    (hn : Notes .silence c c') : c'.Outdated m where
  known := hn.known
  flags := by
    intro s
    rw [hn.flags]
    simp only [Note.flags, h s, hm, Option.some.injEq]
    exact eq_comm

/-- A flag that was left stays until a note writes over it. -/
theorem Outdated.notes {m : String} {note : Note} (h : c.Outdated m) (hn : Notes note c c') :
    if note.spares m then c'.Outdated m else c'.Agrees := by
  have hknown := hn.known
  rw [h.known] at hknown
  cases note with
  | nothing | silence => exact ⟨hknown, fun s => (hn.flags s).trans (h.flags s)⟩
  | nobody => exact fun s => by simp [hn.flags, hknown, Note.flags, Note.known]
  | master m' => exact fun s => by simp [hn.flags, hknown, Note.flags, Note.known, eq_comm]
  | standby m' =>
    by_cases hm : m' = m
    · subst hm
      simp only [Note.spares, bne_self_eq_false, Bool.false_eq_true, if_false]
      exact fun s => by simp [hn.flags, hknown, Note.flags, Note.known, h.flags]
    · simp only [Note.spares, bne_iff_ne, ne_eq, hm, not_false_eq_true, if_true]
      refine ⟨hknown, fun s => ?_⟩
      rw [hn.flags]
      simp only [Note.flags, h.flags]
      refine ⟨And.right, fun hs => ⟨?_, hs⟩⟩
      rintro rfl
      exact hm hs

/-- Flags that agreed with the known master do so after any note but one of silence while a master
is known. That leaves the master flagged. -/
theorem Agrees.step {note : Note} (h : c.Agrees) (hn : Notes note c c') :
    (c'.Agrees ∨ ∃ m, c'.Outdated m) ∧
      ∀ m, c'.Outdated m ↔ note = .silence ∧ c.knownMaster = some m := by
  by_cases hsilence : note = .silence ∧ c.knownMaster ≠ none
  · obtain ⟨rfl, hknown⟩ := hsilence
    obtain ⟨m, hm⟩ := Option.ne_none_iff_exists'.mp hknown
    have hleft := h.outdated hm hn
    refine ⟨Or.inr ⟨m, hleft⟩, fun m' => ?_⟩
    rw [hm, Option.some.injEq]
    constructor
    · intro h'
      exact ⟨rfl, (h'.flags m).mp ((hleft.flags m).mpr rfl)⟩
    · rintro ⟨-, rfl⟩
      exact hleft
  · -- A silence of nobody leaves nobody flagged.
    have hagrees : c'.Agrees :=
      h.notes hn fun hs => Decidable.not_not.mp fun hk => hsilence ⟨hs, hk⟩
    refine ⟨Or.inl hagrees, fun m => iff_of_false (fun h' => h'.not_agrees hagrees) ?_⟩
    rintro ⟨hs, hm⟩
    exact hsilence ⟨hs, by simp [hm]⟩

/-- A partner that was left flagged still is after a note that spares its flag. After any other
note the flags agree with the known master again. -/
theorem Outdated.step {m : String} {note : Note} (h : c.Outdated m) (hn : Notes note c c') :
    (c'.Agrees ∨ ∃ m, c'.Outdated m) ∧
      ∀ m', c'.Outdated m' ↔ c.Outdated m' ∧ note.spares m' = true := by
  have hsame : ∀ m', c.Outdated m' → m' = m :=
    fun m' h' => (h.flags m').mp ((h'.flags m').mpr rfl)
  have hnotes := h.notes hn
  cases hspares : note.spares m with
  | true =>
    rw [if_pos hspares] at hnotes
    -- At most one partner is flagged on either side of the note, and on both sides it is this one.
    refine ⟨Or.inr ⟨m, hnotes⟩, fun m' => ⟨fun h' => ?_, ?_⟩⟩
    · obtain rfl : m' = m := (hnotes.flags m').mp ((h'.flags m').mpr rfl)
      exact ⟨h, hspares⟩
    · rintro ⟨hbefore, -⟩
      exact hsame m' hbefore ▸ hnotes
  | false =>
    rw [if_neg (by simp [hspares])] at hnotes
    refine ⟨Or.inl hnotes, fun m' => iff_of_false (fun h' => h'.not_agrees hnotes) ?_⟩
    rintro ⟨hbefore, hs⟩
    rw [hsame m' hbefore, hspares] at hs
    exact absurd hs (by simp)

/-! ### Histories -/

/-- In this history a poll ended the time of standing by while `m` was known as master, and nothing
that came later wrote over the flag of `m`. -/
def LeftFlagged (c : Candidate) (es : List Event) (m : String) : Prop :=
  ∃ before e later, es = before ++ e :: later ∧
    (c.afterAll before).note e = .silence ∧ (c.afterAll before).knownMaster = some m ∧
      ∀ between e' rest, later = between ++ e' :: rest →
        ((c.afterAll (before ++ e :: between)).note e').spares m = true

/-- Before anything happened nobody was left flagged. -/
theorem not_leftFlagged_nil (c : Candidate) (m : String) : ¬ c.LeftFlagged [] m := by
  rintro ⟨before, e, later, hsplit, -⟩
  simp at hsplit

/-- A history that is one event longer leaves a partner flagged with this event, or earlier and the
event spares the flag. -/
theorem leftFlagged_append_singleton {es : List Event} {e : Event} {m : String} :
    c.LeftFlagged (es ++ [e]) m ↔
      (c.afterAll es).note e = .silence ∧ (c.afterAll es).knownMaster = some m ∨
        c.LeftFlagged es m ∧ ((c.afterAll es).note e).spares m = true := by
  constructor
  · rintro ⟨before, e₀, later, hsplit, hsilence, hknown, hspares⟩
    -- The silence is this event, or it came before and this event is one of those after it.
    rcases List.eq_nil_or_concat' later with rfl | ⟨later, e', rfl⟩
    · obtain ⟨rfl, heq⟩ := List.append_inj' hsplit rfl
      obtain rfl : e = e₀ := List.head_eq_of_cons_eq heq
      exact Or.inl ⟨hsilence, hknown⟩
    · rw [← List.cons_append, ← List.append_assoc] at hsplit
      obtain ⟨rfl, heq⟩ := List.append_inj' hsplit rfl
      obtain rfl : e = e' := List.head_eq_of_cons_eq heq
      refine Or.inr ⟨⟨before, e₀, later, rfl, hsilence, hknown, ?_⟩, hspares later e [] rfl⟩
      rintro between e' rest rfl
      exact hspares between e' (rest ++ [e]) (by simp)
  · rintro (⟨hsilence, hknown⟩ | ⟨⟨before, e₀, later, rfl, hsilence, hknown, hspares⟩, hlast⟩)
    · -- The new event is the silence, and nothing came later.
      exact ⟨es, e, [], rfl, hsilence, hknown, by simp⟩
    · refine ⟨before, e₀, later ++ [e], by simp, hsilence, hknown, ?_⟩
      intro between e' rest hsplit
      -- A later event is the new one, or was there before.
      rcases List.eq_nil_or_concat' rest with rfl | ⟨rest, e'', rfl⟩
      · obtain ⟨rfl, heq⟩ := List.append_inj' hsplit rfl
        obtain rfl : e = e' := List.head_eq_of_cons_eq heq
        exact hlast
      · rw [← List.cons_append, ← List.append_assoc] at hsplit
        obtain ⟨rfl, -⟩ := List.append_inj' hsplit rfl
        exact hspares between e' rest rfl

/-- After every history the flags agree with the known master, or one partner was left flagged; and
it was left flagged just if it is still flagged while no master is known. -/
theorem outdated_iff_leftFlagged (h : InOrder c.partners) (hc : c.Agrees) (es : List Event) :
    ((c.afterAll es).Agrees ∨ ∃ m, (c.afterAll es).Outdated m) ∧
      ∀ m, (c.afterAll es).Outdated m ↔ c.LeftFlagged es m := by
  induction es using List.reverseRecOn with
  | nil =>
    refine ⟨Or.inl hc, fun m => iff_of_false ?_ (c.not_leftFlagged_nil m)⟩
    exact fun houtdated => houtdated.not_agrees hc
  | append_singleton es e ih =>
    obtain ⟨hcases, hleft⟩ := ih
    have hn := notes_after (inOrder_afterAll h es) e
    simp only [afterAll_append_singleton, leftFlagged_append_singleton, ← hleft]
    rcases hcases with hagrees | ⟨m, houtdated⟩
    · -- Nobody was left flagged before, so only this event can leave somebody.
      obtain ⟨hcases, hout⟩ := hagrees.step hn
      refine ⟨hcases, fun m => (hout m).trans ?_⟩
      rw [or_iff_left fun hbefore => hbefore.1.not_agrees hagrees]
    · -- No master is known, so this event leaves nobody flagged who was not before.
      obtain ⟨hcases, hout⟩ := houtdated.step hn
      refine ⟨hcases, fun m' => (hout m').trans ?_⟩
      rw [houtdated.known, or_iff_right (by simp)]

/-- After every history of a candidate every partner is in the table once, at most one is flagged
as master, and while a master is known it and no other is flagged. Flags and known master agree, so
that nobody is flagged while no master is known, exactly if no poll has left a silent master
flagged. -/
theorem flags_agree_iff_none_left (name service : String) (policy : ElectionPolicy)
    (founding : Instant) (es : List Event) :
    let c := create name service policy founding
    InOrder (c.afterAll es).partners ∧
      (∀ s s', (c.afterAll es).Flags s → (c.afterAll es).Flags s' → s = s') ∧
      (∀ m, (c.afterAll es).knownMaster = some m → ∀ s, (c.afterAll es).Flags s ↔ s = m) ∧
      ((∀ s, (c.afterAll es).Flags s ↔ (c.afterAll es).knownMaster = some s) ↔
        ∀ m, ¬ c.LeftFlagged es m) := by
  intro c
  have hinOrder : InOrder c.partners := List.Pairwise.nil
  have hagrees : c.Agrees := fun s => by simp [c, create, Flags]
  obtain ⟨hcases, hleft⟩ := outdated_iff_leftFlagged hinOrder hagrees es
  refine ⟨inOrder_afterAll hinOrder es, fun s s' hs hs' => ?_, fun m hm s => ?_, ?_⟩
  · rcases hcases with h | ⟨m, h⟩
    · exact Option.some.inj (((h s).mp hs).symm.trans ((h s').mp hs'))
    · rw [(h.flags s).mp hs, (h.flags s').mp hs']
  · rcases hcases with h | ⟨m', h⟩
    · rw [h s, hm, Option.some.injEq]
      exact eq_comm
    · rw [h.known] at hm
      exact absurd hm (by simp)
  · constructor
    · exact fun h m hm => ((hleft m).mpr hm).not_agrees h
    · intro h
      rcases hcases with hagrees | ⟨m, houtdated⟩
      · exact hagrees
      · exact absurd ((hleft m).mp houtdated) (h m)

/-- A candidate stands by and hears a master, which then is silent. The poll that ends its time of
standing by forgets the master and leaves it flagged. -/
theorem flagged_after_silence :
    let c := (create "billing" "a" .participating 0).afterAll
      [.activate 0, .deactivate 0, .process false "b" "IAmMaster" 0, .poll 20000000000 0]
    c.knownMaster = none ∧ c.partners = [("b", true)] ∧
      ¬ ∀ s, c.Flags s ↔ c.knownMaster = some s := by
  have hknown : ((create "billing" "a" .participating 0).afterAll
      [.activate 0, .deactivate 0, .process false "b" "IAmMaster" 0,
        .poll 20000000000 0]).knownMaster = none := by decide +kernel
  have hpartners : ((create "billing" "a" .participating 0).afterAll
      [.activate 0, .deactivate 0, .process false "b" "IAmMaster" 0,
        .poll 20000000000 0]).partners = [("b", true)] := by decide +kernel
  refine ⟨hknown, hpartners, fun h => ?_⟩
  have hflagged := (h "b").mp (by rw [Flags, hpartners]; exact List.mem_singleton_self _)
  rw [hknown] at hflagged
  exact absurd hflagged (by simp)

end Candidate

end CommandMesh
