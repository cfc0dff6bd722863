import CommandMesh.Node.Inbound
import CommandMesh.Proofs.Election.Candidate
import Mathlib.Data.List.Induction

/-!
# `CommandMesh.Proofs.Node.Backlog`: consequences that are carried out late

An event of the election gives consequences, and a node may carry them out after other events. A
`Backlog` is a node with the consequences that it still has to carry out. A `Backlog.Move` is an
event, or that one of these consequences is carried out, whichever it is.

`Node.carryOut` looks at the standing again before it announces a promotion. It does not do so for
an announcement that the event itself asked for, so a node that was master at the event and is not
master any more may still claim to be. `Node.ClaimsUnheld` is this, read off the messages that were
submitted between two states: the announcement is among them, and the node that is left is not
master.

The order in which consequences are carried out is left open altogether. A move may pick any of
those that are due, so every interleaving of the tasks of a node is a run, and some are runs that no
schedule would give. What a node submits is compared by the actions of its messages; over a link
that is down nothing is submitted, and so nothing is claimed.

`Node.Announces` carries the argument. It says of two states that a node has made certain
announcements and nothing else that matters to the election, it composes, and from it a claim that
does not hold can be read off.

* `Node.announces_carryOutAll`: what is announced when consequences are carried out.
* `Backlog.claims_unheld_step_iff`: the moves that claim a mastership which the node does not hold
  are those that carry out an announcement to be master late.
* `Backlog.isMaster_of_due_run`: such an announcement becomes due only while the node is master.
* `Backlog.claims_unheld_iff_stale`: so over every run the claims that do not hold are the stale
  ones, and there are none if consequences are carried out at once.
* `Backlog.claims_unheld_after_rival`: a run with a stale claim.
-/

set_option autoImplicit false

namespace CommandMesh

namespace Node

/-! ### What a node announces -/

/-- From `n` to `n'` the node has made these announcements, if its link is up, and nothing else that
matters to the election. -/
structure Announces (n : Node) (as : List Announcement) (n' : Node) : Prop where
  candidate : n'.candidate = n.candidate
  setup : n'.setup = n.setup
  submitted : n'.outbox.map (·.action) =
    n.outbox.map (·.action) ++ if n.setup.link = .bus then as.map (·.text) else []

namespace Announces

/-- A node that does nothing announces nothing. -/
theorem refl (n : Node) : Announces n [] n where
  candidate := rfl
  setup := rfl
  submitted := by simp

/-- What is announced in two steps is announced in turn. -/
theorem trans {n n' n'' : Node} {as as' : List Announcement} (h : Announces n as n')
    (h' : Announces n' as' n'') : Announces n (as ++ as') n'' where
  candidate := h'.candidate.trans h.candidate
  setup := h'.setup.trans h.setup
  submitted := by
    rw [h'.submitted, h.submitted, h.setup, List.append_assoc]
    split <;> simp

end Announces

/-- The message of an announcement. -/
def announcementMessage (n : Node) (a : Announcement) : Envelope :=
  .blank n.setup.policy.election.channel n.electionKind a.text n.setup.service
    (Supply.name n.supply.scope n.supply.next)

/-- A broadcast draws a key for its message and submits it. -/
theorem broadcast_eq (n : Node) (a : Announcement) :
    n.broadcast a =
      let drawn : Node := { n with supply := { n.supply with next := n.supply.next + 1 } }
      match drawn.submit (n.announcementMessage a) with
      | .ok n => n
      | .error reason => drawn.reportException ("Failed to broadcast " ++ a.text) reason := rfl

/-- A broadcast makes its announcement. -/
theorem announces_broadcast (n : Node) (a : Announcement) : Announces n [a] (n.broadcast a) := by
  rw [broadcast_eq]
  unfold submit
  cases hlink : n.setup.link with
  | bus =>
    refine ⟨by simp [hlink], by simp [hlink], ?_⟩
    simp [hlink, announcementMessage, Envelope.blank]
  -- Nothing is submitted over a dead link, only logged.
  | dead reason =>
    unfold reportException report
    dsimp only
    rw [hlink]
    dsimp only
    split <;> exact ⟨rfl, rfl, by simp [hlink]⟩

/-- Putting the handlers and jobs of the master in place, or removing them, announces nothing. -/
theorem announces_syncMasters (n : Node) : Announces n [] n.syncMasters := by
  unfold syncMasters holdMasters releaseMasters
  split
  · exact Announces.refl n
  · split <;> exact ⟨rfl, rfl, by simp⟩

/-- Carrying out a consequence makes its announcements, as the node then stands. -/
theorem announces_carryOut (n : Node) (c : Consequence) :
    Announces n (n.candidate.announcements c) (n.carryOut c) := by
  cases c with
  | broadcast a => exact n.announces_broadcast a
  | promoted =>
    -- The node looks at its standing now, whatever it was at the event.
    cases hmaster : n.candidate.isActive with
    | true =>
      simp only [Candidate.announcements, carryOut, isMaster, hmaster, if_true]
      exact (n.announces_broadcast .iAmMaster).trans (announces_syncMasters _)
    | false =>
      simp only [Candidate.announcements, carryOut, isMaster, hmaster, Bool.false_eq_true, if_false]
      exact n.announces_syncMasters
  | demoted => exact n.announces_syncMasters

/-- Carrying out consequences in turn makes the announcements of each. -/
theorem announces_carryOutAll (n : Node) (cs : List Consequence) :
    Announces n (cs.flatMap n.candidate.announcements) (n.carryOutAll cs) := by
  induction cs generalizing n with
  | nil => exact Announces.refl n
  | cons c cs ih =>
    have hfirst := n.announces_carryOut c
    -- The standing is the same throughout, and so is what a promotion announces.
    have hrest := ih (n.carryOut c)
    rw [hfirst.candidate] at hrest
    exact hfirst.trans hrest

/-! ### Claims of mastership -/

/-- The actions of the messages that were submitted from `n` to `n'`. -/
def submittedSince (n n' : Node) : List String := (n'.outbox.drop n.outbox.length).map (·.action)

/-- Between `n` and `n'` the node has said that it is master, and it is not. -/
def ClaimsUnheld (n n' : Node) : Prop :=
  Announcement.iAmMaster.text ∈ submittedSince n n' ∧ n'.isMaster = false

instance (n n' : Node) : Decidable (ClaimsUnheld n n') := inferInstanceAs (Decidable (_ ∧ _))

/-- Announcements have different texts, so the text of a claim stands for a claim. -/
theorem text_iAmMaster_mem {as : List Announcement} :
    Announcement.iAmMaster.text ∈ as.map (·.text) ↔ .iAmMaster ∈ as := by
  constructor
  · intro h
    obtain ⟨a, ha, htext⟩ := List.mem_map.mp h
    -- Only one announcement has this text.
    cases a with
    | iAmMaster => exact ha
    | _ => exact absurd htext (by decide)
  · exact fun h => List.mem_map.mpr ⟨_, h, rfl⟩

/-- A node claims a mastership that it does not hold if it announces it over a link that is up. -/
theorem Announces.claimsUnheld_iff {n n' : Node} {as : List Announcement} (h : Announces n as n') :
    ClaimsUnheld n n' ↔ n.setup.link = .bus ∧ n.isMaster = false ∧ .iAmMaster ∈ as := by
  have hsince : submittedSince n n' = if n.setup.link = .bus then as.map (·.text) else [] := by
    -- What was submitted since is what was appended.
    unfold submittedSince
    rw [List.map_drop, h.submitted, List.drop_append_of_le_length (by simp)]
    simp
  have hmaster : n'.isMaster = n.isMaster := by rw [isMaster, h.candidate, isMaster]
  unfold ClaimsUnheld
  rw [hsince, hmaster]
  by_cases hlink : n.setup.link = .bus
  · simp only [hlink, if_true, text_iAmMaster_mem, true_and]
    exact And.comm
  · simp [hlink]

/-- Of what is due, a node that is not master announces to be master only what says just that. -/
theorem iAmMaster_mem_announcements {n : Node} {c : Consequence} (hn : n.isMaster = false) :
    .iAmMaster ∈ n.candidate.announcements c ↔ c = .broadcast .iAmMaster := by
  cases c with
  | broadcast a => simp [Candidate.announcements, eq_comm]
  | promoted =>
    have hactive : n.candidate.isActive = false := hn
    simp [Candidate.announcements, hactive]
  | demoted => simp [Candidate.announcements]

/-- A node that submits nothing claims nothing. -/
theorem not_claimsUnheld_of_outbox {n n' : Node} (h : n'.outbox = n.outbox) :
    ¬ ClaimsUnheld n n' := by
  simp [ClaimsUnheld, submittedSince, h]

/-- To hear a message of the election submits nothing by itself. -/
@[simp] theorem outbox_hear (n : Node) (e : Envelope) (now : Instant) :
    (n.hear e now).1.outbox = n.outbox := by
  unfold hear report
  split
  · rfl
  · dsimp only
    split <;> rfl

/-- A node answers a message with a claim of mastership only while it is master. -/
theorem isMaster_of_claim_hear {n : Node} {e : Envelope} {now : Instant}
    (h : .broadcast .iAmMaster ∈ (n.hear e now).2) :
    n.isMaster = true ∧ (n.hear e now).1.isMaster = true := by
  unfold hear Candidate.process at h ⊢
  cases ha : Announcement.ofText e.action with
  | error f => simp [ha] at h
  | ok a =>
    simp only [ha] at h ⊢
    exact Candidate.active_of_claim_hear h

/-- A poll claims mastership only for a node that is master. -/
theorem isMaster_of_claim_tick {n : Node} {now : Instant} {draw : Nat}
    (h : (n.tick now draw).2 = some .iAmMaster) :
    n.isMaster = true ∧ (n.tick now draw).1.isMaster = true := by
  unfold tick at h ⊢
  rcases hpoll : n.candidate.poll now draw with ⟨c, a⟩
  rw [hpoll] at h
  have hactive := Candidate.active_of_claim_poll (congrArg Prod.snd hpoll |>.trans h)
  rw [hpoll] at hactive
  exact hactive

/-- A node that starts as master claims a mastership that it holds. -/
theorem not_claimsUnheld_startMaster (n : Node) (now : Instant) :
    ¬ ClaimsUnheld n ((n.startMaster now).getD n) := by
  unfold startMaster
  cases hactivate : n.candidate.activate now with
  | none => exact not_claimsUnheld_of_outbox rfl
  | some c =>
    -- It is master before it says so.
    have hwords := (announces_broadcast { n with candidate := c } .iAmMaster).trans
      (announces_syncMasters _)
    intro hclaims
    obtain ⟨-, hmaster, -⟩ := hwords.claimsUnheld_iff.mp hclaims
    have hactive : c.isActive = false := hmaster
    rw [Candidate.isActive_of_activate hactivate] at hactive
    exact absurd hactive (by simp)

/-- A node that resigns claims no mastership. -/
theorem not_claimsUnheld_stopMaster (n : Node) (now : Instant) :
    ¬ ClaimsUnheld n ((n.stopMaster now).getD n) := by
  unfold stopMaster
  cases n.candidate.deactivate now with
  | none => exact not_claimsUnheld_of_outbox rfl
  | some c =>
    have hwords := (announces_broadcast { n with candidate := c } .resyncMaster).trans
      (announces_syncMasters _)
    intro hclaims
    obtain ⟨-, -, hmem⟩ := hwords.claimsUnheld_iff.mp hclaims
    simp at hmem

/-- A node that is not master claims to be, when it carries out consequences, if one of them says
just that. -/
theorem claimsUnheld_carryOutAll_iff (n : Node) (cs : List Consequence) :
    ClaimsUnheld n (n.carryOutAll cs) ↔
      n.setup.link = .bus ∧ n.isMaster = false ∧ .broadcast .iAmMaster ∈ cs := by
  rw [(n.announces_carryOutAll cs).claimsUnheld_iff]
  refine and_congr_right fun _ => and_congr_right fun hn => ?_
  simp only [List.mem_flatMap, iAmMaster_mem_announcements hn, exists_eq_right]

/-- What a node claims from one state on is what it claims from any other with the same messages. -/
theorem claimsUnheld_congr_outbox {n n' : Node} (h : n.outbox = n'.outbox) (n'' : Node) :
    ClaimsUnheld n n'' ↔ ClaimsUnheld n' n'' := by
  unfold ClaimsUnheld submittedSince
  rw [h]

/-- A node that carries out at once what a message of the election asks for claims no mastership
that it does not hold. -/
theorem not_claimsUnheld_hear (n : Node) (e : Envelope) (now : Instant) :
    ¬ ClaimsUnheld n ((n.hear e now).1.carryOutAll (n.hear e now).2) := by
  rw [claimsUnheld_congr_outbox (n.outbox_hear e now).symm, claimsUnheld_carryOutAll_iff]
  rintro ⟨-, hmaster, hmem⟩
  rw [(isMaster_of_claim_hear hmem).2] at hmaster
  exact absurd hmaster (by simp)

/-- A node that announces at once what a poll asks for claims no mastership that it does not
hold. -/
theorem not_claimsUnheld_poll (n : Node) (now : Instant) (draw : Nat) :
    ¬ ClaimsUnheld n (n.poll now draw).1 := by
  have houtbox : n.outbox = (n.tick now draw).1.outbox := rfl
  rw [claimsUnheld_congr_outbox houtbox]
  unfold poll
  -- A poll that announces nothing submits nothing.
  rcases htick : n.tick now draw with ⟨n', _ | a⟩
  · exact not_claimsUnheld_of_outbox rfl
  · intro hclaims
    obtain ⟨-, hmaster, hmem⟩ := (n'.announces_broadcast a).claimsUnheld_iff.mp hclaims
    obtain rfl : Announcement.iAmMaster = a := List.mem_singleton.mp hmem
    have hheld := (isMaster_of_claim_tick (congrArg Prod.snd htick)).2
    rw [htick] at hheld
    rw [hheld] at hmaster
    exact absurd hmaster (by simp)

end Node

/-! ### Consequences that wait -/

/-- A node and the consequences that it has not carried out yet. -/
structure Backlog where
  node : Node
  due : List Consequence := []

namespace Backlog

/-- What may happen next. -/
inductive Move where
  | hear (e : Envelope) (now : Instant)
  /-- Looks whether a poll is due, and leaves its announcement for later. -/
  | tick (now : Instant) (draw : Nat)
  /-- Carries out the consequence at this place, however many came before or after it. -/
  | carryOut (k : Nat)
  | startMaster (now : Instant)
  | stopMaster (now : Instant)

/-- What a move does. -/
def step (b : Backlog) : Move → Backlog
  | .hear e now =>
    let heard := b.node.hear e now
    ⟨heard.1, b.due ++ heard.2⟩
  | .tick now draw =>
    let polled := b.node.tick now draw
    ⟨polled.1, b.due ++ polled.2.toList.map .broadcast⟩
  | .carryOut k =>
    match b.due[k]? with
    | some c => ⟨b.node.carryOut c, b.due.eraseIdx k⟩
    | none => b
  | .startMaster now => { b with node := (b.node.startMaster now).getD b.node }
  | .stopMaster now => { b with node := (b.node.stopMaster now).getD b.node }

/-- Moves in turn. -/
def run (b : Backlog) (ms : List Move) : Backlog := ms.foldl step b

/-- A run with one move more is that move after the run. -/
theorem run_append_singleton (b : Backlog) (ms : List Move) (m : Move) :
    b.run (ms ++ [m]) = (b.run ms).step m := by
  simp [run]

/-- The moves with a claim of mastership that the node does not hold are those that carry out an
announcement to be master, made ready earlier, when the node is not master. -/
theorem claims_unheld_step_iff (b : Backlog) (m : Move) :
    Node.ClaimsUnheld b.node (b.step m).node ↔
      b.node.setup.link = .bus ∧ b.node.isMaster = false ∧
        ∃ k, m = .carryOut k ∧ b.due[k]? = some (.broadcast .iAmMaster) := by
  cases m with
  | hear e now =>
    have hnone := Node.not_claimsUnheld_of_outbox (b.node.outbox_hear e now)
    simpa [step] using hnone
  | tick now draw =>
    have hnone : ¬ Node.ClaimsUnheld b.node (b.node.tick now draw).1 :=
      Node.not_claimsUnheld_of_outbox rfl
    simpa [step] using hnone
  | startMaster now => simpa [step] using b.node.not_claimsUnheld_startMaster now
  | stopMaster now => simpa [step] using b.node.not_claimsUnheld_stopMaster now
  | carryOut k =>
    cases hk : b.due[k]? with
    | none =>
      have hnone : ¬ Node.ClaimsUnheld b.node b.node := Node.not_claimsUnheld_of_outbox rfl
      simpa [step, hk] using hnone
    | some c =>
      have hclaims := (b.node.announces_carryOut c).claimsUnheld_iff
      simp only [step, hk]
      rw [hclaims]
      refine and_congr_right fun _ => and_congr_right fun hn => ?_
      -- A late promotion announces nothing here, since it looks at the standing again.
      rw [Node.iAmMaster_mem_announcements hn]
      constructor
      · rintro rfl
        exact ⟨k, rfl, hk⟩
      · rintro ⟨k', heq, hk'⟩
        obtain rfl : k = k' := Move.carryOut.inj heq
        exact Option.some.inj (hk.symm.trans hk')

/-- A move that makes an announcement to be master due is an event, and the node is master before it
and after it. -/
theorem isMaster_of_due_step {b : Backlog} {m : Move}
    (h : .broadcast .iAmMaster ∈ (b.step m).due) :
    .broadcast .iAmMaster ∈ b.due ∨ b.node.isMaster = true ∧ (b.step m).node.isMaster = true := by
  cases m with
  | hear e now =>
    simp only [step, List.mem_append] at h ⊢
    rcases h with h | h
    · exact Or.inl h
    · exact Or.inr (Node.isMaster_of_claim_hear h)
  | tick now draw =>
    simp only [step, List.mem_append] at h ⊢
    rcases h with h | h
    · exact Or.inl h
    · obtain ⟨a, ha, heq⟩ := List.mem_map.mp h
      obtain rfl : a = .iAmMaster := Consequence.broadcast.inj heq
      exact Or.inr (Node.isMaster_of_claim_tick (Option.mem_toList.mp ha))
  | carryOut k =>
    -- To carry something out only takes away from what is due.
    refine Or.inl ?_
    unfold step at h
    dsimp only at h
    split at h
    · exact List.mem_of_mem_eraseIdx h
    · exact h
  | startMaster | stopMaster => exact Or.inl h

/-- Whatever announcement to be master is due was made ready by an event at which the node was
master. -/
theorem isMaster_of_due_run {n : Node} {ms : List Move}
    (h : .broadcast .iAmMaster ∈ (run ⟨n, []⟩ ms).due) :
    ∃ before m after, ms = before ++ m :: after ∧
      (run ⟨n, []⟩ before).node.isMaster = true ∧
        (run ⟨n, []⟩ (before ++ [m])).node.isMaster = true := by
  -- By induction from the end: what is due after the last move was due before it, or that move made
  -- it due.
  induction ms using List.reverseRecOn with
  | nil => simp [run] at h
  | append_singleton ms m ih =>
    rw [run_append_singleton] at h
    rcases isMaster_of_due_step h with hearlier | ⟨hbefore, hafter⟩
    · obtain ⟨before, m', after, rfl, hbefore, hafter⟩ := ih hearlier
      exact ⟨before, m', after ++ [m], by simp, hbefore, hafter⟩
    · exact ⟨ms, m, [], rfl, hbefore, by rwa [run_append_singleton]⟩

/-- After every run, the next move claims a mastership that the node does not hold just if it
carries out an announcement to be master that is stale: it became due after an earlier event at
which the node was master, and the node is not master any more. Consequences that are carried out
together make such a claim just if one of them is such an announcement. A node that carries out at
once what an event asks for makes none. -/
theorem claims_unheld_iff_stale (n : Node) (ms : List Move) :
    (∀ m, Node.ClaimsUnheld (run ⟨n, []⟩ ms).node ((run ⟨n, []⟩ ms).step m).node ↔
      (run ⟨n, []⟩ ms).node.setup.link = .bus ∧ (run ⟨n, []⟩ ms).node.isMaster = false ∧
        ∃ k, m = .carryOut k ∧ (run ⟨n, []⟩ ms).due[k]? = some (.broadcast .iAmMaster) ∧
          ∃ before e after, ms = before ++ e :: after ∧
            (run ⟨n, []⟩ before).node.isMaster = true ∧
              (run ⟨n, []⟩ (before ++ [e])).node.isMaster = true) ∧
    (∀ cs, Node.ClaimsUnheld (run ⟨n, []⟩ ms).node ((run ⟨n, []⟩ ms).node.carryOutAll cs) ↔
      (run ⟨n, []⟩ ms).node.setup.link = .bus ∧ (run ⟨n, []⟩ ms).node.isMaster = false ∧
        .broadcast .iAmMaster ∈ cs) ∧
    (∀ e now, ¬ Node.ClaimsUnheld (run ⟨n, []⟩ ms).node
      (((run ⟨n, []⟩ ms).node.hear e now).1.carryOutAll
        ((run ⟨n, []⟩ ms).node.hear e now).2)) ∧
    ∀ now draw, ¬ Node.ClaimsUnheld (run ⟨n, []⟩ ms).node
      ((run ⟨n, []⟩ ms).node.poll now draw).1 := by
  refine ⟨fun m => ?_, ?_, ?_, ?_⟩
  · -- The step lemma gives the move; that the announcement became due at an event where the node
    -- was master is the run lemma.
    rw [claims_unheld_step_iff]
    refine and_congr_right fun _ => and_congr_right fun _ => exists_congr fun k =>
      and_congr_right fun _ => ?_
    constructor
    · exact fun hk => ⟨hk, isMaster_of_due_run (List.mem_of_getElem? hk)⟩
    · exact fun h => h.1
  · exact Node.claimsUnheld_carryOutAll_iff _
  · exact Node.not_claimsUnheld_hear _
  · exact Node.not_claimsUnheld_poll _

/-- An instance "a" of a command, with its link up. -/
def sample : Node where
  setup := {
    name := "billing"
    service := "a"
    policy := { NodePolicy.default with election := .participating }
    format := .json
    link := .bus
    keepsLog := false
    masterHandlers := []
    masterJobs := []
    jobs := [] }
  roster := .create 16 .timed []
  candidate := .create "billing" "a" .participating 0
  supply := { scope := 0 }

/-- A message of the election of that command. -/
def sampleMessage (sender : String) (a : Announcement) : Envelope :=
  .blank "masterjob" "billing" a.text sender "1"

/-- A master is asked who the master is, and hears a rival before it answers. It stands by then, and
answers that it is master. -/
theorem claims_unheld_after_rival :
    let b := run ⟨sample, []⟩ [.startMaster 0, .hear (sampleMessage "b" .whoIsMaster) 0,
      .hear (sampleMessage "c" .iAmMaster) 0]
    b.node.isMaster = false ∧ Node.ClaimsUnheld b.node (b.step (.carryOut 0)).node := by
  decide +kernel

end Backlog

end CommandMesh
