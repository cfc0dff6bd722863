import CommandMesh.Proofs.Node.Masters

/-!
# `CommandMesh.Proofs.Node.Agenda`: the handlers and jobs of the master follow mastership

A node brings the handlers and jobs of the master in line some time after it became master or lost
that, and by then it may have lost it or become master again. An `Agenda` is a node with the
consequences that it has not carried out yet and the number of times that it still has to bring its
handlers and jobs in line.

A node may do any of these next, in any order: hear messages of the election, poll, become master or
resign, carry out any of its consequences and not only the oldest one, and bring its handlers and
jobs in line. Its host may meanwhile start it and register and remove routes and jobs, with one
restriction (`Move.SparesMasters`): it does not register anything of the master nor remove what the
node keeps for its part as master. What a host does to those is another matter; nobody asks then
whether the node is master.

The invariant is `InLine`. What the node has noted about its handlers is what is in place, all of
them or none; and unless that is as it stands, something on the agenda will bring them in line. It
is enough that something will, and it does not matter which, because bringing them in line looks at
how the node stands then and not at why it was put on the agenda. The theorems:

* `Agenda.InLine.step`: unless what the node has noted is how it stands, there is something on the
  agenda that will bring it in line.
* `Agenda.masters_follow_mastership`: so the handlers and jobs of the master are in place as a whole
  or not at all, and follow mastership once nothing of that kind is left on the agenda.
* `Agenda.masters_in_place_before_announcement`: a master that has them in place before it has told
  anybody.
-/

set_option autoImplicit false

namespace CommandMesh

/-! ### What is still to be done -/

/-- A node, the consequences that it has not carried out yet, and how often it still has to bring
the handlers and jobs of the master in line. -/
structure Agenda extends Backlog where
  syncs : Nat := 0

namespace Agenda

/-- What may happen next. -/
inductive Move where
  /-- An event of the election, or a consequence is carried out. -/
  | election (m : Backlog.Move)
  /-- Makes the node master, and leaves all else of its start as master for later. -/
  | activate (now : Instant)
  /-- Makes a master stand by, and leaves all else of its resignation for later. -/
  | deactivate (now : Instant)
  /-- Brings the handlers and jobs of the master in line. -/
  | sync
  | start
  | addRoute (pattern : RoutePattern) (handler : Handler) (reference : Option String)
      (masterOnly : Bool)
  | removeRoute (pattern : RoutePattern) (masterOnly : Bool)
  | addJob (job : Job)
  | removeJob (k : Nat)

/-- The move touches nothing that the node keeps for its part as master. -/
def Move.SparesMasters (n : Node) : Move → Prop
  | .start => ∀ job ∈ n.setup.jobs, job.masterOnly = false
  | .addRoute pattern _ _ masterOnly | .removeRoute pattern masterOnly =>
    ¬ (masterOnly = true ∧ pattern ∈ n.masterPatterns)
  | .addJob job => job.masterOnly = false
  | .removeJob k => n.roster.timetable.isMasterOnly k = false
  | .election _ | .activate _ | .deactivate _ | .sync => True

/-- Makes the node master or resigns, if it can. What it announces then and the handlers and jobs of
the master are left for later. -/
def change (a : Agenda) (next : Option Candidate) (x : Announcement) : Agenda :=
  match next with
  | some c => ⟨⟨{ a.node with candidate := c }, a.due ++ [.broadcast x]⟩, a.syncs + 1⟩
  | none => a

/-- What a move does. -/
def step (a : Agenda) : Move → Agenda
  | .election m => { a with toBacklog := a.toBacklog.step m }
  | .activate now => a.change (a.node.candidate.activate now) .iAmMaster
  | .deactivate now => a.change (a.node.candidate.deactivate now) .resyncMaster
  | .sync =>
    match a.syncs with
    | 0 => a
    | syncs + 1 => ⟨⟨a.node.syncMasters, a.due⟩, syncs⟩
  | .start => { a with node := a.node.start.toOption.getD a.node }
  | .addRoute pattern handler reference masterOnly =>
    { a with node := { a.node with
      roster := (a.node.roster.addRoute pattern handler reference masterOnly).1 } }
  | .removeRoute pattern masterOnly =>
    { a with node := { a.node with
      roster := (a.node.roster.removeRoute pattern masterOnly).getD a.node.roster } }
  | .addJob job => { a with node := a.node.addJob job }
  | .removeJob k =>
    { a with node := { a.node with roster := (a.node.roster.removeJob k).getD a.node.roster } }

/-- What a node may come to by moves that touch nothing that it keeps for its part as master. -/
inductive Reached (n : Node) : Agenda → Prop where
  | refl : Reached n ⟨⟨n, []⟩, 0⟩
  | step {a : Agenda} {m : Move} : Reached n a → m.SparesMasters a.node → Reached n (a.step m)

/-- Something on the agenda will bring the handlers and jobs of the master in line. -/
def Pending (a : Agenda) : Prop :=
  0 < a.syncs ∨ ∃ c ∈ a.due, Candidate.tellsOfMastership c = true

/-- The handlers and jobs of the master are in place as the node has noted, and unless that is as it
stands, something on the agenda will bring them in line. -/
structure InLine (n : Node) (a : Agenda) : Prop where
  setup : a.node.setup = n.setup
  noted : a.node.MastersNoted
  followed : a.node.mastersHeld = a.node.isMaster ∨ a.Pending

/-- What leaves alone what is the master's keeps it in line. -/
theorem InLine.of_same {n : Node} {a a' : Agenda} (h : a.InLine n)
    (hsame : Node.SameMasters a.node a'.node) (hdue : a'.due = a.due)
    (hsyncs : a'.syncs = a.syncs) : a'.InLine n where
  setup := hsame.setup.trans h.setup
  noted := hsame.noted h.noted
  followed := by
    rw [hsame.held, hsame.isMaster, Pending, hdue, hsyncs]
    exact h.followed

/-- After the handlers and jobs of the master were brought in line, they are. -/
theorem inLine_of_sync {n m : Node} {a : Agenda} (hsetup : m.setup = n.setup)
    (hnoted : m.MastersNoted) (hnode : a.node = m.syncMasters) : a.InLine n where
  setup := by rw [hnode, m.announces_syncMasters.setup, hsetup]
  noted := by rw [hnode]; exact hnoted.syncMasters
  followed := Or.inl (by rw [hnode]; exact m.mastersHeld_syncMasters)

/-- A consequence that does not tell of mastership leaves those that do on the agenda. -/
theorem pending_eraseIdx {due : List Consequence} {k : Nat} {x : Announcement}
    (hk : due[k]? = some (.broadcast x)) (h : ∃ c ∈ due, Candidate.tellsOfMastership c = true) :
    ∃ c ∈ due.eraseIdx k, Candidate.tellsOfMastership c = true := by
  obtain ⟨c, hc, htells⟩ := h
  obtain ⟨j, hj⟩ := List.mem_iff_getElem?.mp hc
  refine ⟨c, List.mem_eraseIdx_iff_getElem?.mpr ⟨j, ?_, hj⟩, htells⟩
  rintro rfl
  obtain rfl := Option.some.inj (hk.symm.trans hj)
  simp [Candidate.tellsOfMastership] at htells

/-- A message that makes the node master or unmakes it puts that on the agenda. -/
theorem InLine.hear {n : Node} {a : Agenda} (h : a.InLine n) (e : Envelope) (now : Instant) :
    (a.step (.election (.hear e now))).InLine n := by
  -- These are stated so that no later step unfolds how the message is read.
  have hnode : (a.step (.election (.hear e now))).node = (a.node.hear e now).1 := by
    simp only [Agenda.step, Backlog.step]
  have hdue : (a.step (.election (.hear e now))).due = a.due ++ (a.node.hear e now).2 := by
    simp only [Agenda.step, Backlog.step]
  have hsyncs : (a.step (.election (.hear e now))).syncs = a.syncs := by
    simp only [Agenda.step]
  obtain ⟨hnoted, hsetup, hheld, hmaster⟩ := h.noted.hear e now
  constructor
  · rw [hnode, hsetup, h.setup]
  · rw [hnode]
    exact hnoted
  · rw [hnode, hheld, Pending, hdue, hsyncs]
    rcases hmaster with hmaster | ⟨c, hc, htells⟩
    · rw [hmaster]
      refine h.followed.imp_right (Or.imp_right ?_)
      rintro ⟨c, hc, htells⟩
      exact ⟨c, List.mem_append_left _ hc, htells⟩
    · exact Or.inr (Or.inr ⟨c, List.mem_append_right _ hc, htells⟩)

/-- A poll changes no mastership, so its announcement is all that it puts on the agenda. -/
theorem InLine.tick {n : Node} {a : Agenda} (h : a.InLine n) (now : Instant) (draw : Nat) :
    (a.step (.election (.tick now draw))).InLine n := by
  refine ⟨h.setup, h.noted.withCandidate _, ?_⟩
  have hmaster : (a.node.tick now draw).1.isMaster = a.node.isMaster :=
    a.node.candidate.isActive_poll now draw
  refine h.followed.imp (fun hfollowed => hfollowed.trans hmaster.symm) (Or.imp_right ?_)
  rintro ⟨c, hc, htells⟩
  exact ⟨c, List.mem_append_left _ hc, htells⟩

/-- A consequence that tells of mastership brings the handlers and jobs in line, however late it is
carried out. An announcement leaves them, and whatever is to bring them in line, as they are. -/
theorem InLine.carryOut {n : Node} {a : Agenda} (h : a.InLine n) (k : Nat) :
    (a.step (.election (.carryOut k))).InLine n := by
  -- What was due at that place may have been carried out before.
  cases hk : a.due[k]? with
  | none =>
    have hstays : a.step (.election (.carryOut k)) = a := by
      simp [Agenda.step, Backlog.step, hk]
    rw [hstays]
    exact h
  | some c =>
    have hnode : (a.step (.election (.carryOut k))).node = a.node.carryOut c := by
      simp [Agenda.step, Backlog.step, hk]
    have hdue : (a.step (.election (.carryOut k))).due = a.due.eraseIdx k := by
      simp [Agenda.step, Backlog.step, hk]
    cases c with
    | promoted =>
      have hwords : Node.SameMasters a.node
          (if a.node.isMaster then a.node.broadcast .iAmMaster else a.node) := by
        split
        · exact a.node.sameMasters_broadcast _
        · exact Node.SameMasters.refl _
      exact inLine_of_sync (hwords.setup.trans h.setup) (hwords.noted h.noted) hnode
    | demoted => exact inLine_of_sync h.setup h.noted hnode
    | broadcast x =>
      have hsame := a.node.sameMasters_broadcast x
      constructor
      · rw [hnode]
        exact hsame.setup.trans h.setup
      · rw [hnode]
        exact hsame.noted h.noted
      · rw [hnode, Pending, hdue]
        refine h.followed.imp (fun hfollowed => ?_) (Or.imp id (pending_eraseIdx hk))
        exact hsame.held.trans (hfollowed.trans hsame.isMaster.symm)

/-- A node becomes master or resigns, if it can, and does at once all else that belongs to it. -/
theorem InLine.atOnce {n : Node} {a a' : Agenda} (h : a.InLine n) (next : Option Candidate)
    (x : Announcement)
    (hnode : a'.node = (next.map fun c =>
      (Node.broadcast { a.node with candidate := c } x).syncMasters).getD a.node)
    (hdue : a'.due = a.due) (hsyncs : a'.syncs = a.syncs) : a'.InLine n := by
  cases next with
  | none => exact h.of_same (hnode ▸ Node.SameMasters.refl _) hdue hsyncs
  | some c =>
    have hsame := Node.sameMasters_broadcast { a.node with candidate := c } x
    exact inLine_of_sync (hsame.setup.trans h.setup) (hsame.noted (h.noted.withCandidate c)) hnode

/-- A node becomes master or resigns, if it can, and has to bring its handlers and jobs in line. -/
theorem InLine.change {n : Node} {a : Agenda} (h : a.InLine n) (next : Option Candidate)
    (x : Announcement) : (a.change next x).InLine n := by
  cases next with
  | none => exact h
  | some c => exact ⟨h.setup, h.noted.withCandidate c, Or.inr (Or.inl (Nat.succ_pos _))⟩

/-- Every move keeps the handlers and jobs of the master in line. -/
theorem InLine.step {n : Node} {a : Agenda} {m : Move} (h : a.InLine n)
    (hm : m.SparesMasters a.node) : (a.step m).InLine n := by
  cases m with
  | election m =>
    cases m with
    | hear e now => exact h.hear e now
    | tick now draw => exact h.tick now draw
    | carryOut k => exact h.carryOut k
    | startMaster now => exact h.atOnce (a.node.candidate.activate now) .iAmMaster rfl rfl rfl
    | stopMaster now => exact h.atOnce (a.node.candidate.deactivate now) .resyncMaster rfl rfl rfl
  | activate now => exact h.change _ _
  | deactivate now => exact h.change _ _
  -- If there is nothing left to bring in line, nothing happens.
  | sync =>
    unfold Agenda.step
    dsimp only
    split
    · exact h
    · exact inLine_of_sync h.setup h.noted rfl
  | start =>
    refine h.of_same ?_ rfl rfl
    unfold Agenda.step
    dsimp only
    cases hstart : a.node.start with
    | error f => exact Node.SameMasters.refl _
    | ok n' =>
      have hjobs : ∀ job ∈ a.node.setup.jobs, job.masterOnly = false := hm
      exact Node.sameMasters_start hjobs hstart
  | addRoute pattern handler reference masterOnly =>
    exact h.of_same (Node.sameMasters_addRoute hm handler reference) rfl rfl
  | removeRoute pattern masterOnly =>
    exact h.of_same (Node.sameMasters_removeRoute hm) rfl rfl
  | addJob job => exact h.of_same (Node.sameMasters_addJob hm) rfl rfl
  | removeJob k => exact h.of_same (Node.sameMasters_removeJob hm) rfl rfl

/-- What holds of a node at first holds of it wherever it comes to. -/
theorem InLine.reached {n : Node} {a : Agenda} (h : InLine n ⟨⟨n, []⟩, 0⟩)
    (hreached : Reached n a) : a.InLine n := by
  induction hreached with
  | refl => exact h
  | step _ hm ih => exact ih.step hm

/-- Messages and polls of the election, starts and resignations of the master come in any order, and
what follows from them is carried out later, in any order too, while the host adds and removes other
routes and jobs. At every moment the handlers and jobs of the master are in place, each of them once
and in their order, or none of them is, as the node has noted. Once nothing on the agenda is to
bring them in line any more, they are in place just if the node is master. -/
theorem masters_follow_mastership {b : Blueprint} {supply : Supply} {now : Instant} {n : Node}
    {a : Agenda} (hbuilt : b.build supply now = .ok n) (hreached : Reached n a) :
    let patterns := b.masterHandlers.map (·.pattern)
    let jobs := b.masterJobs.map fun job => { job with masterOnly := true }
    (a.node.roster.reserved patterns = (if a.node.mastersHeld then b.masterHandlers else []) ∧
      a.node.roster.timetable.masterJobs = if a.node.mastersHeld then jobs else []) ∧
    (¬ a.Pending →
      a.node.roster.reserved patterns = (if a.node.isMaster then b.masterHandlers else []) ∧
        a.node.roster.timetable.masterJobs = if a.node.isMaster then jobs else []) := by
  intro patterns jobs
  obtain ⟨hnoted, hheld, hmaster, hhandlers, hjobs⟩ := Blueprint.noted_of_build hbuilt
  have hstart : InLine n ⟨⟨n, []⟩, 0⟩ := ⟨rfl, hnoted, Or.inl (hheld.trans hmaster.symm)⟩
  have h := hstart.reached hreached
  have hnow := h.noted.handlers
  have hjobsNow := h.noted.jobs
  rw [Node.masterPatterns, h.setup, hhandlers] at hnow
  rw [h.setup, hjobs] at hjobsNow
  -- What is noted is how the node stands, as nothing is left that would bring it in line.
  refine ⟨⟨hnow, hjobsNow⟩, fun hclear => ?_⟩
  rw [← h.followed.resolve_right hclear]
  exact ⟨hnow, hjobsNow⟩

/-- A command with a handler and a job for its master. -/
def sampleBlueprint : Blueprint where
  name := "billing"
  service := some "a"
  link := some .bus
  masterHandlers := [⟨.of (some "jobs") none none,
    .host ⟨0, none, false, fun _ => false, fun _ _ => ⟨0, pure (.ok [])⟩⟩⟩]
  masterJobs := [{ name := "report", timer := .every 1000, body := .sweep }]

/-- It is made master and brings its handlers and jobs in line before it announces that it is. -/
theorem masters_in_place_before_announcement :
    ∃ n a, sampleBlueprint.build { scope := 0 } 0 = .ok n ∧ Reached n a ∧
      a.due = [.broadcast .iAmMaster] ∧ a.node.isMaster = true ∧
      a.node.roster.reserved (sampleBlueprint.masterHandlers.map (·.pattern)) =
        sampleBlueprint.masterHandlers ∧
      a.node.roster.timetable.masterJobs.map (·.name) = ["report"] := by
  obtain ⟨n, hbuilt⟩ : ∃ n, sampleBlueprint.build { scope := 0 } 0 = .ok n := by
    unfold Blueprint.build
    dsimp only
    rw [if_neg (by decide +kernel)]
    exact ⟨_, rfl⟩
  obtain ⟨-, -, hmaster, -, -⟩ := Blueprint.noted_of_build hbuilt
  obtain ⟨c, hactivate⟩ : ∃ c, n.candidate.activate 0 = some c := by
    unfold Candidate.activate
    rw [if_neg (by simpa [Node.isMaster, Candidate.isActive] using hmaster)]
    exact ⟨_, rfl⟩
  have hreached : Reached n (step (step ⟨⟨n, []⟩, 0⟩ (.activate 0)) .sync) :=
    Reached.step (Reached.step Reached.refl trivial) trivial
  simp only [step, change, hactivate] at hreached
  have hactive : Node.isMaster (Node.syncMasters { n with candidate := c }) = true := by
    rw [Node.isMaster, (Node.announces_syncMasters _).candidate]
    exact Candidate.isActive_of_activate hactivate
  obtain ⟨hhandlers, hjobs⟩ := (masters_follow_mastership hbuilt hreached).2
    (by simp [Pending, Candidate.tellsOfMastership])
  rw [hactive] at hhandlers hjobs
  refine ⟨n, _, hbuilt, hreached, rfl, hactive, hhandlers, ?_⟩
  rw [hjobs]
  rfl

end Agenda

end CommandMesh
