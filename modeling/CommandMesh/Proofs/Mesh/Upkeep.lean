import CommandMesh.Proofs.Mesh.Moves
import CommandMesh.Proofs.Node.Guard

/-!
# `CommandMesh.Proofs.Mesh.Upkeep`: what a mesh keeps in order on its nodes

A node is `Node.Orderly` if what is the master's is in place as it stands and its scheduler drives
exactly what it tracks. Tasks that are taken up and hosts that act keep every node of a mesh
orderly.

Most of what happens in a mesh takes a node along a `Node.Course`: messages are handled, elections
go on, callers are served. What is true along every course is therefore true from each moment of a
mesh to the next, and a relation between nodes needs to be shown only for courses (`Composes`). What
a host does with its node by itself, such as starting or stopping it or removing a job, is more than
a course and is treated apart, by the cases of `Node.Becomes`.

Nodes neither come nor go in a mesh, and each has its own place in the list; what becomes of them is
compared place by place (`Across`). Moves are supposed to be fair: no host changes a timetable
behind the back of the mesh, and only the mesh starts tasks that drive a schedule or wait for a run.

* `Mesh.across_move`: what holds of a node along any course holds of all nodes, unless a host acts.
* `Mesh.becomes_move`: all that may become of a node by one move.
* `Mesh.orderly_move`, `Mesh.setup_move`: nodes stay orderly, whatever happens, and keep their
  setups.
* `Mesh.guardsJobs_move`: whatever makes a node cease to be master, the node tracks no job that is
  restricted to the master any more.
* `Mesh.shouldDrive_of_removes`: so a schedule that is removed, or that is restricted to the master
  on a node that is master no more, is not driven by the clock.
-/

set_option autoImplicit false

namespace CommandMesh

namespace Node

variable {n m n' : Node} {a : Activity}

/-- Only as master does the node have jobs that are restricted to the master. -/
def GuardsJobs (n : Node) : Prop := n.isMaster = false → n.roster.timetable.masterJobs = []

/-- The node stays orderly, and if it guarded its jobs it still does. -/
structure Minds (n n' : Node) : Prop where
  orderly : n.Orderly → n'.Orderly
  jobs : n.Orderly → n.GuardsJobs → n'.GuardsJobs

/-- A node that does not change minds its order. -/
theorem Minds.refl (n : Node) : n.Minds n := ⟨id, fun _ => id⟩

/-- What minds the order of a node twice in turn minds it. -/
theorem Minds.trans (h : n.Minds m) (h' : m.Minds n') : n.Minds n' :=
  ⟨fun hn => h'.orderly (h.orderly hn), fun hn hjobs => h'.jobs (h.orderly hn) (h.jobs hn hjobs)⟩

/-- Along a course a node stays orderly, and it drops its jobs of the master as it ceases to be
master. -/
theorem Minds.of_course (h : n.Settled → n.Course n') : n.Minds n' where
  orderly hn := (Becomes.courses (a := .inspect) trivial (h hn.settled)).orderly hn
  jobs hn hjobs := by
    intro hafter
    rcases (h hn.settled).masters hn.inStep with ⟨hmaster, -, hsame⟩ | ⟨-, hmaster, -⟩ |
      ⟨-, -, -, hnone⟩
    · rw [hsame]
      exact hjobs (hmaster ▸ hafter)
    · rw [hafter] at hmaster
      cases hmaster
    · exact hnone

/-- A node that stays on its footing minds its order. -/
theorem Minds.of_footing (h : n'.footing = n.footing) : n.Minds n' :=
  .of_course fun _ => .of_footing h

/-- The node stays orderly, and its setup is the same. -/
def Abides (n n' : Node) : Prop := n.Orderly → n'.Orderly ∧ n'.setup = n.setup

/-- A node that abides twice in turn abides. -/
theorem Abides.trans (h : n.Abides m) (h' : m.Abides n') : n.Abides n' := fun hn =>
  ⟨(h' (h hn).1).1, (h' (h hn).1).2.trans (h hn).2⟩

/-- Along a course a node stays orderly and keeps its setup. -/
theorem Abides.of_course (h : n.Settled → n.Course n') : n.Abides n' := fun hn =>
  have hbecomes : n.Becomes .inspect n' := .courses trivial (h hn.settled)
  ⟨hbecomes.orderly hn, hbecomes.setup⟩

/-- Whatever makes a node cease to be master, it has no job of the master then. -/
theorem Becomes.guardsJobs (h : n.Becomes a n') (hn : n.Orderly) (hmaster : n.isMaster = true) :
    n'.GuardsJobs := by
  have hguarded : n.GuardsJobs := fun hnot => by simp [hmaster] at hnot
  cases h with
  | courses _ hcourse => exact (Minds.of_course fun _ => hcourse).jobs hn hguarded
  -- Neither a start nor what the host registers makes a node cease to be master.
  | starts _ hinstalls =>
    have hkept : n'.isMaster = n.isMaster := congrArg Candidate.isActive hinstalls.candidate
    exact fun hnot => by simp [hkept, hmaster] at hnot
  | stops _ hstops => exact fun _ => Timetable.masterJobs_eq_nil_iff.mpr (by simp [hstops.tracked])
  | runs | rests => exact hguarded
  | addsRoute | removesRoute | addsJob | removesJob =>
    exact fun hnot => absurd (show n.isMaster = false from hnot) (by simp [hmaster])

end Node

namespace Mesh

variable {m m' m'' : Mesh} {w : Work} {a : Move} {i n : Nat}

/-- All nodes are orderly. -/
def Orderly (m : Mesh) : Prop := ∀ n ∈ m.nodes, n.Orderly

/-- Every node minds its order. -/
def Minds (m m' : Mesh) : Prop :=
  ∀ (i : Nat) (n' : Node), m'.nodes[i]? = some n' → ∃ n : Node, m.nodes[i]? = some n ∧ n.Minds n'

/-- A relation between nodes that composes and holds between a node and whatever a task makes of
it. -/
structure Composes (R : Node → Node → Prop) : Prop where
  refl : ∀ n, R n n
  trans : ∀ {n m n' : Node}, R n m → R m n' → R n n'
  course : ∀ {n n' : Node}, (n.Settled → n.Course n') → R n n'

/-- Minding its order composes and holds along courses, so it can be carried through a mesh. -/
theorem composes_minds : Composes Node.Minds := ⟨.refl, .trans, .of_course⟩

/-- Abiding composes and holds along courses, so it can be carried through a mesh. -/
theorem composes_abides : Composes Node.Abides := ⟨fun _ hn => ⟨hn, rfl⟩, .trans, .of_course⟩

/-- Lists whose members are related twice in turn have related members. -/
theorem Composes.trans_forall₂ {R : Node → Node → Prop} (hR : Composes R) {ns ns' ns'' : List Node}
    (h : List.Forall₂ R ns ns') (h' : List.Forall₂ R ns' ns'') : List.Forall₂ R ns ns'' := by
  induction h generalizing ns'' with
  | nil => exact h'
  | cons hhead _ ih =>
    cases h' with
    | cons hhead' htail' => exact .cons (hR.trans hhead hhead') (ih htail')

/-- Every node is related to what becomes of it, and none comes or goes. -/
def Across (R : Node → Node → Prop) (m m' : Mesh) : Prop := List.Forall₂ R m.nodes m'.nodes

/-- Every node that is there afterwards was there before. -/
theorem Across.exists_before {R : Node → Node → Prop} (h : Across R m m') {n' : Node}
    (hn' : m'.nodes[i]? = some n') : ∃ n : Node, m.nodes[i]? = some n ∧ R n n' := by
  obtain ⟨hi', rfl⟩ := List.getElem?_eq_some_iff.mp hn'
  have hi : i < m.nodes.length := h.length_eq ▸ hi'
  exact ⟨m.nodes[i], List.getElem?_eq_getElem hi, h.get hi hi'⟩

/-- Every node that was there before is there afterwards. -/
theorem Across.exists_after {R : Node → Node → Prop} (h : Across R m m') {n : Node}
    (hn : m.nodes[i]? = some n) : ∃ n' : Node, m'.nodes[i]? = some n' ∧ R n n' := by
  obtain ⟨hi, rfl⟩ := List.getElem?_eq_some_iff.mp hn
  have hi' : i < m'.nodes.length := h.length_eq ▸ hi
  exact ⟨m'.nodes[i], List.getElem?_eq_getElem hi', h.get hi hi'⟩

section Composes

variable {R : Node → Node → Prop}

/-- A node that stays on its footing is related to what becomes of it. -/
theorem Composes.of_footing (hR : Composes R) {n n' : Node} (h : n'.footing = n.footing) : R n n' :=
  hR.course fun _ => .of_footing h

/-- A mesh whose nodes are the same is related to what it was, node by node. -/
theorem Composes.of_nodes (hR : Composes R) (h : m'.nodes = m.nodes) : Across R m m' := by
  rw [Across, h]
  exact List.forall₂_same.mpr fun n _ => hR.refl n

/-- What happens to a mesh in two steps relates its nodes, if each of the steps does. -/
theorem Composes.trans_across (hR : Composes R) (h : Across R m m') (h' : Across R m' m'') :
    Across R m m'' :=
  hR.trans_forall₂ h h'

/-- A change of one node relates all nodes to what they become, if it relates that node to what it
becomes. -/
theorem across_updateNode (hR : Composes R) {f : Node → Node} (hf : ∀ n : Node, R n (f n))
    (m : Mesh) (i : Nat) : Across R m (m.updateNode i f) := by
  show List.Forall₂ R m.nodes (m.nodes.modify i f)
  generalize m.nodes = ns
  induction ns generalizing i with
  | nil =>
    rw [List.modify_nil]
    exact .nil
  | cons n ns ih =>
    cases i with
    | zero => exact .cons (hf n) (List.forall₂_same.mpr fun n _ => hR.refl n)
    | succ i => exact .cons (hR.refl n) (ih i)

/-- A change of one timetable that leaves its registrations relates all nodes to what they become.
-/
theorem across_updateTimetable (hR : Composes R) {f : Timetable → Timetable}
    (hf : ∀ t, (f t).registrations = t.registrations) (m : Mesh) (i : Nat) :
    Across R m (m.updateTimetable i f) :=
  across_updateNode hR (fun n => hR.of_footing (by simp only [Node.footing, hf])) m i

/-- One thing that a task does relates all nodes to what they become. -/
theorem Errand.across (hR : Composes R) (h : Errand w m m') : Across R m m' := by
  cases h with
  | start | forget | choose | bus => exact hR.of_nodes rfl
  | node i f _ hcourse => exact across_updateNode hR (fun n => hR.course (hcourse n)) m i
  | schedule i n f _ hkept =>
    exact across_updateTimetable hR (fun t => Timetable.registrations_update hkept t n) m i
  | meter i k f => exact across_updateTimetable (f := (·.setMeter k f)) hR (fun _ => rfl) m i

/-- All that a task does relates all nodes to what they become. -/
theorem Errands.across (hR : Composes R) (h : Errands w m m') : Across R m m' := by
  -- By induction on the single things that the task does, the last one split off.
  induction h with
  | refl => exact hR.of_nodes rfl
  | tail _ hlast ih => exact hR.trans_across ih (hlast.across hR)

/-- Sorting out what is queued, driven and sent relates all nodes to what they become. -/
theorem across_settle (hR : Composes R) (m : Mesh) : Across R m m.settle := by
  rw [Across, nodes_settle]
  exact List.forall₂_map_right_iff.mpr (List.forall₂_same.mpr fun n _ => hR.of_footing rfl)

/-- Noting what a task has come to leaves the nodes alone. -/
theorem nodes_note (m : Mesh) (t : Task) (p : Progress) : (m.note t p).nodes = m.nodes := by
  cases p <;> rfl

/-- Discarding a task that was halted relates all nodes to what they become. -/
theorem across_discard (hR : Composes R) (m : Mesh) (t : Task) : Across R m (m.discard t) := by
  unfold discard
  dsimp only
  split
  · exact hR.of_nodes rfl
  · next i n body _ =>
    -- A body that is dropped ends its run, which no registration depends on.
    have hdropped : Across R m (m.updateTimetable i (·.update n Schedule.drop)) :=
      across_updateTimetable hR (fun t =>
        Timetable.registrations_update (f := Schedule.drop) (fun _ => ⟨rfl, rfl⟩) t n) m i
    exact hR.trans_across hdropped (hR.of_nodes rfl)

/-- What holds along a course holds of every node when a task is taken up. -/
theorem across_takeUp (hR : Composes R) (m : Mesh) (number : Nat) :
    Across R m (m.takeUp number) := by
  have herased : Across R m { m with queue := m.queue.erase number } := hR.of_nodes rfl
  rcases m.takeUp_cases number with htaken | ⟨t, htaken | ⟨m', p, herrands, htaken⟩⟩
  all_goals rw [htaken]
  · exact herased
  · exact hR.trans_across herased
      (hR.trans_across (across_discard hR _ t) (across_settle hR _))
  · have hnoted : Across R m' (m'.note t p) := hR.of_nodes (nodes_note m' t p)
    exact hR.trans_across herased (hR.trans_across (herrands.across hR)
      (hR.trans_across hnoted (across_settle hR _)))

/-- What holds along a course holds of every node, unless its host acts. -/
theorem across_move (hR : Composes R) (m : Mesh) (ha : ∀ i b, a ≠ .act i b) :
    Across R m (m.move a) := by
  cases a with
  | act i b => exact absurd rfl (ha i b)
  | takeUp number =>
    simp only [move]
    split
    · exact across_takeUp hR m number
    · exact hR.of_nodes rfl
  | wait t =>
    simp only [move]
    split <;> exact hR.of_nodes rfl
  | launch | drop | cancel | choose | rewire | forget => exact hR.of_nodes rfl

end Composes

/-- Every node minds its order, unless its host acts. -/
theorem minds_move (m : Mesh) (ha : ∀ i b, a ≠ .act i b) : Minds m (m.move a) :=
  fun _ _ hn' => (across_move composes_minds m ha).exists_before hn'

/-- When a host acts, its node has done what it was told, and the outboxes of all nodes are emptied.
-/
theorem nodes_act (m : Mesh) (i j : Nat) (b : Activity) : (m.move (.act i b)).nodes[j]? =
    m.nodes[j]?.map fun n => { if i = j then (n.perform b).1 else n with outbox := [] } := by
  rw [move_act, nodes_settle, flush, List.getElem?_map, updateNode, List.getElem?_modify,
    Option.map_eq_map, Option.map_map]
  rfl

/-- A node for whose host a mesh does something becomes something by it, and all others mind their
order. -/
theorem becomes_move (hm : m.Orderly) (hfair : a.IsFair) {n' : Node}
    (hn' : (m.move a).nodes[i]? = some n') : ∃ n : Node, m.nodes[i]? = some n ∧ n.Orderly ∧
      (n.Minds n' ∨ ∃ b m', n.Becomes b m' ∧ m'.Minds n') := by
  by_cases hact : ∃ j b, a = .act j b
  · -- Of all moves only what a host does may be more than a course of the node.
    obtain ⟨j, b, rfl⟩ := hact
    rw [nodes_act] at hn'
    obtain ⟨n, hn, rfl⟩ := Option.map_eq_some_iff.mp hn'
    have hbefore := hm n (List.mem_of_getElem? hn)
    refine ⟨n, hn, hbefore, ?_⟩
    split
    · have hkeeps : b.KeepsRegistrations := by
        cases b <;> trivial
      exact .inr ⟨b, _, Node.becomes_perform hbefore hkeeps, .of_footing rfl⟩
    · exact .inl (.of_footing rfl)
  · push Not at hact
    obtain ⟨n, hn, hminds⟩ := m.minds_move hact i n' hn'
    exact ⟨n, hn, hm n (List.mem_of_getElem? hn), .inl hminds⟩

/-- All nodes stay orderly and keep their setups, whatever happens. -/
theorem abides_move (m : Mesh) (hfair : a.IsFair) : Across Node.Abides m (m.move a) := by
  by_cases hact : ∃ i b, a = .act i b
  · obtain ⟨i, b, rfl⟩ := hact
    have hkeeps : b.KeepsRegistrations := by
      cases b <;> trivial
    have hperformed (n : Node) : n.Abides (n.perform b).1 := fun hn =>
      have hbecomes := Node.becomes_perform hn hkeeps
      ⟨hbecomes.orderly hn, hbecomes.setup⟩
    rw [move_act]
    exact composes_abides.trans_across (across_updateNode composes_abides hperformed m i)
      (across_settle composes_abides _)
  · push Not at hact
    exact across_move composes_abides m hact

/-- Nodes stay orderly, whatever happens. -/
theorem orderly_move (hm : m.Orderly) (hfair : a.IsFair) : (m.move a).Orderly := by
  intro n' hn'
  obtain ⟨i, hi⟩ := List.mem_iff_getElem?.mp hn'
  obtain ⟨n, hn, habides⟩ := (m.abides_move hfair).exists_before hi
  exact (habides (hm n (List.mem_of_getElem? hn))).1

/-- A node is still there after whatever a task does, with the same setup. -/
theorem Errands.setup (h : Errands w m m') (hm : m.Orderly) {n : Node}
    (hn : m.nodes[i]? = some n) : ∃ n' : Node, m'.nodes[i]? = some n' ∧ n'.setup = n.setup := by
  obtain ⟨n', hn', habides⟩ := (h.across composes_abides).exists_after hn
  exact ⟨n', hn', (habides (hm n (List.mem_of_getElem? hn))).2⟩

/-- A node is still there, whatever happens, with the same setup. -/
theorem setup_move (hm : m.Orderly) (hfair : a.IsFair) {n : Node} (hn : m.nodes[i]? = some n) :
    ∃ n' : Node, (m.move a).nodes[i]? = some n' ∧ n'.setup = n.setup := by
  obtain ⟨n', hn', habides⟩ := (m.abides_move hfair).exists_after hn
  exact ⟨n', hn', (habides (hm n (List.mem_of_getElem? hn))).2⟩

/-- Nodes stay orderly throughout moves in turn. -/
theorem orderly_moves (hm : m.Orderly) {ms : List Move} (hms : ∀ a ∈ ms, a.IsFair) :
    (m.moves ms).Orderly := by
  induction ms generalizing m with
  | nil => exact hm
  | cons a ms ih =>
    rw [List.forall_mem_cons] at hms
    exact ih (orderly_move hm hms.1) hms.2

/-- Whatever makes a node cease to be master, it has no job of the master then. -/
theorem guardsJobs_move (hm : m.Orderly) (hfair : a.IsFair) {n n' : Node}
    (hn : m.nodes[i]? = some n) (hmaster : n.isMaster = true)
    (hn' : (m.move a).nodes[i]? = some n') : n'.GuardsJobs := by
  obtain ⟨n₀, hn₀, horderly, hminds | ⟨b, m', hbecomes, hminds⟩⟩ := becomes_move hm hfair hn'
  all_goals obtain rfl := Option.some.inj (hn₀.symm.trans hn)
  · exact hminds.jobs horderly fun hnot => absurd hnot (by simp [hmaster])
  · exact hminds.jobs (hbecomes.orderly horderly) (hbecomes.guardsJobs horderly hmaster)

/-! ### Schedules that are removed -/

/-- The host removes the schedule and is told that it was there, or the node is master no more and
the schedule is restricted to the master. -/
inductive Move.Removes (x : Nat × Nat) (m : Mesh) : Move → Prop where
  | byHost {n : Node} : m.nodes[x.1]? = some n → (n.roster.removeJob x.2).isSome = true →
      Removes x m (.act x.1 (.removeJob x.2))
  | byDemotion {a : Move} {n n' : Node} : m.nodes[x.1]? = some n → n.isMaster = true →
      (m.move a).nodes[x.1]? = some n' → n'.isMaster = false →
      n'.roster.timetable.isMasterOnly x.2 = true → Removes x m a

/-- A schedule that its node does not track is not driven by the clock. -/
theorem shouldDrive_of_not_mem_tracked {n : Node} (hn : m.nodes[i]? = some n)
    (hinStep : n.roster.timetable.InStep) {k : Nat} (hk : k ∉ n.roster.timetable.tracked) :
    m.shouldDrive i k = false := by
  have hunregistered : k ∉ n.roster.timetable.registered := by
    rw [hinStep.registered]
    split
    · exact List.not_mem_nil
    · exact hk
  simp [shouldDrive, hn, hunregistered]

/-- A schedule that is removed is not driven by the clock any more. -/
theorem shouldDrive_of_removes {x : Nat × Nat} (hm : m.Orderly) (hfair : a.IsFair)
    (h : a.Removes x m) : (m.move a).shouldDrive x.1 x.2 = false := by
  have hafter := orderly_move hm hfair
  cases h with
  -- The host removes it from what is tracked.
  | @byHost n hn hremoved =>
    have hnode := m.nodes_act x.1 x.1 (.removeJob x.2)
    rw [hn, Option.map_some, if_pos rfl] at hnode
    have hinStep := (hm n (List.mem_of_getElem? hn)).inStep
    refine shouldDrive_of_not_mem_tracked hnode (hafter _ (List.mem_of_getElem? hnode)).inStep ?_
    show x.2 ∉ ((n.roster.removeJob x.2).getD n.roster).timetable.tracked
    rw [Roster.timetable_removeJob hinStep.sound, Timetable.tracked_drop]
    exact hinStep.sound.once.not_mem_erase
  -- It is one of the jobs of the master, of which the node tracks none any more.
  | @byDemotion _ n n' hn hmaster hn' hdemoted hrestricted =>
    have hinStep := (hafter n' (List.mem_of_getElem? hn')).inStep
    refine shouldDrive_of_not_mem_tracked hn' hinStep fun htracked => ?_
    have hnone := guardsJobs_move hm hfair hn hmaster hn' hdemoted
    rw [Timetable.masterJobs_eq_nil_iff] at hnone
    simpa [hrestricted] using hnone x.2 htracked

end Mesh

end CommandMesh
