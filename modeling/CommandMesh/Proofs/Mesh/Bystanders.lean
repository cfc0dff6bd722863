import CommandMesh.Proofs.Mesh.Strides

/-!
# `CommandMesh.Proofs.Mesh.Bystanders`: tasks that nobody else has to do with

A task that drives no schedule and that is the body of no run is its host's alone: it stays as it is
until it is taken up or its host drops it. Nobody comes to wait for it as a body, since whoever
waits for a run has begun the run, with a new task (`begins_run`).

The tasks that this is meant for are the calls of a host: a call is a task that makes an attempt,
waits for its response, pauses and tries again. To follow it through a run of the mesh one has to
know that no other move touches it, and what a move does that takes it up. Each lemma here has a
task of a given number in mind and goes through all moves once, so that whoever follows such a task
never has to look at the moves again.

Of the moves only fairness is assumed, and only where it matters: a host that started a task which
waits for somebody else's run could have that task dropped along with it. Time, results and tokens
are followed as well. A task that is queued holds time up; a task that waits lets it pass up to
the end of its wait; it has no result before it ends; and a token that was cancelled stays so.

* `unawaited_move`: nobody comes to wait for the task.
* `mem_move`: the task stays, and is queued when its wait is over.
* `Gone.move`: once it has ended there is no task of its number any more.
* `now_move_of_queued`, `now_move_le`: how far time may pass meanwhile.
* `result?_move`: until it is taken up it has no result.
* `isCancelled_move`: a token that is cancelled remains so.
* `takeUp_of_done`, `takeUp_of_waits`: what becomes of it when it is taken up.
-/

set_option autoImplicit false

namespace CommandMesh

/-- If work has to wait for a run, it waited for that run before, or the body of the run is a new
task. -/
def Progress.Begins (next : Nat) (r : Option (Nat × Nat × Nat)) : Progress → Prop
  | .done _ => True
  | .waits w _ => ∀ run, w.runs? = some run → r = some run ∨ next ≤ run.2.2

/-- A task whose result is wanted still is when it is queued. -/
@[simp] theorem Task.kept_roused {p : Task → Bool} {halts : Bool} {t : Task} :
    (t.roused p halts).kept = t.kept := by
  unfold roused
  split <;> rfl

namespace Mesh

variable {m m' : Mesh} {w : Work} {t : Task} {k i n : Nat}

/-! ### Runs begin with new tasks -/

/-- A run that begins has a new task for its body. -/
theorem le_of_beginRun {task : Nat} (h : m.beginRun i n = (m', .ok (some task))) :
    m.next ≤ task := by
  -- Only a call that begins a run gives the number of a body.
  unfold beginRun at h
  dsimp only at h
  split at h
  · simp at h
  · split at h
    · simp at h
    · simp at h
    · obtain ⟨-, hnumber⟩ := Prod.mk.inj h
      obtain rfl := Option.some.inj (Except.ok.inj hnumber)
      rw [Mesh.spawn, fst_onNode]
      exact Nat.le_refl _

section Begins

variable {r : Option (Nat × Nat × Nat)}

/-- To wait for the next tick waits for no run. -/
theorem begins_awaitTick (k : Nat) (m : Mesh) (i n : Nat) (next : Option (Span × Instant)) :
    (m.awaitTick i n next).2.Begins k r := by
  unfold awaitTick
  split
  · trivial
  · intro run hrun
    cases hrun

/-- A schedule that is run because its time has come is waited for under a new task, if at all. -/
theorem begins_driveOnce (m : Mesh) (i n : Nat) (next : Option (Span × Instant)) :
    (m.driveOnce i n next).2.Begins m.next r := by
  unfold driveOnce
  split
  · exact begins_awaitTick m.next _ i n next
  · split
    · trivial
    · exact begins_awaitTick m.next _ i n next
    · next m' task hbegun =>
      intro run hrun
      rw [← Option.some.inj hrun]
      exact .inr (le_of_beginRun hbegun)

/-- The first run of a schedule that is driven has a new task for its body. -/
theorem begins_runFirst (m : Mesh) (i n : Nat) : (m.runFirst i n).2.Begins m.next r := by
  unfold runFirst
  split
  · exact begins_driveOnce m i n none
  · split
    · trivial
    · exact begins_driveOnce m i n _

/-- Whoever begins to drive a schedule waits for a new run or for time. -/
theorem begins_runDrive (m : Mesh) (i n : Nat) : (m.runDrive i n).2.Begins m.next r := by
  unfold runDrive
  split
  · trivial
  · dsimp only
    split
    · exact begins_runFirst m i n
    · intro run hrun
      cases hrun

/-- Whoever waits for a run goes on to wait for it, or for a new one. -/
theorem begins_runDriveRun (m : Mesh) (i n task : Nat) (next : Option (Span × Instant)) :
    (m.runDriveRun i n task next).2.Begins m.next (some (i, n, task)) := by
  unfold runDriveRun
  split
  · exact fun run hrun => .inl hrun
  · next m' hended =>
    -- To count the end of the run starts no task, so what begins then has the next number still.
    have hnext : m'.next = m.next := by
      rcases m.endRun?_eq i n task with hnone | ⟨e, hsome⟩
      · rw [hended] at hnone
        cases hnone
      · rw [Option.some.inj (hended.symm.trans hsome)]
        rfl
    rw [← hnext]
    split
    · split
      · exact begins_driveOnce m' i n _
      · exact begins_awaitTick _ m' i n _
    · exact begins_awaitTick _ m' i n none

/-- Whoever runs a schedule once waits for a run with a new task. -/
theorem begins_runExecute (m : Mesh) (i n : Nat) : (m.runExecute i n).2.Begins m.next r := by
  unfold runExecute
  split
  · trivial
  · trivial
  · next m' task hbegun =>
    intro run hrun
    rw [← Option.some.inj hrun]
    exact .inr (le_of_beginRun hbegun)

/-- Whoever waits for a run goes on to wait for the same one. -/
theorem begins_runExecuted (m : Mesh) (i n task : Nat) :
    (m.runExecuted i n task).2.Begins m.next (some (i, n, task)) := by
  unfold runExecuted
  split
  · trivial
  · exact fun run hrun => .inl hrun

/-- Whatever waits for a run has waited for it before or has begun it with a new task. -/
theorem begins_run (m : Mesh) (w : Work) : (m.run w).2.Begins m.next w.runs? := by
  -- Work that is about no schedule waits for no run, now and later.
  have hother (hsubject : w.subject? = none) : (m.run w).2.Begins m.next w.runs? := by
    have hgoes := m.goesOn_run w
    rw [hsubject] at hgoes
    cases hrun : (m.run w).2 with
    | done r => trivial
    | waits w' wait =>
      rw [hrun] at hgoes
      intro run hruns
      have hnone := (subject_of_runs hruns).symm.trans hgoes.1
      cases hnone
  cases w with
  | drive i n => exact begins_runDrive m i n
  | driveFirst i n => exact begins_runFirst m i n
  | driveTick i n period point => exact begins_driveOnce m i n _
  | driveRun i n task next => exact begins_runDriveRun m i n task next
  | execute i n => exact begins_runExecute m i n
  | executed i n task => exact begins_runExecuted m i n task
  | listen | pump | accept | handle | handled | conclude | body | bodyDone | call | callWaits
  | callAgain => exact hother rfl

end Begins

/-! ### Tasks that are no bodies -/

/-- Nobody waits for the task of that number as the body of a run. -/
def Unawaited (k : Nat) (m : Mesh) : Prop :=
  ∀ t ∈ m.tasks, ∀ run, t.work.runs? = some run → run.2.2 ≠ k

/-- To queue tasks lets nobody wait for a task that was not waited for. -/
theorem Unawaited.rouse (h : Unawaited k m) (p : Task → Bool) (halts : Bool) :
    Unawaited k (m.rouse p halts) := by
  intro t' ht' run hrun
  obtain ⟨t, ht, rfl⟩ := List.mem_map.mp ht'
  rw [show (if p t then { t with wait := none, halted := t.halted || halts } else t).work = t.work
    from Task.work_roused] at hrun
  exact h t ht run hrun

/-- To bring a mesh in line lets nobody wait for a task that was not waited for. -/
theorem Unawaited.settle (h : Unawaited k m) : Unawaited k m.settle := by
  intro t' ht' run hrun
  rcases mem_tasks_settle ht' with ⟨t, ht, rfl⟩ | ⟨number, w, -, hw, rfl⟩
  · rw [Task.work_roused, Task.work_roused] at hrun
    exact h t ht run hrun
  · -- Tasks that are started to bring a mesh in line wait for no run yet.
    rw [Task.work_roused] at hrun
    rcases hw with ⟨i, rfl⟩ | ⟨x, -, rfl⟩ <;> cases hrun

/-- To discard a task lets nobody wait for one that was not waited for. -/
theorem Unawaited.discard (h : Unawaited k m) (t : Task) : Unawaited k (m.discard t) := by
  intro u hu run hrun
  rw [tasks_discard] at hu
  obtain ⟨v, hv, rfl⟩ := List.mem_map.mp hu
  rw [Task.work_roused] at hrun
  exact h v (List.mem_of_mem_filter hv) run hrun

/-- A task that goes on comes to wait for another only if its work says so. -/
theorem Unawaited.note (h : Unawaited k m) {t : Task} {p : Progress}
    (hp : ∀ w wait, p = .waits w wait → ∀ run, w.runs? = some run → run.2.2 ≠ k) :
    Unawaited k (m.note t p) := by
  intro u hu run hrun
  cases p with
  | done r => exact h u (List.mem_of_mem_filter hu) run hrun
  | waits w wait =>
    obtain ⟨v, hv, rfl⟩ := List.mem_map.mp hu
    split at hrun
    · exact hp w wait rfl run hrun
    · exact h v hv run hrun

/-- Errands let nobody wait for a task that was not waited for. -/
theorem Unawaited.errands (h : Unawaited k m) (he : Errands w m m') : Unawaited k m' := by
  refine he.keeps (P := Unawaited k) h (fun w' kept _ hruns h => ?_) fun hboard h => ?_
  · intro t ht run hrun
    rcases List.mem_append.mp ht with ht | ht
    · exact h t ht run hrun
    · rw [List.mem_singleton.mp ht, hruns] at hrun
      cases hrun
  · intro t ht
    exact h t (hboard.tasks ▸ ht)

/-- To take a task up lets nobody wait for one that was started before and not waited for. -/
theorem Unawaited.takeUp (h : Unawaited k m) (hk : k < m.next) (number : Nat) :
    Unawaited k (m.takeUp number) := by
  unfold Mesh.takeUp
  dsimp only
  split
  · exact h
  · next t ht =>
    have hmem := (task?_eq_some ht).1
    have herased : Unawaited k { m with queue := m.queue.erase number } := h
    split
    · exact (herased.discard t).settle
    · have hran := herased.errands (errands_run _ t.work)
      have hbegins := begins_run { m with queue := m.queue.erase number } t.work
      refine (hran.note fun w wait hwaits run hrun => ?_).settle
      rw [hwaits] at hbegins
      rcases hbegins run hrun with hbefore | hnew
      · exact h t hmem run hbefore
      · exact fun heq => Nat.not_lt_of_le hnew (heq ▸ hk)

/-- Nobody comes to wait for a task that was started before. -/
theorem unawaited_move (h : Unawaited k m) (hk : k < m.next) {a : Move} (hfair : a.IsFair) :
    Unawaited k (m.move a) := by
  -- What a host starts waits for no run, since its moves are fair; what the mesh starts is new.
  cases a with
  | takeUp number =>
    simp only [move]
    split
    · exact h.takeUp hk number
    · exact h
  | wait t =>
    simp only [move]
    split
    · exact Unawaited.rouse (m := { m with now := max m.now t }) h _ false
    · exact h
  | act i a =>
    rw [move_act]
    exact Unawaited.settle (m := m.updateNode i fun n => (n.perform a).1) h
  | launch w kept =>
    intro t ht run hrun
    rcases List.mem_append.mp ht with ht | ht
    · exact h t ht run hrun
    · rw [List.mem_singleton.mp ht, hfair.2] at hrun
      cases hrun
  | drop task => exact h.rouse _ true
  | cancel token =>
    exact Unawaited.rouse (m := { m with cancelled := token :: m.cancelled }) h _ false
  | choose | rewire | forget => exact h

/-! ### The task stays -/

/-- A task stays when tasks are woken, and is queued if its wait is over. -/
theorem mem_wake (ht : t ∈ m.tasks) : t.roused m.wake.isDue false ∈ m.wake.tasks := by
  have hdue : m.wake.isDue = m.isDue := by
    funext t
    exact congrArg t.wait.any (funext fun w => isOver_rouse m _ false w)
  rw [tasks_wake, hdue]
  exact List.mem_map_of_mem ht

/-- A task that drives nothing stays when a mesh is brought in line, and is queued if its wait is
over. -/
theorem mem_settle (ht : t ∈ m.tasks) (hdrives : t.work.drives? = none) :
    t.roused m.settle.isDue false ∈ m.settle.tasks := by
  have hfresh : t.roused m.isStale true = t := by
    have hstale : m.isStale t = false := by
      unfold isStale
      rw [hdrives]
      rfl
    rw [Task.roused, hstale]
    rfl
  rw [tasks_settle]
  refine List.mem_map_of_mem (List.mem_append_left _ ?_)
  exact List.mem_map.mpr ⟨t, ht, hfresh⟩

/-- A task stays when it is noted what has become of another. -/
theorem mem_note {u : Task} (ht : t ∈ m.tasks) (hother : t.number ≠ u.number) (p : Progress) :
    t ∈ (m.note u p).tasks := by
  cases p with
  | done r => exact List.mem_filter.mpr ⟨ht, by simpa using hother⟩
  | waits w wait => exact List.mem_map.mpr ⟨t, ht, if_neg hother⟩

/-- A task stays when another is discarded, unless it is the body that goes with it. -/
theorem mem_discard {u : Task} (ht : t ∈ m.tasks) (hother : t.number ≠ u.number)
    (hbody : ∀ run, u.work.runs? = some run → run.2.2 ≠ t.number) :
    t ∈ (m.discard u).tasks := by
  rw [tasks_discard]
  refine List.mem_map.mpr ⟨t, List.mem_filter.mpr ⟨ht, by simpa using hother⟩, ?_⟩
  have hspared : (u.work.runs?.any fun run => t.number == run.2.2) = false := by
    rw [Option.any_eq_false]
    intro run hrun
    simpa using (hbody run hrun).symm
  rw [Task.roused, hspared]
  rfl

/-- Another task is taken up. -/
theorem mem_takeUp (hun : Unawaited t.number m) (ht : t ∈ m.tasks) (hdrives : t.work.drives? = none)
    {number : Nat} (hother : t.number ≠ number) :
    t.roused (m.takeUp number).isDue false ∈ (m.takeUp number).tasks ∨
      m.takeUp number = { m with queue := m.queue.erase number } := by
  unfold takeUp
  dsimp only
  split
  · exact .inr rfl
  · next u hu =>
    obtain ⟨hmem, rfl⟩ := task?_eq_some hu
    left
    split
    · exact mem_settle (mem_discard ht hother (hun u hmem)) hdrives
    · have hran := (errands_run { m with queue := m.queue.erase u.number } u.work).mem_tasks ht
      exact mem_settle (mem_note hran hother _) hdrives

/-- A task that is its host's alone stays unless it is taken up or dropped. It is queued if its wait
is over then, and otherwise neither the time nor the tokens have changed. -/
theorem mem_move (hun : Unawaited t.number m) (ht : t ∈ m.tasks) (hdrives : t.work.drives? = none)
    {a : Move} (htaken : a ≠ .takeUp t.number) (hdropped : a ≠ .drop t.number) :
    t.roused (m.move a).isDue false ∈ (m.move a).tasks ∨
      t ∈ (m.move a).tasks ∧ (m.move a).now = m.now ∧ (m.move a).cancelled = m.cancelled := by
  -- After most moves the mesh is brought in line or tasks are woken, and the task is queued if its
  -- wait is over; after the others nothing of this changes.
  cases a with
  | takeUp number =>
    simp only [move]
    split
    · rcases mem_takeUp hun ht hdrives fun heq => htaken (heq ▸ rfl) with hmem | herased
      · exact .inl hmem
      · rw [herased]
        exact .inr ⟨ht, rfl, rfl⟩
    · exact .inr ⟨ht, rfl, rfl⟩
  | wait u =>
    simp only [move]
    split
    · exact .inl (mem_wake (m := { m with now := max m.now u }) ht)
    · exact .inr ⟨ht, rfl, rfl⟩
  | act i a =>
    rw [move_act]
    exact .inl (mem_settle (m := m.updateNode i fun n => (n.perform a).1) ht hdrives)
  | launch w kept => exact .inr ⟨List.mem_append_left _ ht, rfl, rfl⟩
  | drop number =>
    have hspared : (t.number == number) = false := by
      simpa using fun heq : t.number = number => hdropped (heq ▸ rfl)
    refine .inr ⟨List.mem_map.mpr ⟨t, ht, ?_⟩, rfl, rfl⟩
    rw [if_neg (by simp [hspared])]
  | cancel token => exact .inl (mem_wake (m := { m with cancelled := token :: m.cancelled }) ht)
  | choose | rewire | forget => exact .inr ⟨ht, rfl, rfl⟩

/-! ### The task has ended -/

/-- There is no task of that number any more. -/
structure Gone (k : Nat) (m : Mesh) : Prop where
  past : k < m.next
  nobody : ∀ t ∈ m.tasks, t.number ≠ k

/-- A task is gone still if all tasks come from those that were there or are new. -/
theorem Gone.of_mem (h : Gone k m) (hnext : m.next ≤ m'.next)
    (hmem : ∀ t' ∈ m'.tasks, (∃ t ∈ m.tasks, t'.number = t.number) ∨ m.next ≤ t'.number) :
    Gone k m' where
  past := Nat.lt_of_lt_of_le h.past hnext
  nobody := by
    intro t' ht' heq
    -- Its number was given before, so no new task has it.
    rcases hmem t' ht' with ⟨t, ht, hnumber⟩ | hnew
    · exact h.nobody t ht (hnumber ▸ heq)
    · exact Nat.not_lt_of_le hnew (heq ▸ h.past)

/-- To start a task brings none back. -/
theorem Gone.spawn (h : Gone k m) (w : Work) (kept : Bool) : Gone k (m.spawn w kept).1 := by
  refine h.of_mem (Nat.le_succ _) fun t ht => ?_
  rcases List.mem_append.mp ht with ht | ht
  · exact .inl ⟨t, ht, rfl⟩
  · rw [List.mem_singleton.mp ht]
    exact .inr (Nat.le_refl _)

/-- Errands bring no task back. -/
theorem Gone.errands (h : Gone k m) (he : Errands w m m') : Gone k m' := by
  refine he.keeps (P := Gone k) h (fun w' kept _ _ h => h.spawn w' kept) fun hboard h => ?_
  exact h.of_mem (Nat.le_of_eq hboard.next.symm) fun t ht => .inl ⟨t, hboard.tasks ▸ ht, rfl⟩

/-- To queue tasks brings none back. -/
theorem Gone.rouse (h : Gone k m) (p : Task → Bool) (halts : Bool) : Gone k (m.rouse p halts) := by
  refine h.of_mem (Nat.le_refl _) fun t ht => ?_
  obtain ⟨u, hu, rfl⟩ := List.mem_map.mp ht
  exact .inl ⟨u, hu, Task.number_roused⟩

/-- To bring a mesh in line brings no task back. -/
theorem Gone.settle (h : Gone k m) : Gone k m.settle := by
  refine h.of_mem m.next_settle fun t ht => ?_
  rcases mem_tasks_settle ht with ⟨u, hu, rfl⟩ | ⟨number, w, hnumber, -, rfl⟩
  · exact .inl ⟨u, hu, by simp⟩
  · exact .inr (by simpa [starting] using hnumber)

/-- To note what has become of a task brings none back. -/
theorem Gone.note (h : Gone k m) (t : Task) (p : Progress) : Gone k (m.note t p) := by
  cases p with
  | done r =>
    exact h.of_mem (Nat.le_refl _) fun u hu => .inl ⟨u, List.mem_of_mem_filter hu, rfl⟩
  | waits w wait =>
    refine h.of_mem (Nat.le_refl _) fun u' hu' => ?_
    obtain ⟨u, hu, rfl⟩ := List.mem_map.mp hu'
    refine .inl ⟨u, hu, ?_⟩
    split <;> rfl

/-- To discard a task brings none back. -/
theorem Gone.discard (h : Gone k m) (t : Task) : Gone k (m.discard t) := by
  refine h.of_mem (Nat.le_of_eq (m.next_discard t).symm) fun u hu => ?_
  rw [tasks_discard] at hu
  obtain ⟨v, hv, rfl⟩ := List.mem_map.mp hu
  exact .inl ⟨v, List.mem_of_mem_filter hv, Task.number_roused⟩

/-- Once a task has ended, there is none of its number any more. -/
theorem Gone.move (h : Gone k m) (a : Move) : Gone k (m.move a) := by
  cases a with
  | takeUp number =>
    simp only [Mesh.move]
    split
    · have herased : Gone k { m with queue := m.queue.erase number } := ⟨h.past, h.nobody⟩
      rcases m.takeUp_cases number with htaken | ⟨t, htaken | ⟨m', p, herrands, htaken⟩⟩
      all_goals rw [htaken]
      · exact herased
      · exact (herased.discard t).settle
      · exact ((herased.errands herrands).note t p).settle
    · exact h
  | wait t =>
    simp only [Mesh.move]
    split
    · exact Gone.rouse (m := { m with now := max m.now t }) ⟨h.past, h.nobody⟩ _ false
    · exact h
  | act i a =>
    rw [move_act]
    exact Gone.settle (m := m.updateNode i fun n => (n.perform a).1) ⟨h.past, h.nobody⟩
  | launch w kept => exact h.spawn w kept
  | drop task => exact h.rouse _ true
  | cancel token =>
    exact Gone.rouse (m := { m with cancelled := token :: m.cancelled }) ⟨h.past, h.nobody⟩ _ false
  | choose | rewire | forget => exact ⟨h.past, h.nobody⟩

/-! ### Time -/

/-- While the task is queued no time passes. -/
theorem now_move_of_queued (hqueued : k ∈ m.queue) (a : Move) : (m.move a).now = m.now := by
  rcases m.now_move a with hsame | ⟨hidle, -⟩
  · exact hsame
  · rw [hidle] at hqueued
    cases hqueued

/-- While the task waits no time passes beyond the end of its wait. -/
theorem now_move_le (ht : t ∈ m.tasks) {wait : Wait} (hwait : t.wait = some wait) {d : Instant}
    (hd : Wait.deadline? wait = some d) (hle : m.now ≤ d) (a : Move) : (m.move a).now ≤ d := by
  rcases m.now_move a with hsame | ⟨-, u, hnow, hbound⟩
  · rw [hsame]
    exact hle
  · obtain ⟨next, hnext, hearlier⟩ := nextDeadline_le ht hwait hd
    rw [hnow]
    exact Nat.max_le.mpr ⟨hle, Nat.le_trans (hbound next hnext) hearlier⟩

/-! ### Results and tokens -/

/-- To bring a mesh in line gives no result. -/
theorem results_settle (m : Mesh) : m.settle.results = m.results := by
  simp only [settle, wake, rouse, startDriving, startPumping, launchAll_eq, stopDriving, halt,
    flush]

/-- Whatever a task does, it gives no result before it ends. -/
theorem Errands.result?_eq_none (h : Errands w m m') (hnone : m.result? k = none) :
    m'.result? k = none := by
  induction h with
  | refl => exact hnone
  | tail _ hlast ih =>
    cases hlast with
    | forget task => exact result?_forget task ih
    | start | node | schedule | meter | choose | bus => exact ih

/-- A task that is not taken up has no result. -/
theorem result?_move (hnone : m.result? k = none) {a : Move} (ha : a ≠ .takeUp k) :
    (m.move a).result? k = none := by
  have hsettle (m : Mesh) : m.settle.result? k = m.result? k := by
    rw [result?, results_settle, result?]
  cases a with
  | takeUp number =>
    simp only [move]
    split
    · unfold takeUp
      dsimp only
      split
      · exact hnone
      · next u hu =>
        -- The task that ends is another one, so its result goes under another number.
        have hother : k ≠ u.number := by
          intro heq
          exact ha (by rw [heq, (task?_eq_some hu).2])
        split
        · rw [hsettle]
          exact result?_discard { m with queue := m.queue.erase number } u hnone
        · rw [hsettle]
          have hran := errands_run { m with queue := m.queue.erase number } u.work
          exact (leaves_note _ hother _).result (hran.result?_eq_none hnone)
    · exact hnone
  | wait t =>
    simp only [move]
    split <;> exact hnone
  | act i a =>
    rw [move_act, hsettle]
    exact hnone
  | forget task => exact result?_forget task hnone
  | launch | drop | cancel | choose | rewire => exact hnone

/-- Errands never give a number again. -/
theorem Errands.le_next (h : Errands w m m') : m.next ≤ m'.next :=
  h.keeps (P := (m.next ≤ ·.next)) (Nat.le_refl _) (fun _ _ _ _ => Nat.le_succ_of_le)
    fun hboard hle => hboard.next.symm ▸ hle

/-- Numbers are never given again. -/
theorem le_next_move (m : Mesh) (a : Move) : m.next ≤ (m.move a).next := by
  cases a with
  | takeUp number =>
    simp only [move]
    split
    · rcases m.takeUp_cases number with htaken | ⟨t, htaken | ⟨m', p, herrands, htaken⟩⟩
      · rw [htaken]
      · have hsettled := next_settle ({ m with queue := m.queue.erase number }.discard t)
        rw [next_discard] at hsettled
        rw [htaken]
        exact hsettled
      · -- To note what has become of a task hands out no number.
        have hnoted : (m'.note t p).next = m'.next := by
          cases p <;> rfl
        have hsettled := next_settle (m'.note t p)
        rw [hnoted] at hsettled
        rw [htaken]
        exact Nat.le_trans herrands.le_next hsettled
    · exact Nat.le_refl _
  | wait t =>
    simp only [move]
    split <;> exact Nat.le_refl _
  | act i a =>
    rw [move_act]
    exact next_settle (m.updateNode i fun n => (n.perform a).1)
  | launch w kept => exact Nat.le_succ _
  | drop | cancel | choose | rewire | forget => exact Nat.le_refl _

/-- Only tasks that were started have results. -/
def Recorded (m : Mesh) : Prop := ∀ k, m.next ≤ k → m.result? k = none

/-- At first there are no results. -/
theorem recorded_connectAll (nodes : List Node) : Recorded (connectAll nodes).1 := by
  intro k _
  rfl

/-- Whatever happens, there are results of tasks only that were started. -/
theorem Recorded.move (h : Recorded m) (hsane : Sane m) (a : Move) : Recorded (m.move a) := by
  intro k hk
  have hnew : m.next ≤ k := Nat.le_trans (m.le_next_move a) hk
  -- A number that was never handed out is not queued, so nothing of that number can be taken up.
  by_cases ha : a = .takeUp k
  · have hidle : k ∉ m.queue := fun hqueued =>
      Nat.not_lt_of_le hnew (hsane.tidy.bounded k hqueued)
    rw [ha, show m.move (.takeUp k) = m from if_neg hidle]
    exact h k hnew
  · exact result?_move (h k hnew) ha

/-- To bring a mesh in line cancels no token, and restores none. -/
theorem cancelled_settle (m : Mesh) : m.settle.cancelled = m.cancelled := by
  simp only [settle, wake, rouse, startDriving, startPumping, launchAll_eq, stopDriving, halt,
    flush]

/-- Errands cancel no token, and restore none. -/
theorem Errands.cancelled (h : Errands w m m') : m'.cancelled = m.cancelled := by
  induction h with
  | refl => rfl
  | tail _ hlast ih =>
    rw [← ih]
    cases hlast <;> rfl

/-- To note what has become of a task cancels no token, and restores none. -/
theorem cancelled_note (m : Mesh) (t : Task) (p : Progress) :
    (m.note t p).cancelled = m.cancelled := by
  cases p <;> rfl

/-- To discard a task cancels no token, and restores none. -/
theorem cancelled_discard (m : Mesh) (t : Task) : (m.discard t).cancelled = m.cancelled := by
  unfold discard
  dsimp only
  split <;> rfl

/-- To take a task up cancels no token, and restores none. -/
theorem cancelled_takeUp (m : Mesh) (number : Nat) : (m.takeUp number).cancelled = m.cancelled := by
  rcases m.takeUp_cases number with htaken | ⟨t, htaken | ⟨m', p, herrands, htaken⟩⟩
  all_goals rw [htaken]
  · rw [cancelled_settle, cancelled_discard]
  · rw [cancelled_settle, cancelled_note, herrands.cancelled]

/-- A token that is cancelled remains so. -/
theorem isCancelled_move {token : Option Nat} (h : m.isCancelled token = true) (a : Move) :
    (m.move a).isCancelled token = true := by
  have hsame {m' : Mesh} (heq : m'.cancelled = m.cancelled) : m'.isCancelled token = true := by
    rwa [isCancelled, heq]
  cases a with
  | takeUp number =>
    simp only [move]
    split
    · exact hsame (m.cancelled_takeUp number)
    · exact h
  | wait t =>
    simp only [move]
    split <;> exact hsame rfl
  | act i a =>
    rw [move_act]
    exact hsame (cancelled_settle _)
  | cancel other =>
    obtain ⟨k, hk, hmem⟩ := (Option.any_eq_true _ _).mp h
    have hmore : k ∈ other :: m.cancelled := List.mem_cons_of_mem other (by simpa using hmem)
    exact (Option.any_eq_true _ _).mpr ⟨k, hk, List.contains_iff_mem.mpr hmore⟩
  | launch | drop | choose | rewire | forget => exact hsame rfl

/-! ### The task is taken up -/

section TakeUp

variable (h : Sane m) (ht : t ∈ m.tasks) (hgoes : t.halted = false)

include h ht hgoes

/-- The task ends, and whoever asked for it gets its result. -/
theorem takeUp_of_done (hkept : t.kept = true) {r : TaskResult}
    (hrun : (m.taken t).run t.work = (m', .done r)) :
    Gone t.number (m.takeUp t.number) ∧ (m.takeUp t.number).result? t.number = some r := by
  have hran := (errands_run (m.taken t) t.work).keeps (P := (t.number < ·.next))
    (h.tidy.fresh t ht) (fun _ _ _ _ => Nat.lt_succ_of_lt) fun hboard hlt => hboard.next.symm ▸ hlt
  rw [hrun] at hran
  rw [takeUp_of_going h.tidy ht hgoes, hrun]
  -- The task is removed, and its result comes first among the results.
  constructor
  · refine Gone.settle ⟨hran, fun u hu heq => ?_⟩
    have hother := (List.mem_filter.mp hu).2
    simp [heq] at hother
  · rw [result?, results_settle, note, hkept]
    exact List.lookup_cons_self

/-- The task goes on with other work. It is queued at once if its wait is over already. -/
theorem takeUp_of_waits {wait : Wait} (hrun : (m.taken t).run t.work = (m', .waits w wait))
    (hdrives : w.drives? = none) :
    { t with work := w, wait := some wait }.roused (m.takeUp t.number).isDue false ∈
      (m.takeUp t.number).tasks ∧
    (m.result? t.number = none → (m.takeUp t.number).result? t.number = none) := by
  have hran := errands_run (m.taken t) t.work
  rw [hrun] at hran
  rw [takeUp_of_going h.tidy ht hgoes, hrun]
  constructor
  · have hnoted : { t with work := w, wait := some wait } ∈ (m'.note t (.waits w wait)).tasks :=
      List.mem_map.mpr ⟨t, hran.mem_tasks ht, if_pos rfl⟩
    exact mem_settle hnoted hdrives
  · intro hnone
    rw [result?, results_settle]
    exact (hran.leaves (h.tidy.fresh t ht)).result hnone

end TakeUp

end Mesh

end CommandMesh
