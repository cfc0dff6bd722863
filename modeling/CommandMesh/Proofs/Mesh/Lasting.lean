import CommandMesh.Proofs.Mesh.Moves

/-!
# `CommandMesh.Proofs.Mesh.Lasting`: tasks that are left alone

A task that is not taken up stays where it is, whatever other tasks and hosts do: its work remains
the same, it does not end, and it waits for the same or is told to stop (`Task.Lasts`,
`Mesh.Leaves`). Only when tasks are queued may its wait be over, and that is left out here on
purpose: it is the last of the passes that bring a mesh in line, and those who follow a task look at
it by itself.

`Leaves` speaks of the task by its number and goes in both directions. Whatever has the number
afterwards comes from a task that had it before, so no other task can take its place; and the task
that had it is still there. It also says that no result appears under the number, since a result is
how others learn that a task has ended. Numbers are handed out in turn, which is why each lemma
about a task that is started asks for a number below the next one.

Nothing is assumed of the work of the other tasks.

* `Mesh.Errands.leaves`, `Mesh.leaves_note`: what another task does when it is taken up.
* `Mesh.tasks_discard`: what becomes of the tasks when one that was told to stop is discarded.
* `Mesh.leaves_aligned`: a mesh is brought in line.
-/

set_option autoImplicit false

namespace CommandMesh

/-- The task stays as it is, unless it is told to stop. -/
structure Task.Lasts (t t' : Task) : Prop where
  number : t'.number = t.number
  work : t'.work = t.work
  halted : t.halted = true → t'.halted = true
  wait : t'.halted = true ∨ t'.wait = t.wait

namespace Task

variable {t t' t'' : Task}

/-- A task that nothing happens to stays as it is. -/
theorem Lasts.refl (t : Task) : t.Lasts t := ⟨rfl, rfl, id, .inr rfl⟩

/-- A task that stays as it is twice stays as it is. -/
theorem Lasts.trans (h : t.Lasts t') (h' : t'.Lasts t'') : t.Lasts t'' where
  number := h'.number.trans h.number
  work := h'.work.trans h.work
  halted hhalted := h'.halted (h.halted hhalted)
  wait := by
    rcases h'.wait with hhalted | hwait
    · exact .inl hhalted
    · exact h.wait.imp h'.halted hwait.trans

/-- A task that is told to stop stays as it is otherwise. -/
theorem lasts_roused (p : Task → Bool) (t : Task) : t.Lasts (t.roused p true) where
  number := number_roused
  work := work_roused
  halted hhalted := halted_roused.mpr (.inl hhalted)
  wait := by
    unfold roused
    split
    · exact .inl (Bool.or_true _)
    · exact .inr rfl

end Task

namespace Mesh

variable {m m' m'' : Mesh} {w : Work} {k : Nat}

/-- The task of that number stays as it is, unless it is told to stop, and does not end with a
result. -/
structure Leaves (k : Nat) (m m' : Mesh) : Prop where
  next : m.next ≤ m'.next
  result : m.result? k = none → m'.result? k = none
  onto : ∀ t' ∈ m'.tasks, t'.number = k → ∃ t ∈ m.tasks, t.Lasts t'
  kept : ∀ t ∈ m.tasks, t.number = k → ∃ t' ∈ m'.tasks, t.Lasts t'

/-- With the same tasks, results and next number every task is left alone. -/
theorem Leaves.of_eq (htasks : m'.tasks = m.tasks) (hresults : m'.results = m.results)
    (hnext : m'.next = m.next) : Leaves k m m' where
  next := Nat.le_of_eq hnext.symm
  result hnone := by
    rwa [result?, hresults]
  onto t ht _ := ⟨t, htasks ▸ ht, .refl t⟩
  kept t ht _ := ⟨t, htasks ▸ ht, .refl t⟩

/-- A task that is left alone twice is left alone. -/
theorem Leaves.trans (h : Leaves k m m') (h' : Leaves k m' m'') : Leaves k m m'' where
  next := Nat.le_trans h.next h'.next
  result hnone := h'.result (h.result hnone)
  onto t'' ht'' hnumber := by
    obtain ⟨t', ht', hlasts'⟩ := h'.onto t'' ht'' hnumber
    obtain ⟨t, ht, hlasts⟩ := h.onto t' ht' (hlasts'.number.symm.trans hnumber)
    exact ⟨t, ht, hlasts.trans hlasts'⟩
  kept t ht hnumber := by
    obtain ⟨t', ht', hlasts⟩ := h.kept t ht hnumber
    obtain ⟨t'', ht'', hlasts'⟩ := h'.kept t' ht' (hlasts.number.trans hnumber)
    exact ⟨t'', ht'', hlasts.trans hlasts'⟩

/-- To start a task leaves those alone that are there. -/
theorem leaves_spawn (hk : k < m.next) (w : Work) (kept : Bool) :
    Leaves k m (m.spawn w kept).1 where
  next := Nat.le_succ _
  result := id
  onto t ht hnumber := by
    rcases List.mem_append.mp ht with ht | ht
    · exact ⟨t, ht, .refl t⟩
    · -- The new task has the next number, which is beyond that of the task in question.
      rw [List.mem_singleton.mp ht] at hnumber
      exact absurd hnumber (Nat.ne_of_gt hk)
  kept t ht _ := ⟨t, List.mem_append_left _ ht, .refl t⟩

/-- To start tasks in turn leaves those alone that are there. -/
theorem leaves_launchAll (hk : k < m.next) (ws : List Work) : Leaves k m (m.launchAll ws) := by
  induction ws generalizing m with
  | nil => exact .of_eq rfl rfl rfl
  | cons w ws ih => exact (leaves_spawn hk w false).trans (ih (Nat.lt_succ_of_lt hk))

/-- To tell tasks to stop leaves each alone otherwise. -/
theorem leaves_halt (m : Mesh) (p : Nat → Work → Bool) : Leaves k m (m.halt p) where
  next := Nat.le_refl _
  result := id
  onto t' ht' _ := by
    obtain ⟨t, ht, rfl⟩ := List.mem_map.mp ht'
    exact ⟨t, ht, Task.lasts_roused (fun t => p t.number t.work) t⟩
  kept t ht _ := ⟨t.roused (fun t => p t.number t.work) true, List.mem_map.mpr ⟨t, ht, rfl⟩,
    Task.lasts_roused _ t⟩

/-- To take a result leaves every task alone. -/
theorem leaves_forget (m : Mesh) (task : Nat) : Leaves k m (m.forget task) where
  next := Nat.le_refl _
  result := result?_forget task
  onto t ht _ := ⟨t, ht, .refl t⟩
  kept t ht _ := ⟨t, ht, .refl t⟩

/-- Errands leave every task alone, also the one on whose behalf they are run. -/
theorem Errands.leaves (h : Errands w m m') (hk : k < m.next) : Leaves k m m' := by
  induction h with
  | refl => exact .of_eq rfl rfl rfl
  | tail _ hlast ih =>
    -- By induction on the errands: numbers only grow, so the task is older than what is started
    -- later.
    refine ih.trans ?_
    cases hlast with
    | start w' kept => exact leaves_spawn (Nat.lt_of_lt_of_le hk ih.next) w' kept
    | forget task => exact leaves_forget _ task
    | node | schedule | meter | choose | bus => exact .of_eq rfl rfl rfl

/-- Errands take no time. -/
theorem Errands.now (h : Errands w m m') : m'.now = m.now :=
  h.keeps (P := (·.now = m.now)) rfl (fun _ _ _ _ => id) fun hboard => hboard.now.trans

/-- To note what has become of a task takes no time. -/
theorem now_note (m : Mesh) (t : Task) (p : Progress) : (m.note t p).now = m.now := by
  cases p <;> rfl

/-- To remove one task leaves the others alone. -/
theorem leaves_remove (m : Mesh) {number : Nat} (hk : k ≠ number) :
    Leaves k m { m with tasks := m.tasks.filter (·.number != number) } where
  next := Nat.le_refl _
  result := id
  onto t ht _ := ⟨t, List.mem_of_mem_filter ht, .refl t⟩
  kept t ht hnumber := ⟨t, List.mem_filter.mpr ⟨ht, by simpa [hnumber] using hk⟩, .refl t⟩

/-- To note what has become of one task leaves the others alone. -/
theorem leaves_note (m : Mesh) {t : Task} (hk : k ≠ t.number) (p : Progress) :
    Leaves k m (m.note t p) := by
  cases p with
  | done r =>
    refine (leaves_remove m hk).trans ⟨Nat.le_refl _, fun hnone => ?_, fun u hu _ =>
      ⟨u, hu, .refl u⟩, fun u hu _ => ⟨u, hu, .refl u⟩⟩
    -- The result is that of the task that ends, which is another one.
    show List.lookup k (if t.kept then (t.number, r) :: m.results else m.results) = none
    split
    · rw [List.lookup_cons, beq_false_of_ne hk]
      exact hnone
    · exact hnone
  | waits w wait =>
    have hsame {u : Task} (hu : u.number = k) :
        (if u.number = t.number then { u with work := w, wait := some wait } else u) = u :=
      if_neg fun heq => hk (hu.symm.trans heq)
    refine ⟨Nat.le_refl _, id, fun u' hu' hnumber => ?_, fun u hu hnumber => ?_⟩
    · obtain ⟨u, hu, rfl⟩ := List.mem_map.mp hu'
      have hbefore : u.number = k := by
        split at hnumber <;> exact hnumber
      rw [hsame hbefore]
      exact ⟨u, hu, .refl u⟩
    · refine ⟨u, List.mem_map.mpr ⟨u, hu, hsame hnumber⟩, .refl u⟩

/-- A task is dropped, and the body that it waits for is told to stop. -/
theorem tasks_discard (m : Mesh) (t : Task) : (m.discard t).tasks =
    (m.tasks.filter (·.number != t.number)).map
      (Task.roused (fun u => t.work.runs?.any fun run => u.number == run.2.2) true) := by
  unfold discard
  dsimp only
  split
  · next hruns =>
    rw [hruns]
    exact (List.map_id _).symm
  · next i n body hruns =>
    rw [hruns]
    rfl

/-- To discard a task hands out no number. -/
theorem next_discard (m : Mesh) (t : Task) : (m.discard t).next = m.next := by
  unfold discard
  dsimp only
  split <;> rfl

/-- To discard a task takes no time. -/
theorem now_discard (m : Mesh) (t : Task) : (m.discard t).now = m.now := by
  unfold discard
  dsimp only
  split <;> rfl

/-- To discard a task gives no result. -/
theorem result?_discard (m : Mesh) (t : Task) {k : Nat} (h : m.result? k = none) :
    (m.discard t).result? k = none := by
  unfold discard
  dsimp only
  split
  · exact h
  · next i n body _ => exact (leaves_forget m body).result h

/-- To start tasks for messages inside nodes leaves those alone that are there. -/
theorem leaves_startPumping (hk : k < m.next) : Leaves k m m.startPumping :=
  (leaves_launchAll hk (m.unpumped.map .pump)).trans (.of_eq rfl rfl rfl)

/-- To start tasks for schedules leaves those alone that are there. -/
theorem leaves_startDriving (hk : k < m.next) : Leaves k m m.startDriving :=
  (leaves_launchAll hk (m.undriven.map fun y => .drive y.1 y.2)).trans (.of_eq rfl rfl rfl)

/-- What comes before tasks are queued when a mesh is brought in line. -/
theorem leaves_aligned (hk : k < m.next) :
    Leaves k m m.flush.stopDriving.startPumping.startDriving := by
  -- Messages are handed on first; then tasks are told to stop, and new ones are started.
  have hflushed : Leaves k m m.flush := .of_eq rfl rfl rfl
  have hstopped : Leaves k m m.flush.stopDriving := hflushed.trans (leaves_halt _ _)
  have hpumping := hstopped.trans (leaves_startPumping (Nat.lt_of_lt_of_le hk hstopped.next))
  exact hpumping.trans (leaves_startDriving (Nat.lt_of_lt_of_le hk hpumping.next))

end Mesh

end CommandMesh
