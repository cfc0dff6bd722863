import CommandMesh.Proofs.Mesh.Lasting
import CommandMesh.Proofs.Mesh.Sparing
import CommandMesh.Proofs.Mesh.Upkeep

/-!
# `CommandMesh.Proofs.Mesh.Removal`: what becomes of a schedule that is removed

Once a schedule is removed, the task by which the clock drives it is told to stop. It is dropped
when it is taken up next, and with it the run that it waits for, whose body is told to stop in turn.
So a schedule that is `Retired` stays retired, and a body that was suspended is `Doomed`: no time
passes until both have stopped.

A schedule is removed by its host, or because it is restricted to the master and its node is master
no more (`Move.Removes`). After that anything may happen in the mesh and what is queued may be taken
up in any order, as long as the moves are fair and nobody starts or drops a task about the schedule
by hand.

What stops is what the clock drives. A run of a job that may run for long is a task of its own, to
which nobody listens and which nobody stops; so the main result supposes that every task about the
schedule is one by which the clock drives it, and the last theorem shows what happens otherwise. A
body that does not pause is run to its end as it is called, and there is nothing in between to stop
it at.

Two invariants are carried along. `Retired` says of the schedule that it is not registered and that
all tasks about it were told to stop. `Doomed` says of the body that it cannot go on before the task
which waits for it has stopped: that task is queued, so no time passes, and the body waits for a
later time. The theorems:

* `Retired.move`, `Retired.moves`: nothing is counted about a retired schedule.
* `Doomed.move`, `Doomed.moves`: a doomed body does not go on.
* `other_removeJob`, `rests_removeJob`: what does not concern other schedules and tasks.
* `removed_schedule_stops`: so a schedule stops when it is removed, if no run of it is a task of its
  own.
* `long_run_goes_on`: a run of a job that may run for long is such a task, and nobody stops it.
-/

set_option autoImplicit false

namespace CommandMesh

/-- Nothing is counted about the schedule and no run of it begins. A run in flight may be
dropped. -/
structure Schedule.Idles (s s' : Schedule) : Prop where
  job : s'.job = s.job
  executions : s'.executions = s.executions
  failures : s'.failures = s.failures
  skipped : s'.skipped = s.skipped
  lastRun : s'.lastRun = s.lastRun
  active : s'.active = true → s.active = true

namespace Schedule

variable {s s' s'' : Schedule}

/-- A schedule that idles twice in turn idles. -/
theorem Idles.trans (h : s.Idles s') (h' : s'.Idles s'') : s.Idles s'' :=
  ⟨h'.job.trans h.job, h'.executions.trans h.executions, h'.failures.trans h.failures,
    h'.skipped.trans h.skipped, h'.lastRun.trans h.lastRun,
    fun hactive => h.active (h'.active hactive)⟩

/-- A schedule whose counts and activity stay the same idles. -/
theorem idles_of_bare (h : s'.bare = s.bare) : s.Idles s' :=
  ⟨congrArg (·.job) h, congrArg (·.executions) h, congrArg (·.failures) h, congrArg (·.skipped) h,
    congrArg (·.lastRun) h, fun hactive => (congrArg (·.active) h).symm.trans hactive⟩

/-- A schedule whose run is dropped idles, since a run that is dropped is not counted. -/
theorem idles_drop (s : Schedule) : s.Idles s.drop := ⟨rfl, rfl, rfl, rfl, rfl, nofun⟩

end Schedule

namespace Timetable

variable {t : Timetable} {n k : Nat}

/-- Dropping a schedule leaves the record of every other one. -/
theorem find?_drop_of_ne (h : n ≠ k) : (t.drop k).find? n = t.find? n := by
  by_cases hk : k ∈ t.tracked
  · rw [drop_of_mem hk]
    simp [find?, h.symm]
  · rw [drop_of_not_mem hk]

/-- Dropping a schedule leaves every other one registered or not as it was. -/
theorem InStep.mem_registered_drop (ht : t.InStep) (h : n ≠ k) :
    n ∈ (t.drop k).registered ↔ n ∈ t.registered := by
  rw [(ht.drop k).registered, ht.registered, scheduler_drop, tracked_drop]
  split
  · exact Iff.rfl
  · exact List.mem_erase_of_ne h

end Timetable

namespace Mesh

variable {m m' m'' : Mesh} {w : Work} {x : Nat × Nat} {t : Task} {hand : Option Nat}

/-! ### Schedules that are not registered -/

/-- The schedule was made and is not registered, and the tasks about it were told to stop. -/
structure Retired (x : Nat × Nat) (m : Mesh) : Prop where
  made : (m.schedule? x.1 x.2).isSome = true
  unregistered : m.shouldDrive x.1 x.2 = false
  halted : ∀ t ∈ m.about x, t.halted = true

/-- A retired schedule stays retired if its record is left and the tasks about it were told to stop.
-/
theorem Retired.of_spares (h : Retired x m) (hspares : Spares x m m')
    (hhalted : ∀ t ∈ m'.about x, t.halted = true) : Retired x m' := by
  obtain ⟨s, hs⟩ := Option.isSome_iff_exists.mp h.made
  obtain ⟨s', hs', -⟩ := hspares.record hs
  refine ⟨by rw [hs']; rfl, Bool.eq_false_iff.mpr fun hdrives => ?_, hhalted⟩
  exact absurd (hspares.shouldDrive hs hdrives) (by simp [h.unregistered])

/-- A retired schedule stays retired as the mesh is brought in line. -/
theorem Retired.settle (h : Retired x m) : Retired x m.settle := by
  refine h.of_spares (spares_settle x m) fun t ht => ?_
  obtain ⟨ht, hsubject⟩ := mem_about.mp ht
  rcases mem_tasks_settle ht with ⟨u, hu, rfl⟩ | ⟨k, w, -, ⟨i, rfl⟩ | ⟨y, hy, rfl⟩, rfl⟩
  · rw [Task.work_roused, Task.work_roused] at hsubject
    exact Task.halted_roused.mpr (.inl (Task.halted_roused.mpr
      (.inl (h.halted u (mem_about.mpr ⟨hu, hsubject⟩)))))
  · rw [Task.work_roused] at hsubject
    cases hsubject
  · -- What is driven from now on is registered.
    rw [Task.work_roused] at hsubject
    obtain rfl : y = x := Option.some.inj hsubject
    exact absurd (mem_undriven.mp hy).1 (by simp [h.unregistered])

/-- A retired schedule stays retired as tasks are woken. -/
theorem Retired.wake (h : Retired x m) : Retired x m.wake := by
  refine h.of_spares (.of_eq rfl) fun t ht => ?_
  obtain ⟨ht, hsubject⟩ := mem_about.mp ht
  rw [tasks_wake] at ht
  obtain ⟨u, hu, rfl⟩ := List.mem_map.mp ht
  rw [Task.work_roused] at hsubject
  exact Task.halted_roused.mpr (.inl (h.halted u (mem_about.mpr ⟨hu, hsubject⟩)))

/-- A retired schedule stays retired by what passes it by. -/
theorem Retired.bypass (h : Retired x m) (hbypasses : Bypasses x m m') : Retired x m' :=
  h.of_spares hbypasses.spares (hbypasses.about ▸ h.halted)

/-- Nothing is counted about the schedule. -/
def Idles (x : Nat × Nat) (m m' : Mesh) : Prop :=
  ∀ s, m.schedule? x.1 x.2 = some s → ∃ s', m'.schedule? x.1 x.2 = some s' ∧ s.Idles s'

/-- If nothing is counted twice in turn, nothing is counted. -/
theorem Idles.trans (h : Idles x m m') (h' : Idles x m' m'') : Idles x m m'' := by
  intro s hs
  obtain ⟨s', hs', hidles⟩ := h s hs
  obtain ⟨s'', hs'', hidles'⟩ := h' s' hs'
  exact ⟨s'', hs'', hidles.trans hidles'⟩

/-- A move that spares the schedule counts nothing about it. -/
theorem Spares.idles (h : Spares x m m') : Idles x m m' := by
  intro s hs
  obtain ⟨s', hs', hbare⟩ := h.record hs
  exact ⟨s', hs', Schedule.idles_of_bare hbare⟩

/-- Tasks about the schedule that were told to stop still were, whichever tasks are roused. -/
theorem halted_of_roused {p : Task → Bool} {halts : Bool} {ts : List Task}
    (h : ∀ t ∈ ts, t.work.subject? = some x → t.halted = true) :
    ∀ t ∈ ts.map (Task.roused p halts), t.work.subject? = some x → t.halted = true := by
  intro t ht hsubject
  obtain ⟨u, hu, rfl⟩ := List.mem_map.mp ht
  rw [Task.work_roused] at hsubject
  exact Task.halted_roused.mpr (.inl (h u hu hsubject))

/-- A task about a retired schedule is dropped, and with it the run that it waits for. -/
theorem Retired.discard (h : Retired x m) (ht : t.work.subject? = some x) :
    Retired x (m.discard t) ∧ Idles x m (m.discard t) := by
  have hleft : ∀ u ∈ m.tasks.filter (·.number != t.number),
      u.work.subject? = some x → u.halted = true :=
    fun u hu hsubject => h.halted u (mem_about.mpr ⟨List.mem_of_mem_filter hu, hsubject⟩)
  unfold Mesh.discard
  dsimp only
  split
  · refine ⟨⟨h.made, h.unregistered, fun u hu => ?_⟩, (Spares.of_eq rfl).idles⟩
    obtain ⟨hu, hsubject⟩ := mem_about.mp hu
    exact hleft u hu hsubject
  · next i n body hruns =>
    obtain rfl : (i, n) = x := Option.some.inj ((subject_of_runs hruns).symm.trans ht)
    have hrecord := schedule?_update ((forget { m with
      tasks := m.tasks.filter (·.number != t.number) } body).halt fun number _ => number == body)
      i n Schedule.drop
    refine ⟨⟨?_, ?_, fun u hu => ?_⟩, fun s hs => ?_⟩
    · rw [hrecord, Option.isSome_map]
      exact h.made
    · rw [shouldDrive_update]
      exact h.unregistered
    · obtain ⟨hu, hsubject⟩ := mem_about.mp hu
      exact halted_of_roused hleft u hu hsubject
    · refine ⟨s.drop, ?_, s.idles_drop⟩
      rw [hrecord]
      exact congrArg (Option.map Schedule.drop) hs

/-- A retired schedule stays retired and nothing is counted about it, whatever happens. -/
theorem Retired.move (h : Retired x m) (hsane : Sane m) {a : Move} (hfair : a.IsFair)
    (ha : a.Leaves x m) : Retired x (m.move a) ∧ Idles x m (m.move a) := by
  rcases ha.cases with hspares | ⟨t, ht, rfl⟩
  · refine ⟨?_, (spares_move hsane hfair hspares).idles⟩
    -- Something else happens, and then the mesh stays as it is, wakes tasks or is brought in line.
    obtain ⟨m', hbypasses, ⟨hmove | hmove, -⟩ | hmove⟩ := bypasses_move hsane hfair hspares
    · rw [hmove]
      exact h.bypass hbypasses
    · rw [hmove]
      exact (h.bypass hbypasses).wake
    · rw [hmove]
      exact (h.bypass hbypasses).settle
  · -- A task about the schedule is taken up. It was told to stop, so it is dropped.
    obtain ⟨hmem, hsubject⟩ := mem_about.mp ht
    simp only [Mesh.move]
    split
    · have hqueue : Retired x { m with queue := m.queue.erase t.number } :=
        ⟨h.made, h.unregistered, h.halted⟩
      obtain ⟨hretired, hidles⟩ := hqueue.discard hsubject
      rw [takeUp_of_halted hsane.tidy hmem (h.halted t ht)]
      refine ⟨hretired.settle, ?_⟩
      have herased : Idles x m { m with queue := m.queue.erase t.number } :=
        (Spares.of_eq rfl).idles
      exact herased.trans (hidles.trans (spares_settle x _).idles)
    · exact ⟨h, (Spares.refl x m).idles⟩

/-- A retired schedule stays retired and nothing is counted about it throughout moves in turn. -/
theorem Retired.moves (h : Retired x m) (hsane : Sane m) {ms : List Move}
    (hms : Undisturbed x m ms) :
    Retired x (m.moves ms) ∧ Idles x m (m.moves ms) := by
  induction ms generalizing m with
  | nil => exact ⟨h, (Spares.refl x m).idles⟩
  | cons a ms ih =>
    obtain ⟨hfair, hleaves, hrest⟩ := hms
    obtain ⟨hretired, hidles⟩ := h.move hsane hfair hleaves
    obtain ⟨hretired', hidles'⟩ := ih hretired (hsane.move hfair) hrest
    exact ⟨hretired', hidles.trans hidles'⟩

/-! ### Bodies that are stopped -/

/-- The task of a body that was suspended until `d` is where it was, and ends without a result when
it is taken up: either it was told to stop, or it still waits and the task that waits for it was
told to stop. -/
structure Doomed (b : Nat) (w : Work) (d : Instant) (m : Mesh) : Prop where
  bound : b < m.next
  unfinished : m.result? b = none
  stays : ∀ t ∈ m.tasks, t.number = b →
    t.work = w ∧ (t.halted = true ∨ t.wait = some (.time d))
  guarded : (∀ t ∈ m.tasks, t.number = b → t.halted = true) ∨ m.now < d ∧
    ∃ g ∈ m.tasks, g.halted = true ∧ ∃ run, g.work.runs? = some run ∧ run.2.2 = b

variable {b : Nat} {w : Work} {d : Instant}

/-- Neither the body nor a task that was told to stop is taken up. -/
theorem Doomed.leaves (h : Doomed b w d m) (hnow : m'.now = m.now) (hb : Leaves b m m')
    (hguard : ∀ g ∈ m.tasks, g.halted = true → Leaves g.number m m') : Doomed b w d m' where
  bound := Nat.lt_of_lt_of_le h.bound hb.next
  unfinished := hb.result h.unfinished
  stays t' ht' hnumber := by
    obtain ⟨t, ht, hlasts⟩ := hb.onto t' ht' hnumber
    obtain ⟨hwork, hstays⟩ := h.stays t ht (hlasts.number.symm.trans hnumber)
    refine ⟨hlasts.work.trans hwork, ?_⟩
    rcases hstays with hstopped | hwait
    · exact .inl (hlasts.halted hstopped)
    · exact hlasts.wait.imp_right (·.trans hwait)
  guarded := by
    rcases h.guarded with hall | ⟨hfuture, g, hg, hstopped, run, hruns, hbody⟩
    · refine .inl fun t' ht' hnumber => ?_
      obtain ⟨t, ht, hlasts⟩ := hb.onto t' ht' hnumber
      exact hlasts.halted (hall t ht (hlasts.number.symm.trans hnumber))
    · obtain ⟨g', hg', hlasts⟩ := (hguard g hg hstopped).kept g hg rfl
      exact .inr ⟨hnow ▸ hfuture, g', hg', hlasts.halted hstopped, run,
        (congrArg Work.runs? hlasts.work).trans hruns, hbody⟩

/-- Waking tasks does not wake a doomed body, for its time has not come. -/
theorem Doomed.wake (h : Doomed b w d m) : Doomed b w d m.wake where
  bound := h.bound
  unfinished := h.unfinished
  stays t' ht' hnumber := by
    rw [tasks_wake] at ht'
    obtain ⟨t, ht, rfl⟩ := List.mem_map.mp ht'
    rw [Task.number_roused] at hnumber
    obtain ⟨hwork, hstays⟩ := h.stays t ht hnumber
    refine ⟨Task.work_roused.trans hwork, ?_⟩
    cases hhalted : t.halted with
    | true => exact .inl (Task.halted_roused.mpr (.inl hhalted))
    | false =>
      -- It waits, and its time has not come.
      have hwait := hstays.resolve_left (by simp [hhalted])
      rcases h.guarded with hall | ⟨hfuture, -⟩
      · simp [hall t ht hnumber] at hhalted
      · have hnot : m.isDue t = false := by
          simp [isDue, hwait, isOver, hfuture]
        exact .inr (by simp [Task.roused, hnot, hwait])
  guarded := by
    rcases h.guarded with hall | ⟨hfuture, g, hg, hstopped, run, hruns, hbody⟩
    · refine .inl fun t' ht' hnumber => ?_
      rw [tasks_wake] at ht'
      obtain ⟨t, ht, rfl⟩ := List.mem_map.mp ht'
      rw [Task.number_roused] at hnumber
      exact Task.halted_roused.mpr (.inl (hall t ht hnumber))
    · rw [tasks_wake]
      exact .inr ⟨hfuture, g.roused m.isDue false, List.mem_map_of_mem hg,
        Task.halted_roused.mpr (.inl hstopped), run, by rwa [Task.work_roused], hbody⟩

/-- A doomed body stays doomed as the mesh is brought in line. -/
theorem Doomed.settle (h : Doomed b w d m) (hnumbers : ∀ t ∈ m.tasks, t.number < m.next) :
    Doomed b w d m.settle :=
  Doomed.wake (h.leaves m.now_settle (leaves_aligned h.bound) fun g hg _ =>
    leaves_aligned (hnumbers g hg))

/-- A task that was told to stop is dropped. If it waits for the body, the body is told to stop. -/
theorem Doomed.discard (h : Doomed b w d m) (hnumbers : (m.tasks.map (·.number)).Nodup)
    (ht : t ∈ m.tasks) : Doomed b w d (m.discard t) where
  bound := by
    rw [next_discard]
    exact h.bound
  unfinished := m.result?_discard t h.unfinished
  stays u' hu' hnumber := by
    rw [tasks_discard] at hu'
    obtain ⟨u, hu, rfl⟩ := List.mem_map.mp hu'
    have hlasts := u.lasts_roused fun u => t.work.runs?.any fun run => u.number == run.2.2
    obtain ⟨hwork, hstays⟩ :=
      h.stays u (List.mem_of_mem_filter hu) (hlasts.number.symm.trans hnumber)
    refine ⟨hlasts.work.trans hwork, ?_⟩
    rcases hstays with hstopped | hwait
    · exact .inl (hlasts.halted hstopped)
    · exact hlasts.wait.imp_right (·.trans hwait)
  guarded := by
    rw [tasks_discard, now_discard]
    rcases h.guarded with hall | ⟨hfuture, g, hg, hstopped, run, hruns, hbody⟩
    · refine .inl fun u' hu' hnumber => ?_
      obtain ⟨u, hu, rfl⟩ := List.mem_map.mp hu'
      rw [Task.number_roused] at hnumber
      exact Task.halted_roused.mpr (.inl (hall u (List.mem_of_mem_filter hu) hnumber))
    · by_cases hsame : g.number = t.number
      · -- The task that waits for the body is dropped, so the body is told to stop.
        obtain rfl := List.inj_on_of_nodup_map hnumbers hg ht hsame
        refine .inl fun u' hu' hnumber => ?_
        obtain ⟨u, hu, rfl⟩ := List.mem_map.mp hu'
        rw [Task.number_roused] at hnumber
        exact Task.halted_roused.mpr (.inr ⟨by simp [hruns, hbody, hnumber], rfl⟩)
      · refine .inr ⟨hfuture, _, List.mem_map_of_mem (List.mem_filter.mpr
          ⟨hg, by simpa using hsame⟩), Task.halted_roused.mpr (.inl hstopped), run, ?_, hbody⟩
        rwa [Task.work_roused]

/-- A task is taken up. -/
theorem Doomed.takeUp (h : Doomed b w d m) (hsane : Sane m) {number : Nat}
    (hqueued : number ∈ m.queue) : Doomed b w d (m.takeUp number) := by
  have herased : Doomed b w d { m with queue := m.queue.erase number } :=
    ⟨h.bound, h.unfinished, h.stays, h.guarded⟩
  cases hfound : { m with queue := m.queue.erase number }.task? number with
  | none =>
    simp only [Mesh.takeUp, hfound]
    exact herased
  | some t =>
    obtain ⟨hmem, rfl⟩ := task?_eq_some hfound
    cases hhalted : t.halted with
    -- A task that was told to stop is discarded, and the body with it if it is the one that is
    -- waited for.
    | true =>
      rw [takeUp_of_halted hsane.tidy hmem hhalted]
      refine (herased.discard hsane.tidy.numbers hmem).settle fun u hu => ?_
      rw [tasks_discard] at hu
      obtain ⟨v, hv, rfl⟩ := List.mem_map.mp hu
      rw [Task.number_roused, next_discard]
      exact hsane.tidy.fresh v (List.mem_of_mem_filter hv)
    | false =>
      -- The body still waits or was told to stop, so it is not the task that goes on.
      have hother : b ≠ t.number := by
        rintro rfl
        have hwait := (h.stays t hmem rfl).2.resolve_left (by simp [hhalted])
        have hnone := (hsane.tidy.queued t hmem).mpr (.inl hqueued)
        rw [hwait] at hnone
        cases hnone
      have herrands := errands_run { m with queue := m.queue.erase t.number } t.work
      have hnoted := ((hsane.tidy.take hmem hqueued hhalted).errands herrands).note (t := t)
      rw [takeUp_of_going hsane.tidy hmem hhalted]
      generalize run { m with queue := m.queue.erase t.number } t.work = ran at herrands hnoted ⊢
      have hleaves {k : Nat} (hk : k < m.next) (hne : k ≠ t.number) :
          Leaves k { m with queue := m.queue.erase t.number } (note ran.1 t ran.2) :=
        (herrands.leaves hk).trans (leaves_note ran.1 hne ran.2)
      have hnow : (note ran.1 t ran.2).now = m.now := (now_note _ _ _).trans herrands.now
      refine (herased.leaves hnow (hleaves h.bound hother) fun g hg hstopped => ?_).settle
        (hnoted ran.2).fresh
      refine hleaves (hsane.tidy.fresh g hg) fun hsame => ?_
      rw [hsane.tidy.eq_of_number hg hmem hsame, hhalted] at hstopped
      cases hstopped

/-- A body that is stopped does not go on, whatever happens. -/
theorem Doomed.move (h : Doomed b w d m) (hsane : Sane m) (a : Move) : Doomed b w d (m.move a) := by
  have hsame {m' : Mesh} (htasks : m'.tasks = m.tasks) (hresults : m'.results = m.results)
      (hnext : m'.next = m.next) (hnow : m'.now = m.now) : Doomed b w d m' :=
    h.leaves hnow (.of_eq htasks hresults hnext) fun _ _ _ => .of_eq htasks hresults hnext
  cases a with
  | takeUp number =>
    simp only [Mesh.move]
    split
    · next hqueued => exact h.takeUp hsane hqueued
    · exact h
  | wait t =>
    simp only [Mesh.move]
    split
    · next hidle =>
      -- While a task that was told to stop is queued, no time passes.
      have hall : ∀ u ∈ m.tasks, u.number = b → u.halted = true := by
        refine h.guarded.resolve_right ?_
        rintro ⟨-, g, hg, hstopped, -⟩
        have hqueued := hsane.tidy.halted g hg hstopped
        rw [hidle.1] at hqueued
        cases hqueued
      have hlater : Doomed b w d { m with now := max m.now t } :=
        ⟨h.bound, h.unfinished, h.stays, .inl hall⟩
      exact hlater.wake
    · exact h
  | act i a =>
    have hacted : Doomed b w d (m.updateNode i fun n => (n.perform a).1) := hsame rfl rfl rfl rfl
    rw [move_act]
    exact hacted.settle hsane.tidy.fresh
  | launch w kept =>
    exact h.leaves rfl (leaves_spawn h.bound w kept) fun g hg _ =>
      leaves_spawn (hsane.tidy.fresh g hg) w kept
  | drop task =>
    have hhalted (k : Nat) : Leaves k m (m.drop task) := leaves_halt m _
    exact h.leaves rfl (hhalted b) fun g _ _ => hhalted g.number
  | cancel token =>
    have hcancelled : Doomed b w d { m with cancelled := token :: m.cancelled } :=
      hsame rfl rfl rfl rfl
    exact hcancelled.wake
  | choose | rewire => exact hsame rfl rfl rfl rfl
  | forget task => exact h.leaves rfl (leaves_forget m task) fun _ _ _ => leaves_forget m task

/-- A body that is stopped does not go on throughout moves in turn. -/
theorem Doomed.moves (h : Doomed b w d m) (hsane : Sane m) {ms : List Move}
    (hms : ∀ a ∈ ms, a.IsFair) : Doomed b w d (m.moves ms) := by
  induction ms generalizing m with
  | nil => exact h
  | cons a ms ih =>
    rw [List.forall_mem_cons] at hms
    exact ih (h.move hsane a) (hsane.move hms.1) hms.2

/-! ### Other schedules -/

/-- Removing a schedule drops it from the timetable of its node and leaves all other timetables. -/
theorem timetable?_removeJob (hm : m.Orderly) (i k j : Nat) :
    (m.move (.act i (.removeJob k))).timetable? j =
      (m.timetable? j).map fun t => if i = j then t.drop k else t := by
  rw [timetable?, nodes_act, timetable?]
  cases hn : m.nodes[j]? with
  | none => rfl
  | some n =>
    refine congrArg some ?_
    split
    · exact Roster.timetable_removeJob (hm n (List.mem_of_getElem? hn)).inStep.sound k
    · rfl

/-- A host that removes a schedule leaves every other one as it is. -/
theorem other_removeJob (hm : m.Orderly) {i k : Nat} (hx : x ≠ (i, k)) :
    (m.move (.act i (.removeJob k))).schedule? x.1 x.2 = m.schedule? x.1 x.2 ∧
      (m.move (.act i (.removeJob k))).shouldDrive x.1 x.2 = m.shouldDrive x.1 x.2 := by
  rw [schedule?_eq, schedule?_eq, shouldDrive_eq, shouldDrive_eq, timetable?_removeJob hm]
  cases ht : m.timetable? x.1 with
  | none => exact ⟨rfl, rfl⟩
  | some t =>
    -- On the same node it is another number, and on another node the timetable does not change.
    by_cases hi : i = x.1
    · have hk : x.2 ≠ k := fun hk => hx (Prod.ext hi.symm hk)
      obtain ⟨n, hn, rfl⟩ := Option.map_eq_some_iff.mp ht
      have hinStep := (hm n (List.mem_of_getElem? hn)).inStep
      have hregistered := hinStep.mem_registered_drop hk
      simp only [Option.map_some, Option.bind_some, Option.any_some, if_pos hi,
        Timetable.scheduler_drop, Timetable.find?_drop_of_ne hk, List.contains_eq_mem,
        hregistered, and_self]
    · simp only [Option.map_some, if_neg hi, and_self]

/-- A host that removes a schedule leaves the tasks that do not drive it as they are. -/
theorem rests_removeJob (h : Sane m) (hm : m.Orderly) {i k : Nat} (ht : t ∈ m.tasks)
    (hdrives : t.work.drives? ≠ some (i, k)) :
    ∃ t' ∈ (m.move (.act i (.removeJob k))).tasks,
      Rests (m.move (.act i (.removeJob k))) t t' := by
  have hsame : t.roused (m.updateNode i fun n => (n.perform (.removeJob k)).1).isStale true =
      t := by
    unfold Task.roused
    split
    · next hstale =>
      -- Whatever it drives was not registered before, so it was told to stop already.
      have hbefore : m.isStale t = true := by
        cases hdriven : t.work.drives? with
        | none => simp [isStale, hdriven] at hstale
        | some y =>
          have hy : y ≠ (i, k) := fun heq => hdrives (heq ▸ hdriven)
          have hother := (other_removeJob hm hy).2
          rw [move_act, shouldDrive_congr (timetable?_settle _ _)] at hother
          simpa [isStale, hdriven, hother] using hstale
      have hhalted := h.stopped t ht hbefore
      have hwait := (h.tidy.queued t ht).mpr (.inl (h.tidy.halted t ht hhalted))
      cases t
      simp_all
    · rfl
  rw [move_act]
  refine ⟨_, ?_, rests_roused _ t⟩
  rw [tasks_settle]
  exact List.mem_map_of_mem (List.mem_append_left _ (List.mem_map.mpr ⟨t, ht, hsame⟩))

/-! ### Main results -/

/-- A schedule that is removed keeps its record. -/
theorem isSome_schedule?_of_removes (hm : m.Orderly) {a : Move} (hfair : a.IsFair)
    (h : a.Removes x m) : ((m.move a).schedule? x.1 x.2).isSome = true := by
  cases h with
  | @byHost n hn hremoved =>
    have hmade : (n.roster.timetable.find? x.2).isSome = true := by
      cases hs : n.roster.timetable.find? x.2 with
      | none => simp [Roster.removeJob, hs] at hremoved
      | some s => rfl
    rw [schedule?_eq, timetable?_removeJob hm, timetable?, hn]
    simpa [Timetable.find?] using hmade
  | @byDemotion _ n n' hn hmaster hn' hdemoted hrestricted =>
    rw [schedule?, hn']
    unfold Timetable.isMasterOnly at hrestricted
    exact Option.isSome_of_any hrestricted

/-- Moves that leave the schedule undisturbed are fair. -/
theorem Undisturbed.isFair {ms : List Move} (h : Undisturbed x m ms) : ∀ a ∈ ms, a.IsFair := by
  induction ms generalizing m with
  | nil => simp
  | cons a ms ih =>
    rw [List.forall_mem_cons]
    exact ⟨h.1, ih h.2.2⟩

/-- A host removes a schedule, or its node is master no more and the schedule is restricted to the
master. If every task about the schedule is one by which the clock drives it, so that no run of it
is a task of its own, it stops, whatever happens then:

* nothing is counted about it any more and no run of it begins;
* it is not registered again, and the tasks that drove it were told to stop;
* a body that was suspended stays where it was and never gives a result: it was told to stop, or it
  still waits for the same time;
* if its host removes it, that counts nothing and leaves every other schedule and every task that
  does not drive it as they are;
* when the tasks that drove it are dropped, every other schedule stays as it is. -/
theorem removed_schedule_stops (h : Sane m) (hm : m.Orderly) {a : Move} (hfair : a.IsFair)
    (ha : a.Removes x m) (hclock : ∀ t ∈ (m.move a).about x, t.work.drives? = some x)
    {ms : List Move} (hms : Undisturbed x (m.move a) ms) :
    let m₁ := m.move a
    let m₂ := m₁.moves ms
    (∃ s₁ s₂, m₁.schedule? x.1 x.2 = some s₁ ∧ m₂.schedule? x.1 x.2 = some s₂ ∧ s₁.Idles s₂) ∧
    (m₂.shouldDrive x.1 x.2 = false ∧ ∀ t ∈ m₂.about x, t.halted = true) ∧
    (∀ g ∈ m₁.about x, ∀ u ∈ m₁.tasks, ∀ d, g.work.runs? = some (x.1, x.2, u.number) →
      u.wait = some (.time d) → m₁.result? u.number = none → m₂.result? u.number = none ∧
        ∀ u' ∈ m₂.tasks, u'.number = u.number →
          u'.work = u.work ∧ (u'.halted = true ∨ u'.wait = some (.time d))) ∧
    (a = .act x.1 (.removeJob x.2) → Idles x m m₁ ∧
      (∀ y ≠ x, m₁.schedule? y.1 y.2 = m.schedule? y.1 y.2 ∧
        m₁.shouldDrive y.1 y.2 = m.shouldDrive y.1 y.2) ∧
      ∀ t ∈ m.tasks, t.work.drives? ≠ some x → ∃ t' ∈ m₁.tasks, Rests m₁ t t') ∧
    ∀ t ∈ m₂.about x, ∀ y ≠ x, Spares y m₂ (m₂.move (.takeUp t.number)) := by
  intro m₁ m₂
  have hsane : Sane m₁ := h.move hfair
  have hsane' : Sane m₂ := hsane.moves hms.isFair
  have hhalted : ∀ t ∈ m₁.about x, t.halted = true := by
    intro t ht
    refine hsane.stopped t (mem_about.mp ht).1 ?_
    simp [isStale, hclock t ht, m₁, shouldDrive_of_removes hm hfair ha]
  have hretired : Retired x m₁ :=
    ⟨isSome_schedule?_of_removes hm hfair ha, shouldDrive_of_removes hm hfair ha, hhalted⟩
  obtain ⟨hretired', hidles⟩ := hretired.moves hsane hms
  refine ⟨?_, ⟨hretired'.unregistered, hretired'.halted⟩, ?_, ?_, ?_⟩
  · obtain ⟨s₁, hs₁⟩ := Option.isSome_iff_exists.mp hretired.made
    obtain ⟨s₂, hs₂, hsame⟩ := hidles s₁ hs₁
    exact ⟨s₁, s₂, hs₁, hs₂, hsame⟩
  · intro g hg u hu d hruns hwait hnone
    -- The task that waits for the body drives the schedule, so it was told to stop.
    have hdoomed : Doomed u.number u.work d m₁ := by
      refine ⟨hsane.tidy.fresh u hu, hnone, fun t ht hnumber => ?_, .inr ?_⟩
      · obtain rfl := hsane.tidy.eq_of_number ht hu hnumber
        exact ⟨rfl, .inr hwait⟩
      · exact ⟨hsane.timely.time u hu d hwait, g, (mem_about.mp hg).1, hhalted g hg, _, hruns, rfl⟩
    have hdoomed' := hdoomed.moves hsane hms.isFair
    exact ⟨hdoomed'.unfinished, hdoomed'.stays⟩
  · rintro rfl
    refine ⟨(spares_move h hfair trivial).idles, fun y hy => other_removeJob hm hy, ?_⟩
    exact fun t ht hdrives => rests_removeJob h hm ht hdrives
  · intro t ht y hy
    obtain ⟨ht, hsubject⟩ := mem_about.mp ht
    refine spares_move hsane' trivial fun u hu hnumber hother => ?_
    rw [hsane'.tidy.eq_of_number hu ht hnumber, hsubject] at hother
    exact hy (Option.some.inj hother).symm

/-- A job whose runs take a tenth of its period. -/
def lengthyJob (longRunning : Bool) : Job where
  name := "report"
  timer := .every 1000
  body := .host 0 ⟨fun _ => false, fun _ => ⟨100, .ok⟩⟩
  longRunning

/-- A node that is driven by the clock. -/
def plainNode : Blueprint where
  name := "billing"
  service := some "a"
  link := some .bus

/-- The first run of the job is under way on that node. -/
def midRun (longRunning : Bool) (n : Node) : Mesh :=
  (connectAll [n]).1.moves (.act 0 (.addJob (lengthyJob longRunning)) ::
    if longRunning then [.takeUp 0, .takeUp 1, .takeUp 2] else [.takeUp 0, .takeUp 1])

/-- A run that the clock waits for is dropped with its body. -/
theorem dropped_mid_run :
    ∃ n, plainNode.build { scope := 0 } 0 = .ok n ∧
      let m₁ := (midRun false n).move (.act 0 (.removeJob 0))
      let m₂ := m₁.moves [.takeUp 0, .takeUp 1, .wait 5000]
      (∃ s₁ s₂, m₁.schedule? 0 0 = some s₁ ∧ s₁.active = true ∧ m₂.schedule? 0 0 = some s₂ ∧
        s₁.Idles s₂) ∧ m₂.result? 1 = none ∧ m₂.tasks = [] := by
  have hmid : (plainNode.build { scope := 0 } 0).toOption.any (fun n =>
      let m₁ := (midRun false n).move (.act 0 (.removeJob 0))
      (midRun false n).nodes[0]?.any (fun n => (n.roster.removeJob 0).isSome) &&
        (m₁.about (0, 0)).all (fun t => t.work.drives? == some (0, 0)) &&
        (m₁.about (0, 0)).any (fun t => t.work.runs? == some (0, 0, 1)) &&
        m₁.tasks.any (fun t => t.number == 1 && t.wait.any (·.ctorIdx == 0)) &&
        (m₁.result? 1).isNone && (m₁.schedule? 0 0).any (·.active) &&
        (m₁.moves [.takeUp 0, .takeUp 1, .wait 5000]).tasks.isEmpty) = true := by
    decide +kernel
  simp only [Option.any_eq_true, Bool.and_eq_true, List.all_eq_true, List.any_eq_true, beq_iff_eq,
    Option.isNone_iff_eq_none, List.isEmpty_iff] at hmid
  obtain ⟨n, hbuilt, ⟨⟨⟨⟨⟨⟨n₀, hn₀, hremoved⟩, hclock⟩, g, hg, hruns⟩, u, hu, hnumber, hwait⟩,
    hnone⟩, s, hs, hactive⟩, hempty⟩ := hmid
  have hbuilt := ok_of_toOption hbuilt
  refine ⟨n, hbuilt, ?_⟩
  obtain ⟨hnew, -⟩ := Blueprint.isNew_of_build hbuilt
  have hfair : ∀ a ∈ Move.act 0 (.addJob (lengthyJob false)) :: [.takeUp 0, .takeUp 1],
      a.IsFair := by simp [Move.IsFair]
  have hsane : Sane (midRun false n) := (sane_connectAll [n]).moves hfair
  have horderly : (midRun false n).Orderly :=
    orderly_moves (by simpa [Orderly, connectAll] using ⟨hnew.settled, hnew.inStep⟩) hfair
  have hundisturbed : Undisturbed (0, 0) ((midRun false n).move (.act 0 (.removeJob 0)))
      [.takeUp 0, .takeUp 1, .wait 5000] := undisturbed_of_isOwn (by decide) _
  obtain ⟨⟨s₁, s₂, hs₁, hs₂, hidles⟩, -, hbodies, -⟩ := removed_schedule_stops hsane horderly
    (a := .act 0 (.removeJob 0)) trivial (.byHost (x := (0, 0)) hn₀ hremoved) hclock
    hundisturbed
  obtain rfl := Option.some.inj (hs.symm.trans hs₁)
  obtain ⟨number, work, wait, kept, halted⟩ := u
  obtain rfl : number = 1 := hnumber
  obtain ⟨d, rfl⟩ : ∃ d, wait = some (.time d) := by
    obtain ⟨w, rfl, hindex⟩ := hwait
    cases w with
    | time d => exact ⟨d, rfl⟩
    | result | message | loopback | outcome | timeOr => simp [Wait.ctorIdx] at hindex
  exact ⟨⟨s, s₂, hs₁, hactive, hs₂, hidles⟩, (hbodies g hg _ hu d hruns rfl hnone).1, hempty⟩

/-- A run that is a task of its own goes on when its schedule is removed, and is counted. -/
theorem long_run_goes_on :
    ∃ n, plainNode.build { scope := 0 } 0 = .ok n ∧
      let m := midRun true n
      let m₁ := m.move (.act 0 (.removeJob 0))
      let m₂ := m₁.moves [.takeUp 0, .wait 100, .takeUp 2, .takeUp 1]
      (∃ n₀, m.nodes[0]? = some n₀ ∧ (n₀.roster.removeJob 0).isSome = true) ∧
        (m₁.schedule? 0 0).map (fun s => (s.active, s.executions)) = some (true, 0) ∧
        (m₂.schedule? 0 0).map (fun s => (s.active, s.executions)) = some (false, 1) := by
  have hmid : (plainNode.build { scope := 0 } 0).toOption.any (fun n =>
      let m := midRun true n
      let m₁ := m.move (.act 0 (.removeJob 0))
      let m₂ := m₁.moves [.takeUp 0, .wait 100, .takeUp 2, .takeUp 1]
      m.nodes[0]?.any (fun n => (n.roster.removeJob 0).isSome) &&
        (m₁.schedule? 0 0).map (fun s => (s.active, s.executions)) == some (true, 0) &&
        (m₂.schedule? 0 0).map (fun s => (s.active, s.executions)) == some (false, 1)) = true := by
    decide +kernel
  simp only [Option.any_eq_true, Bool.and_eq_true, beq_iff_eq] at hmid
  obtain ⟨n, hbuilt, ⟨hremoved, hbefore⟩, hafter⟩ := hmid
  exact ⟨n, ok_of_toOption hbuilt, hremoved, hbefore, hafter⟩

end Mesh

end CommandMesh
