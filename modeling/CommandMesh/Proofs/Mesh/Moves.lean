import CommandMesh.Mesh.Run
import CommandMesh.Proofs.Mesh.Errands
import Mathlib.Data.List.Induction
import Mathlib.Data.List.Nodup

/-!
# `CommandMesh.Proofs.Mesh.Moves`: a mesh whose tasks are taken up in any order

A `Mesh.Move` is one thing that may happen to a mesh: a task that is queued is taken up, whichever
it is; time passes, but not while a task is queued and not beyond the end of a wait; a host does
something; or something changes on the bus. What `Mesh.runWith` does is moves, but moves leave open
which of the queued tasks goes first.

What is assumed of time is that it stands still while there is something to do, and that it does not
jump over the end of a wait. So a task is taken up at the very instant at which its wait ends, or at
an instant at which others were busy; it is never late by itself. Nothing is assumed of the order of
the queue, and nothing of hosts: they may do anything at any instant, and as often as they like,
with two exceptions. A fair move (`Move.IsFair`) does not change a timetable behind the back of the
mesh, and starts no task that drives a schedule or waits for a run; the mesh alone does that.

The invariant is `Sane`. It says that a task waits exactly while it is not queued, that no task
misses the end of its wait, that a task which drives a schedule that is not registered any more was
told to stop, and that the task of a body belongs to one run. The difficulty is `settle`, which
brings the mesh in line after each move in four passes; `tasks_settle` says once what the passes do
to the tasks together, so that nobody has to take them apart again.

* `moves_runWith`: what a mesh does by itself is moves.
* `tasks_settle`, `mem_tasks_settle`: what becomes of the tasks when the mesh is brought in line.
* `Sane.move`, `Sane.moves`: whatever fair moves happen to a sane mesh, it stays sane.
* `sane_connectAll`: a mesh that was just put together is sane.
-/

set_option autoImplicit false

namespace CommandMesh

namespace Task

/-- What becomes of a task when such tasks are queued. -/
def roused (p : Task → Bool) (halts : Bool) (t : Task) : Task :=
  if p t then { t with wait := none, halted := t.halted || halts } else t

variable {p : Task → Bool} {halts : Bool} {t : Task}

/-- A task keeps its number when it is queued. -/
@[simp] theorem number_roused : (t.roused p halts).number = t.number := by
  unfold roused
  split <;> rfl

/-- A task keeps its work when it is queued. -/
@[simp] theorem work_roused : (t.roused p halts).work = t.work := by
  unfold roused
  split <;> rfl

/-- A task waits no more if it did not wait before, or if it is one of those that are queued. -/
theorem wait_roused : (t.roused p halts).wait = none ↔ t.wait = none ∨ p t = true := by
  unfold roused
  split <;> simp_all

/-- A task was told to stop before, or it is one of those that are told now. -/
theorem halted_roused :
    (t.roused p halts).halted = true ↔ t.halted = true ∨ p t = true ∧ halts = true := by
  unfold roused
  split <;> simp_all

end Task

namespace Mesh

/-- Something that may happen to a mesh. -/
inductive Move where
  /-- A queued task is taken up. -/
  | takeUp (number : Nat)
  /-- Time passes. -/
  | wait (t : Instant)
  /-- A node does something for its host. -/
  | act (i : Nat) (a : Activity)
  /-- A host starts a task. -/
  | launch (w : Work) (kept : Bool)
  /-- A host drops a task. -/
  | drop (task : Nat)
  /-- A host cancels a token. -/
  | cancel (token : Nat)
  /-- A host makes a random choice. -/
  | choose
  /-- A host connects to the bus or disconnects from it, or takes what it has received. -/
  | rewire (bus : Bus)
  /-- A host takes a result. -/
  | forget (task : Nat)

/-- What a move does. -/
def move (m : Mesh) : Move → Mesh
  | .takeUp number => if number ∈ m.queue then m.takeUp number else m
  | .wait t => if m.queue = [] ∧ ∀ d ∈ m.nextDeadline?, t ≤ d then m.moveTo t else m
  | .act i a => (m.act i .nothing fun n => n.perform a).1
  | .launch w kept => (m.spawn w kept).1
  | .drop task => m.drop task
  | .cancel token => m.cancel token
  | .choose => m.choose.1
  | .rewire bus => { m with bus }
  | .forget task => m.forget task

/-- Moves in turn. -/
def moves (m : Mesh) (ms : List Move) : Mesh := ms.foldl move m

/-- Nobody but the mesh drives a schedule or waits for a run that has begun. -/
def Move.IsFair : Move → Prop
  | .act _ (.drive _) => False
  | .launch w _ => w.drives? = none ∧ w.runs? = none
  | _ => True

/-- Whether the mesh makes the move by itself. -/
def Move.isOwn : Move → Bool
  | .takeUp _ | .wait _ => true
  | _ => false

variable {m m' : Mesh} {w : Work} {hand : Option Nat}

/-- Moves with one more at the end are that one after the others. -/
theorem moves_append_singleton (m : Mesh) (ms : List Move) (a : Move) :
    m.moves (ms ++ [a]) = (m.moves ms).move a := by
  simp [moves]

/-- What a node does for its host changes the node, and then the mesh is brought in line. -/
theorem move_act (m : Mesh) (i : Nat) (a : Activity) :
    m.move (.act i a) = (m.updateNode i fun n => (n.perform a).1).settle := by
  simp only [move, Mesh.act, fst_onNode]

/-- What the mesh does by itself is fair. -/
theorem Move.isFair_of_isOwn {a : Move} (h : a.isOwn = true) : a.IsFair := by
  cases a with
  | takeUp | wait => trivial
  | act | launch | drop | cancel | choose | rewire | forget => cases h

/-- A step takes a queued task up. -/
theorem step_eq_some {m' : Mesh} (h : m.step? = some m') :
    ∃ number, m' = m.move (.takeUp number) := by
  unfold step? at h
  obtain ⟨number, hhead, rfl⟩ := Option.map_eq_some_iff.mp h
  exact ⟨number, (if_pos (List.mem_of_mem_head? hhead)).symm⟩

/-- There is no step only if nothing is queued. -/
theorem queue_of_step_eq_none (h : m.step? = none) : m.queue = [] := by
  unfold step? at h
  exact List.head?_eq_none_iff.mp (Option.map_eq_none_iff.mp h)

/-- What a mesh does by itself is moves. -/
theorem moves_runWith (stop : Mesh → Bool) (limit : Instant) (fuel : Nat) (m : Mesh) :
    ∃ ms : List Move, (∀ a ∈ ms, a.isOwn = true) ∧ runWith stop limit fuel m = m.moves ms := by
  -- The induction is on the fuel: one step is one move, and the rest of the run follows it.
  induction fuel generalizing m with
  | zero => exact ⟨[], by simp, rfl⟩
  | succ fuel ih =>
    have hlast {a : Move} (ha : a.isOwn = true) :
        ∃ ms : List Move, (∀ a ∈ ms, a.isOwn = true) ∧ m.move a = m.moves ms :=
      ⟨[a], by simpa using ha, rfl⟩
    have hmore {a : Move} (ha : a.isOwn = true) : ∃ ms : List Move,
        (∀ a ∈ ms, a.isOwn = true) ∧ runWith stop limit fuel (m.move a) = m.moves ms := by
      obtain ⟨ms, hms, hrun⟩ := ih (m.move a)
      exact ⟨a :: ms, by simpa using ⟨ha, hms⟩, hrun⟩
    -- Either the run is to end here, or a task is queued, or time passes to the next end of a wait
    -- or to the limit.
    unfold runWith
    split
    · exact ⟨[], by simp, rfl⟩
    · split
      · next m' hstep =>
        obtain ⟨number, rfl⟩ := step_eq_some hstep
        exact hmore rfl
      · next hstep =>
        have hqueue := queue_of_step_eq_none hstep
        have hwait {t : Instant} (ht : ∀ d ∈ m.nextDeadline?, t ≤ d) :
            m.moveTo t = m.move (.wait t) := (if_pos ⟨hqueue, ht⟩).symm
        split
        · next t hnext =>
          have hnow : ∀ d ∈ m.nextDeadline?, t ≤ d := by simp [hnext]
          split
          · rw [hwait hnow]
            exact hmore rfl
          · next hbeyond =>
            have hlimit : ∀ d ∈ m.nextDeadline?, limit ≤ d := by
              simpa [hnext] using Nat.le_of_not_le hbeyond
            rw [hwait hlimit]
            exact hlast rfl
        · next hnext =>
          rw [hwait (by simp [hnext])]
          exact hlast rfl

/-! ### Tasks and their queue -/

/-- Tasks have numbers of their own, and a task waits unless it is queued or in hand. A task that
was told to stop is queued. -/
structure Tidy (m : Mesh) (hand : Option Nat) : Prop where
  numbers : (m.tasks.map (·.number)).Nodup
  fresh : ∀ t ∈ m.tasks, t.number < m.next
  once : m.queue.Nodup
  bounded : ∀ k ∈ m.queue, k < m.next
  queued : ∀ t ∈ m.tasks, t.wait = none ↔ t.number ∈ m.queue ∨ t.number ∈ hand
  halted : ∀ t ∈ m.tasks, t.halted = true → t.number ∈ m.queue
  held : ∀ k ∈ hand, k < m.next ∧ k ∉ m.queue

/-- Tasks are told apart by their numbers. -/
theorem Tidy.eq_of_number (h : Tidy m hand) {t u : Task} (ht : t ∈ m.tasks) (hu : u ∈ m.tasks)
    (hnumber : t.number = u.number) : t = u :=
  List.inj_on_of_nodup_map h.numbers ht hu hnumber

/-- Once nothing is queued, every task waits. -/
theorem Tidy.wait_ne_none (h : Tidy m none) (hidle : m.queue = []) {t : Task} (ht : t ∈ m.tasks) :
    t.wait ≠ none := by
  intro hnone
  have hqueued := (h.queued t ht).mp hnone
  simp [hidle] at hqueued

/-- Whether the tasks are tidy depends on the tasks, the queue and the next number alone. -/
theorem Tidy.congr (h : Tidy m hand) (htasks : m'.tasks = m.tasks) (hqueue : m'.queue = m.queue)
    (hnext : m'.next = m.next) : Tidy m' hand := by
  constructor
  case numbers => rw [htasks]; exact h.numbers
  case fresh => rw [htasks, hnext]; exact h.fresh
  case once => rw [hqueue]; exact h.once
  case bounded => rw [hqueue, hnext]; exact h.bounded
  case queued => rw [htasks, hqueue]; exact h.queued
  case halted => rw [htasks, hqueue]; exact h.halted
  case held => rw [hqueue, hnext]; exact h.held

/-- A task that is started is queued under a number of its own. -/
theorem Tidy.spawn (h : Tidy m hand) (w : Work) (kept : Bool) : Tidy (m.spawn w kept).1 hand := by
  have hold {t : Task} (ht : t ∈ m.tasks) : t.number ≠ m.next := Nat.ne_of_lt (h.fresh t ht)
  have hunqueued : m.next ∉ m.queue := fun hk => Nat.lt_irrefl _ (h.bounded _ hk)
  constructor
  case numbers =>
    rw [Mesh.spawn, List.map_append, List.nodup_append]
    refine ⟨h.numbers, List.nodup_singleton _, fun k hk l hl => ?_⟩
    obtain ⟨t, ht, rfl⟩ := List.mem_map.mp hk
    rw [List.mem_singleton.mp hl]
    exact hold ht
  case once =>
    refine List.nodup_append.mpr ⟨h.once, List.nodup_singleton _, fun k hk l hl => ?_⟩
    rw [List.mem_singleton.mp hl]
    exact Nat.ne_of_lt (h.bounded k hk)
  case bounded =>
    intro k hk
    rcases List.mem_append.mp hk with hk | hk
    · exact Nat.lt_succ_of_lt (h.bounded k hk)
    · exact List.mem_singleton.mp hk ▸ Nat.lt_succ_self _
  case held =>
    intro k hk
    refine ⟨Nat.lt_succ_of_lt (h.held k hk).1, fun hin => ?_⟩
    rcases List.mem_append.mp hin with hin | hin
    · exact (h.held k hk).2 hin
    · exact Nat.ne_of_lt (h.held k hk).1 (List.mem_singleton.mp hin)
  -- The other conditions hold of a task that was there before, and of the new one.
  all_goals
    intro t ht
    rcases List.mem_append.mp ht with ht | ht
  case fresh.inl => exact Nat.lt_succ_of_lt (h.fresh t ht)
  case fresh.inr => exact List.mem_singleton.mp ht ▸ Nat.lt_succ_self _
  case queued.inl =>
    rw [h.queued t ht, Mesh.spawn, List.mem_append, List.mem_singleton, or_iff_left (hold ht)]
  case queued.inr =>
    obtain rfl := List.mem_singleton.mp ht
    simp [Mesh.spawn]
  case halted.inl => exact fun hhalted => List.mem_append_left _ (h.halted t ht hhalted)
  case halted.inr =>
    obtain rfl := List.mem_singleton.mp ht
    exact fun hhalted => nomatch hhalted

/-- Errands keep the tasks tidy. -/
theorem Tidy.errands (h : Tidy m hand) (he : Errands w m m') : Tidy m' hand :=
  he.keeps (P := (Tidy · hand)) h (fun w' kept _ _ h => h.spawn w' kept)
    fun hboard h => h.congr hboard.tasks hboard.queue hboard.next

/-- To queue tasks rouses each of them, or leaves it as it is. -/
theorem tasks_rouse (m : Mesh) (p : Task → Bool) (halts : Bool) :
    (m.rouse p halts).tasks = m.tasks.map (Task.roused p halts) := rfl

/-- A task is queued afterwards if it was so before, or if it waited and is one of those. -/
theorem mem_queue_rouse (h : Tidy m hand) (p : Task → Bool) (halts : Bool) {t : Task}
    (ht : t ∈ m.tasks) :
    t.number ∈ (m.rouse p halts).queue ↔
      t.number ∈ m.queue ∨ t.wait.isSome = true ∧ p t = true := by
  show t.number ∈ m.queue ++ _ ↔ _
  rw [List.mem_append, List.mem_map]
  refine or_congr_right ⟨?_, fun hp => ⟨t, List.mem_filter.mpr ⟨ht, by simpa using hp⟩, rfl⟩⟩
  rintro ⟨u, hu, hnumber⟩
  obtain ⟨hu, hp⟩ := List.mem_filter.mp hu
  rw [h.eq_of_number hu ht hnumber] at hp
  simpa using hp

/-- Tasks that wait no more are queued. -/
theorem Tidy.rouse (h : Tidy m none) (p : Task → Bool) (halts : Bool) :
    Tidy (m.rouse p halts) none := by
  have hqueued {t : Task} (ht : t ∈ m.tasks) : t.wait = none ↔ t.number ∈ m.queue := by
    simpa using h.queued t ht
  -- Only tasks that waited are queued, so none of them is queued twice.
  have hroused {k : Nat} (hk : k ∈ (m.tasks.filter fun t => t.wait.isSome && p t).map (·.number)) :
      k < m.next ∧ k ∉ m.queue := by
    obtain ⟨t, ht, rfl⟩ := List.mem_map.mp hk
    obtain ⟨ht, hp⟩ := List.mem_filter.mp ht
    refine ⟨h.fresh t ht, fun hin => ?_⟩
    rw [(hqueued ht).mpr hin] at hp
    cases hp
  constructor
  case numbers =>
    rw [tasks_rouse, List.map_map]
    exact (List.map_congr_left fun _ _ => Task.number_roused).symm ▸ h.numbers
  case once =>
    refine List.nodup_append.mpr ⟨h.once, h.numbers.sublist (List.filter_sublist.map _), ?_⟩
    rintro k hk l hl rfl
    exact (hroused hl).2 hk
  case bounded =>
    intro k hk
    rcases List.mem_append.mp hk with hk | hk
    · exact h.bounded k hk
    · exact (hroused hk).1
  case held => simp
  all_goals
    intro t ht
    obtain ⟨u, hu, rfl⟩ := List.mem_map.mp ht
    rw [← Task.roused, Task.number_roused]
  case fresh => exact h.fresh u hu
  all_goals rw [mem_queue_rouse h p halts hu]
  case queued =>
    have hsome : u.wait.isSome = true ↔ ¬ u.number ∈ m.queue := by
      rw [← hqueued hu, ← ne_eq, Option.isSome_iff_ne_none]
    rw [Task.wait_roused, hqueued hu, hsome]
    simp only [Option.not_mem_none, or_false]
    tauto
  case halted =>
    rw [Task.halted_roused]
    rintro (hhalted | ⟨hp, -⟩)
    · exact .inl (h.halted u hu hhalted)
    · cases hwait : u.wait with
      | none => exact .inl ((hqueued hu).mp hwait)
      | some w => exact .inr ⟨rfl, hp⟩

/-- A task is dropped. No other task is in hand. -/
theorem Tidy.expel (h : Tidy m hand) {k : Nat} (hhand : ∀ l ∈ hand, l = k) : Tidy
    { m with queue := m.queue.erase k, tasks := m.tasks.filter (·.number != k) } none := by
  have hrest {t : Task} (ht : t ∈ m.tasks.filter (·.number != k)) :
      t ∈ m.tasks ∧ t.number ≠ k := by
    simpa using List.mem_filter.mp ht
  constructor
  case numbers => exact h.numbers.sublist (List.filter_sublist.map _)
  case fresh => exact fun t ht => h.fresh t (hrest ht).1
  case once => exact h.once.erase k
  case bounded => exact fun l hl => h.bounded l (List.mem_of_mem_erase hl)
  case queued =>
    intro t ht
    have hnot : t.number ∉ hand := fun hin => (hrest ht).2 (hhand _ hin)
    rw [h.queued t (hrest ht).1, List.mem_erase_of_ne (hrest ht).2]
    simp [hnot]
  case halted =>
    exact fun t ht hhalted =>
      (List.mem_erase_of_ne (hrest ht).2).mpr (h.halted t (hrest ht).1 hhalted)
  case held => simp

/-- The task in hand ends. -/
theorem Tidy.remove {k : Nat} (h : Tidy m (some k)) :
    Tidy { m with tasks := m.tasks.filter (·.number != k) } none := by
  have hexpelled := h.expel fun l hl => (Option.some.inj hl).symm
  rwa [List.erase_of_not_mem (h.held k rfl).2] at hexpelled

/-- The task in hand goes on or ends. -/
theorem Tidy.note {t : Task} (h : Tidy m (some t.number)) (p : Progress) :
    Tidy (m.note t p) none := by
  cases p with
  | done r => exact h.remove.congr rfl rfl rfl
  | waits w wait =>
    have hnumber (u : Task) :
        (if u.number = t.number then { u with work := w, wait := some wait } else u).number =
          u.number := by
      split <;> rfl
    constructor
    case numbers =>
      show ((m.tasks.map _).map _).Nodup
      rw [List.map_map]
      exact (List.map_congr_left fun u _ => hnumber u).symm ▸ h.numbers
    case once => exact h.once
    case bounded => exact h.bounded
    case held => simp
    all_goals
      intro v hv
      obtain ⟨u, hu, rfl⟩ := List.mem_map.mp hv
      rw [hnumber]
    case fresh => exact h.fresh u hu
    case queued =>
      -- The task in hand was taken from the queue, and waits again.
      by_cases heq : u.number = t.number
      · have hunqueued : u.number ∉ m.queue := heq ▸ (h.held t.number rfl).2
        simp [Mesh.note, heq ▸ hunqueued, heq]
      · rw [if_neg heq, h.queued u hu]
        simp [Mesh.note, Ne.symm heq]
    case halted =>
      intro hhalted
      refine h.halted u hu ?_
      split at hhalted <;> exact hhalted

/-- A task is taken from the queue. -/
theorem Tidy.take (h : Tidy m none) {t : Task} (ht : t ∈ m.tasks) (hqueued : t.number ∈ m.queue)
    (hgoes : t.halted = false) :
    Tidy { m with queue := m.queue.erase t.number } (some t.number) where
  numbers := h.numbers
  fresh := h.fresh
  once := h.once.erase _
  bounded k hk := h.bounded k (List.mem_of_mem_erase hk)
  queued u hu := by
    rw [h.queued u hu, h.once.mem_erase_iff]
    by_cases heq : u.number = t.number
    · simp [heq, hqueued]
    · simp [heq, Ne.symm heq]
  halted u hu hhalted := by
    refine h.once.mem_erase_iff.mpr ⟨fun heq => ?_, h.halted u hu hhalted⟩
    rw [h.eq_of_number hu ht heq, hgoes] at hhalted
    cases hhalted
  held k hk := by
    rw [← Option.some.inj hk]
    exact ⟨h.fresh t ht, fun hin => (h.once.mem_erase_iff.mp hin).1 rfl⟩

/-! ### Bringing everything in line -/

/-- The timetable of a node. -/
def timetable? (m : Mesh) (i : Nat) : Option Timetable := m.nodes[i]?.map (·.roster.timetable)

/-- Whether a schedule should be driven is a matter of the timetable of its node. -/
theorem shouldDrive_eq (m : Mesh) (i n : Nat) : m.shouldDrive i n =
    (m.timetable? i).any fun t => t.scheduler == .timed && t.registered.contains n := by
  rw [timetable?, Option.any_map]
  rfl

/-- With the same timetable the same schedules should be driven. -/
theorem shouldDrive_congr {i : Nat} (h : m'.timetable? i = m.timetable? i) (n : Nat) :
    m'.shouldDrive i n = m.shouldDrive i n := by
  rw [shouldDrive_eq, shouldDrive_eq, h]

/-- A task that was just started. -/
def starting (w : Work) (kept : Bool) (k : Nat) : Task :=
  { number := k, work := w, wait := none, kept }

/-- Tasks that are started in turn come last, in their order, under the next numbers. -/
theorem launchAll_eq (m : Mesh) (ws : List Work) : m.launchAll ws = { m with
    tasks := m.tasks ++ (ws.zipIdx m.next).map fun (w, k) => starting w false k
    queue := m.queue ++ List.range' m.next ws.length
    next := m.next + ws.length } := by
  -- By induction on what is started; each task takes the next number.
  induction ws generalizing m with
  | nil => simp [launchAll]
  | cons w ws ih =>
    rw [show m.launchAll (w :: ws) = (m.launch w).launchAll ws from rfl, ih]
    simp [launch, Mesh.spawn, starting, List.range'_succ, Nat.add_assoc, Nat.add_comm 1]

/-- To start tasks in turn keeps the tasks tidy. -/
theorem Tidy.launchAll (h : Tidy m hand) (ws : List Work) : Tidy (m.launchAll ws) hand := by
  induction ws generalizing m with
  | nil => exact h
  | cons w ws ih => exact ih (h.spawn w false)

/-- With the same nodes the timetables are the same. -/
theorem timetable?_congr (h : m'.nodes = m.nodes) (i : Nat) :
    m'.timetable? i = m.timetable? i := by
  rw [timetable?, h, timetable?]

/-- To hand messages to the bus leaves the timetables alone. -/
theorem timetable?_flush (m : Mesh) (i : Nat) : m.flush.timetable? i = m.timetable? i := by
  simp only [timetable?, flush, List.getElem?_map, Option.map_map]
  rfl

/-- To start tasks for messages inside nodes leaves the nodes alone. -/
theorem nodes_startPumping (m : Mesh) : m.startPumping.nodes = m.nodes := by
  rw [startPumping, launchAll_eq]

/-- To start tasks for schedules leaves the nodes alone. -/
theorem nodes_startDriving (m : Mesh) : m.startDriving.nodes = m.nodes := by
  rw [startDriving, launchAll_eq]

/-- To bring a mesh in line changes nodes only in that their messages were handed to the bus. -/
theorem nodes_settle (m : Mesh) : m.settle.nodes = m.flush.nodes := by
  rw [show m.settle.nodes = m.flush.stopDriving.startPumping.startDriving.nodes from rfl,
    nodes_startDriving, nodes_startPumping]
  rfl

/-- To bring a mesh in line leaves the timetables alone. -/
@[simp] theorem timetable?_settle (m : Mesh) (i : Nat) : m.settle.timetable? i = m.timetable? i :=
  (timetable?_congr m.nodes_settle i).trans (m.timetable?_flush i)

/-- To bring a mesh in line takes no time. -/
@[simp] theorem now_settle (m : Mesh) : m.settle.now = m.now := by
  simp only [settle, wake, rouse, startDriving, startPumping, launchAll_eq, stopDriving, halt,
    flush]

/-- Which waits are over does not change when tasks are queued. -/
theorem isOver_rouse (m : Mesh) (p : Task → Bool) (halts : Bool) (w : Wait) :
    (m.rouse p halts).isOver w = m.isOver w := by
  cases w <;> rfl

/-- The schedules that start to be driven are registered, and were never driven. -/
theorem mem_undriven {x : Nat × Nat} :
    x ∈ m.undriven ↔ m.shouldDrive x.1 x.2 = true ∧ x ∉ m.driven := by
  unfold undriven
  simp only [List.mem_flatMap, Prod.exists, List.mem_zipIdx_iff_getElem?, shouldDrive_eq,
    timetable?, Option.any_map, Option.any_eq_true]
  constructor
  · rintro ⟨node, i, hnode, hx⟩
    split at hx
    · next htimed =>
      simp only [List.mem_filter, List.mem_map, Bool.not_eq_true', List.contains_eq_mem,
        decide_eq_false_iff_not] at hx
      obtain ⟨⟨n, hn, rfl⟩, hnever⟩ := hx
      exact ⟨⟨node, hnode, by simp [htimed, hn]⟩, hnever⟩
    · cases hx
  · rintro ⟨⟨node, hnode, hregistered⟩, hnever⟩
    simp only [Bool.and_eq_true, beq_iff_eq, List.contains_eq_mem,
      decide_eq_true_eq] at hregistered
    refine ⟨node, x.1, hnode, ?_⟩
    rw [if_pos hregistered.1]
    exact List.mem_filter.mpr ⟨List.mem_map.mpr ⟨x.2, hregistered.2, rfl⟩, by simpa using hnever⟩

/-- Which schedules are yet to be driven depends on the timetables, and on what was driven before.
-/
theorem undriven_congr (htimetables : ∀ i, m'.timetable? i = m.timetable? i)
    (hdriven : m'.driven = m.driven) : m'.undriven = m.undriven := by
  -- What is not driven yet depends on the timetables only, and not on the rest of the nodes.
  have hnodes : m'.nodes.map (·.roster.timetable) = m.nodes.map (·.roster.timetable) :=
    List.ext_getElem? fun i => by
      rw [List.getElem?_map, List.getElem?_map]
      exact htimetables i
  have hundriven (m : Mesh) : m.undriven =
      (m.nodes.map (·.roster.timetable)).zipIdx.flatMap fun entry =>
        if entry.1.scheduler = .timed then
          (entry.1.registered.map fun n => (entry.2, n)).filter (!m.driven.contains ·)
        else [] := by
    rw [List.zipIdx_map, List.flatMap_map]
    rfl
  rw [hundriven, hundriven, hnodes, hdriven]

/-- Whether a task drives a schedule that is not registered any more. -/
def isStale (m : Mesh) (t : Task) : Bool := t.work.drives?.any fun (i, n) => !m.shouldDrive i n

/-- Whether the wait of a task is over. -/
def isDue (m : Mesh) (t : Task) : Bool := t.wait.any m.isOver

/-- To wake tasks rouses those whose wait is over, and stops none. -/
theorem tasks_wake (m : Mesh) : m.wake.tasks = m.tasks.map (Task.roused m.isDue false) := rfl

/-- The tasks that are started to bring a mesh in line, in their order. -/
def novelties (m : Mesh) : List Work :=
  m.flush.stopDriving.unpumped.map .pump ++ m.undriven.map fun x => .drive x.1 x.2

/-- Which schedules are yet to be driven is not changed by what comes before in the same pass. -/
theorem undriven_startPumping (m : Mesh) :
    m.flush.stopDriving.startPumping.undriven = m.undriven :=
  undriven_congr
    (fun i => (timetable?_congr m.flush.stopDriving.nodes_startPumping i).trans
      (m.timetable?_flush i))
    (by rw [startPumping, launchAll_eq]; rfl)

/-- Tasks stay under way. Some are told to stop, some are started, and some are queued. -/
theorem tasks_settle (m : Mesh) : m.settle.tasks =
    (m.tasks.map (Task.roused m.isStale true) ++
      (m.novelties.zipIdx m.next).map fun (w, k) => starting w false k).map
        (Task.roused m.settle.isDue false) := by
  have hstale : m.flush.isStale = m.isStale := by
    funext t
    simp only [isStale, shouldDrive_congr (m.timetable?_flush _)]
  -- Waking tasks comes last, and makes no other wait end.
  have hdue : m.flush.stopDriving.startPumping.startDriving.isDue = m.settle.isDue := by
    funext t
    exact congrArg t.wait.any (funext fun w => (isOver_rouse _ _ _ w).symm)
  let stopped := m.flush.stopDriving
  have hstopped : stopped.tasks = m.tasks.map (Task.roused m.isStale true) := by rw [← hstale]; rfl
  have hpumping : stopped.startPumping.tasks = stopped.tasks ++
      ((stopped.unpumped.map Work.pump).zipIdx m.next).map fun (w, k) => starting w false k := by
    rw [startPumping, launchAll_eq]
    rfl
  have hnext : stopped.startPumping.next = m.next + (stopped.unpumped.map Work.pump).length := by
    rw [startPumping, launchAll_eq]
    rfl
  show stopped.startPumping.startDriving.tasks.map
    (Task.roused stopped.startPumping.startDriving.isDue false) = _
  rw [hdue, startDriving, launchAll_eq, undriven_startPumping, hnext, hpumping, hstopped]
  simp only [novelties, List.zipIdx_append, List.map_append, List.append_assoc]
  rfl

/-- A task was under way before a mesh was brought in line, or it has just been started to take up
messages inside a node or to drive a schedule that is newly registered. -/
theorem mem_tasks_settle {t : Task} (h : t ∈ m.settle.tasks) :
    (∃ u ∈ m.tasks, t = (u.roused m.isStale true).roused m.settle.isDue false) ∨
      ∃ k w, m.next ≤ k ∧ ((∃ i, w = .pump i) ∨ ∃ x ∈ m.undriven, w = .drive x.1 x.2) ∧
        t = (starting w false k).roused m.settle.isDue false := by
  rw [tasks_settle] at h
  obtain ⟨u, hu, rfl⟩ := List.mem_map.mp h
  -- The old tasks come first, and after them those that were just started.
  rcases List.mem_append.mp hu with hu | hu
  · obtain ⟨v, hv, rfl⟩ := List.mem_map.mp hu
    exact .inl ⟨v, hv, rfl⟩
  · obtain ⟨⟨w, k⟩, hw, rfl⟩ := List.mem_map.mp hu
    refine .inr ⟨k, w, (List.mem_zipIdx hw).1, ?_, rfl⟩
    rcases List.mem_append.mp (List.fst_mem_of_mem_zipIdx hw) with hmem | hmem
    · obtain ⟨i, -, rfl⟩ := List.mem_map.mp hmem
      exact .inl ⟨i, rfl⟩
    · obtain ⟨x, hx, rfl⟩ := List.mem_map.mp hmem
      exact .inr ⟨x, hx, rfl⟩

/-- To start tasks for messages inside nodes keeps the tasks tidy. -/
theorem Tidy.startPumping (h : Tidy m hand) : Tidy m.startPumping hand :=
  (h.launchAll (m.unpumped.map .pump)).congr rfl rfl rfl

/-- To start tasks for schedules keeps the tasks tidy. -/
theorem Tidy.startDriving (h : Tidy m hand) : Tidy m.startDriving hand :=
  (h.launchAll (m.undriven.map fun x => .drive x.1 x.2)).congr rfl rfl rfl

/-- Bringing a mesh in line keeps its tasks tidy. -/
theorem Tidy.settle (h : Tidy m none) : Tidy m.settle none := by
  have hflushed : Tidy m.flush none := h.congr rfl rfl rfl
  have hstopped : Tidy m.flush.stopDriving none := hflushed.rouse _ true
  exact hstopped.startPumping.startDriving.rouse _ false

/-! ### What every move keeps -/

/-- No task misses the time or the result that it waits for. -/
structure Timely (m : Mesh) : Prop where
  time : ∀ t ∈ m.tasks, ∀ u, t.wait = some (.time u) → m.now < u
  result : ∀ t ∈ m.tasks, ∀ k, t.wait = some (.result k) → m.result? k = none

/-- Tasks that drive schedules which are not registered any more were told to stop. -/
def Stopped (m : Mesh) : Prop := ∀ t ∈ m.tasks, m.isStale t = true → t.halted = true

/-- What a task takes for the task of a body is not about any schedule, whether it has ended or
not. -/
def Owned (m : Mesh) : Prop := ∀ t ∈ m.tasks, ∀ run, t.work.runs? = some run →
  run.2.2 < m.next ∧ ∀ u ∈ m.tasks, u.number = run.2.2 → u.work.subject? = none

/-- A mesh whose tasks are tidy and in line with what is registered. -/
structure Sane (m : Mesh) : Prop where
  tidy : Tidy m none
  timely : Timely m
  stopped : Stopped m
  owned : Owned m

/-- Once tasks were woken, no wait is over that a task is still in. -/
theorem timely_wake (m : Mesh) : Timely m.wake := by
  -- Whatever still waits was not due when tasks were woken.
  have hopen {t : Task} (ht : t ∈ m.wake.tasks) {w : Wait} (hwait : t.wait = some w) :
      m.isOver w = false := by
    rw [tasks_wake] at ht
    obtain ⟨v, hv, rfl⟩ := List.mem_map.mp ht
    unfold Task.roused at hwait
    split at hwait
    · cases hwait
    · next hdue => simpa [isDue, hwait] using hdue
  constructor
  case time =>
    intro t ht u hwait
    show m.now < u
    simpa [isOver] using hopen ht hwait
  case result =>
    intro t ht k hwait
    show m.result? k = none
    simpa [isOver] using hopen ht hwait

/-- Whether a task drives a schedule that is gone depends on its work alone. -/
theorem isStale_roused (p : Task → Bool) (halts : Bool) (t : Task) :
    m.isStale (t.roused p halts) = m.isStale t := by
  rw [isStale, Task.work_roused, isStale]

/-- Whether a task drives a schedule that is gone depends on the timetables alone. -/
theorem isStale_congr (h : ∀ i, m'.timetable? i = m.timetable? i) (t : Task) :
    m'.isStale t = m.isStale t := by
  simp only [isStale, shouldDrive_congr (h _)]

/-- Once a mesh was brought in line, every task that drives a schedule which is gone was told to
stop. -/
theorem stopped_settle (m : Mesh) : Stopped m.settle := by
  intro t ht hstale
  rw [isStale_congr m.timetable?_settle] at hstale
  -- A task was there before and is told now, or it is new and drives nothing that is gone.
  rcases mem_tasks_settle ht with ⟨u, -, rfl⟩ | ⟨k, w, -, ⟨i, rfl⟩ | ⟨x, hx, rfl⟩, rfl⟩
  · rw [isStale_roused, isStale_roused] at hstale
    exact Task.halted_roused.mpr (.inl (Task.halted_roused.mpr (.inr ⟨hstale, rfl⟩)))
  · rw [isStale_roused] at hstale
    cases hstale
  · -- What is driven from now on is registered.
    rw [isStale_roused] at hstale
    have hunregistered : (!m.shouldDrive x.1 x.2) = true := hstale
    rw [(mem_undriven.mp hx).1] at hunregistered
    cases hunregistered

/-- Tasks stay under way with work about the same, or they are new and wait for no run. -/
theorem Owned.of_mem (h : Owned m) (hnext : m.next ≤ m'.next)
    (hmem : ∀ t' ∈ m'.tasks, (∃ t ∈ m.tasks, t'.number = t.number ∧ t'.work = t.work) ∨
      m.next ≤ t'.number ∧ t'.work.runs? = none) : Owned m' := by
  -- A new task has a number that no run that is waited for can have.
  intro t' ht' run hrun
  rcases hmem t' ht' with ⟨t, ht, -, hwork⟩ | ⟨-, hnone⟩
  · obtain ⟨hbound, hbody⟩ := h t ht run (hwork ▸ hrun)
    refine ⟨Nat.lt_of_lt_of_le hbound hnext, fun u' hu' hnumber => ?_⟩
    rcases hmem u' hu' with ⟨u, hu, hsame, hwork'⟩ | ⟨hnew, -⟩
    · exact hwork' ▸ hbody u hu (hsame.symm.trans hnumber)
    · exact absurd (hnumber ▸ hnew) (Nat.not_le_of_lt hbound)
  · rw [hnone] at hrun
    cases hrun

/-- To start a task that waits for no run takes no body away from its run. -/
theorem Owned.spawn (h : Owned m) {w : Work} (hw : w.runs? = none) (kept : Bool) :
    Owned (m.spawn w kept).1 := by
  refine h.of_mem (Nat.le_succ _) fun t ht => ?_
  rcases List.mem_append.mp ht with ht | ht
  · exact .inl ⟨t, ht, rfl, rfl⟩
  · rw [List.mem_singleton.mp ht]
    exact .inr ⟨Nat.le_refl _, hw⟩

/-- To queue tasks takes no body away from its run. -/
theorem Owned.rouse (h : Owned m) (p : Task → Bool) (halts : Bool) : Owned (m.rouse p halts) := by
  refine h.of_mem (Nat.le_refl _) fun t ht => ?_
  obtain ⟨u, hu, rfl⟩ := List.mem_map.mp ht
  exact .inl ⟨u, hu, Task.number_roused, Task.work_roused⟩

/-- Errands take no body away from its run. -/
theorem Owned.errands (h : Owned m) (he : Errands w m m') : Owned m' := by
  refine he.keeps (P := Owned) h (fun _ kept _ hruns h => h.spawn hruns kept) fun hboard h => ?_
  exact h.of_mem (Nat.le_of_eq hboard.next.symm) fun t ht => .inl ⟨t, hboard.tasks ▸ ht, rfl, rfl⟩

/-- Errands end no task. -/
theorem Errands.mem_tasks (he : Errands w m m') {t : Task} (ht : t ∈ m.tasks) : t ∈ m'.tasks :=
  he.keeps (P := (t ∈ ·.tasks)) ht (fun _ _ _ _ => List.mem_append_left _)
    fun hboard ht => hboard.tasks ▸ ht

/-- A task that goes on is still about the same, and waits for a body that is about nothing. -/
theorem Owned.note (h : Owned m) {t : Task} (htidy : Tidy m hand) (ht : t ∈ m.tasks) {p : Progress}
    (hp : p.GoesOn t.work.subject? t.work.runs? m) : Owned (m.note t p) := by
  cases p with
  | done r =>
    exact h.of_mem (Nat.le_refl _) fun u hu => .inl ⟨u, List.mem_of_mem_filter hu, rfl, rfl⟩
  | waits w wait =>
    obtain ⟨hsubject, hruns⟩ := hp
    -- A run that anybody waits for is one that was waited for before, or was just begun.
    have hbody {u : Task} (hu : u ∈ m.tasks) {run : Nat × Nat × Nat}
        (hrun : (if u.number = t.number then { u with work := w, wait := some wait }
          else u).work.runs? = some run) :
        run.2.2 < m.next ∧ ∀ v ∈ m.tasks, v.number = run.2.2 → v.work.subject? = none := by
      split at hrun
      · rcases hruns run hrun with hsame | ⟨v, hv, hnumber, hnone⟩
        · exact h t ht run hsame
        · refine ⟨hnumber ▸ htidy.fresh v hv, fun v' hv' hnumber' => ?_⟩
          rw [htidy.eq_of_number hv' hv (hnumber'.trans hnumber.symm)]
          exact hnone
      · exact h u hu run hrun
    intro u' hu' run hrun
    obtain ⟨u, hu, rfl⟩ := List.mem_map.mp hu'
    obtain ⟨hbound, hnone⟩ := hbody hu hrun
    refine ⟨hbound, fun v' hv' hnumber => ?_⟩
    obtain ⟨v, hv, rfl⟩ := List.mem_map.mp hv'
    split
    · next heq =>
      rw [if_pos heq] at hnumber
      rw [hsubject, ← htidy.eq_of_number hv ht heq]
      exact hnone v hv hnumber
    · next heq =>
      rw [if_neg heq] at hnumber
      exact hnone v hv hnumber

/-- To bring a mesh in line uses no number twice. -/
theorem next_settle (m : Mesh) : m.next ≤ m.settle.next := by
  simp only [settle, wake, rouse, startDriving, startPumping, launchAll_eq, stopDriving, halt,
    flush, Nat.add_assoc]
  exact Nat.le_add_right _ _

/-- To bring a mesh in line takes no body away from its run. -/
theorem Owned.settle (h : Owned m) : Owned m.settle := by
  refine h.of_mem m.next_settle fun t ht => ?_
  rcases mem_tasks_settle ht with ⟨u, hu, rfl⟩ | ⟨k, w, hk, ⟨i, rfl⟩ | ⟨x, -, rfl⟩, rfl⟩
  · exact .inl ⟨u, hu, by simp, by simp⟩
  · exact .inr ⟨by simpa [starting] using hk, by simp [starting, Work.runs?]⟩
  · exact .inr ⟨by simpa [starting] using hk, by simp [starting, Work.runs?]⟩

/-- A mesh with tidy tasks is sane once it was brought in line. -/
theorem Tidy.sane_settle (h : Tidy m none) (howned : Owned m) : Sane m.settle :=
  ⟨h.settle, timely_wake _, stopped_settle m, howned.settle⟩

/-- To take one result away brings no other. -/
theorem result?_forget (task : Nat) {k : Nat} (h : m.result? k = none) :
    (m.forget task).result? k = none := by
  rw [result?, List.lookup_eq_none_iff] at h ⊢
  exact fun r hr => h r (List.mem_of_mem_filter hr)

/-- Whether a mesh is sane depends on its board, its nodes, the time, and which results are there.
-/
theorem Sane.congr (h : Sane m) (htasks : m'.tasks = m.tasks) (hqueue : m'.queue = m.queue)
    (hnext : m'.next = m.next) (hnow : m'.now = m.now) (hnodes : m'.nodes = m.nodes)
    (hresult : ∀ k, m.result? k = none → m'.result? k = none) : Sane m' where
  tidy := h.tidy.congr htasks hqueue hnext
  timely :=
    ⟨fun t ht u hwait => hnow ▸ h.timely.time t (htasks ▸ ht) u hwait,
      fun t ht k hwait => hresult k (h.timely.result t (htasks ▸ ht) k hwait)⟩
  stopped := by
    rw [Stopped, htasks]
    intro t ht hstale
    rw [isStale_congr (timetable?_congr hnodes)] at hstale
    exact h.stopped t ht hstale
  owned := h.owned.of_mem (Nat.le_of_eq hnext.symm) fun t ht => .inl ⟨t, htasks ▸ ht, rfl, rfl⟩

/-- To queue tasks lets none of them miss the end of its wait. -/
theorem Timely.rouse (h : Timely m) (p : Task → Bool) (halts : Bool) :
    Timely (m.rouse p halts) := by
  have hbefore {t : Task} (ht : t ∈ (m.rouse p halts).tasks) {w : Wait} (hwait : t.wait = some w) :
      ∃ v ∈ m.tasks, v.wait = some w := by
    obtain ⟨v, hv, rfl⟩ := List.mem_map.mp ht
    split at hwait
    · cases hwait
    · exact ⟨v, hv, hwait⟩
  constructor
  case time =>
    intro t ht u hwait
    obtain ⟨v, hv, hwait⟩ := hbefore ht hwait
    exact h.time v hv u hwait
  case result =>
    intro t ht k hwait
    obtain ⟨v, hv, hwait⟩ := hbefore ht hwait
    exact h.result v hv k hwait

/-- To queue tasks starts none again that was told to stop. -/
theorem Stopped.rouse (h : Stopped m) (p : Task → Bool) (halts : Bool) :
    Stopped (m.rouse p halts) := by
  intro t ht hstale
  obtain ⟨v, hv, rfl⟩ := List.mem_map.mp ht
  rw [isStale_congr (timetable?_congr rfl)] at hstale
  exact Task.halted_roused.mpr (.inl (h v hv ((isStale_roused p halts v).symm.trans hstale)))

/-- A mesh is sane once tasks were woken, if the rest was so before. -/
theorem Tidy.sane_wake (h : Tidy m none) (hstopped : Stopped m) (howned : Owned m) : Sane m.wake :=
  ⟨h.rouse _ false, timely_wake m, hstopped.rouse _ false, howned.rouse _ false⟩

/-- To start a task that drives no schedule and waits for no run keeps a mesh sane. -/
theorem Sane.spawn (h : Sane m) {w : Work} (hdrives : w.drives? = none) (hruns : w.runs? = none)
    (kept : Bool) : Sane (m.spawn w kept).1 where
  tidy := h.tidy.spawn w kept
  owned := h.owned.spawn hruns kept
  timely := by
    have hbefore {t : Task} (ht : t ∈ (m.spawn w kept).1.tasks) {w : Wait}
        (hwait : t.wait = some w) : t ∈ m.tasks := by
      refine (List.mem_append.mp ht).resolve_right fun hnew => ?_
      rw [List.mem_singleton.mp hnew] at hwait
      cases hwait
    exact ⟨fun t ht u hwait => h.timely.time t (hbefore ht hwait) u hwait,
      fun t ht k hwait => h.timely.result t (hbefore ht hwait) k hwait⟩
  stopped := by
    intro t ht hstale
    rw [isStale_congr (timetable?_congr rfl)] at hstale
    rcases List.mem_append.mp ht with ht | ht
    · exact h.stopped t ht hstale
    · rw [List.mem_singleton.mp ht, isStale, hdrives] at hstale
      cases hstale

/-- A task that is found under a number is there and has it. -/
theorem task?_eq_some {number : Nat} {t : Task} (h : m.task? number = some t) :
    t ∈ m.tasks ∧ t.number = number :=
  ⟨List.mem_of_find?_eq_some h, by simpa using List.find?_some h⟩

/-- A task is found under its number. -/
theorem Tidy.task?_eq (h : Tidy m hand) {t : Task} (ht : t ∈ m.tasks) :
    m.task? t.number = some t := by
  cases hfound : m.task? t.number with
  | none => exact absurd (List.find?_eq_none.mp hfound t ht) (by simp)
  | some u =>
    obtain ⟨hu, hnumber⟩ := task?_eq_some hfound
    rw [h.eq_of_number hu ht hnumber]

/-- A task that was told to stop is discarded when it is taken up. -/
theorem takeUp_of_halted (h : Tidy m hand) {t : Task} (ht : t ∈ m.tasks)
    (hhalted : t.halted = true) : m.takeUp t.number =
      ({ m with queue := m.queue.erase t.number }.discard t).settle := by
  have hfound : task? { m with queue := m.queue.erase t.number } t.number = some t := h.task?_eq ht
  simp only [Mesh.takeUp, hfound, hhalted, if_true]

/-- A task that goes on runs its work when it is taken up, and what comes of it is noted. -/
theorem takeUp_of_going (h : Tidy m hand) {t : Task} (ht : t ∈ m.tasks)
    (hgoes : t.halted = false) : m.takeUp t.number =
      (note (run { m with queue := m.queue.erase t.number } t.work).1 t
        (run { m with queue := m.queue.erase t.number } t.work).2).settle := by
  have hfound : task? { m with queue := m.queue.erase t.number } t.number = some t := h.task?_eq ht
  simp only [Mesh.takeUp, hfound, hgoes, Bool.false_eq_true, if_false]

/-- A task that is taken up is dropped, or it runs its errands and they are noted. -/
theorem takeUp_cases (m : Mesh) (number : Nat) :
    m.takeUp number = { m with queue := m.queue.erase number } ∨
      ∃ t, m.takeUp number = ({ m with queue := m.queue.erase number }.discard t).settle ∨
        ∃ m' p, Errands t.work { m with queue := m.queue.erase number } m' ∧
          m.takeUp number = (m'.note t p).settle := by
  unfold takeUp
  dsimp only
  split
  · exact .inl rfl
  · next t _ =>
    split
    · exact .inr ⟨t, .inl rfl⟩
    · exact .inr ⟨t, .inr ⟨_, _, errands_run _ t.work, rfl⟩⟩

/-- A task that was told to stop is dropped. -/
theorem Tidy.discard (h : Tidy m none) (t : Task) :
    Tidy ({ m with queue := m.queue.erase t.number }.discard t) none := by
  have hexpelled := h.expel (k := t.number) (by simp)
  unfold Mesh.discard
  dsimp only
  split
  · exact hexpelled
  · next i n body _ =>
    have hforgotten : Tidy (forget { m with
        queue := m.queue.erase t.number
        tasks := m.tasks.filter (·.number != t.number) } body) none := hexpelled.congr rfl rfl rfl
    exact (hforgotten.rouse (fun u => u.number == body) true).congr rfl rfl rfl

/-- To discard a task takes no body away from another run. -/
theorem Owned.discard (h : Owned m) (t : Task) : Owned (m.discard t) := by
  have hremoved : Owned { m with tasks := m.tasks.filter (·.number != t.number) } :=
    h.of_mem (Nat.le_refl _) fun u hu => .inl ⟨u, List.mem_of_mem_filter hu, rfl, rfl⟩
  unfold Mesh.discard
  dsimp only
  split
  · exact hremoved
  · next i n body _ => exact hremoved.rouse (fun u => u.number == body) true

/-- To take a queued task up keeps a mesh sane. -/
theorem Sane.takeUp (h : Sane m) {number : Nat} (hqueued : number ∈ m.queue) :
    Sane (m.takeUp number) := by
  unfold Mesh.takeUp
  dsimp only
  split
  · next hnone =>
    -- No task has that number any more, so only the queue changes.
    have hnobody : m.tasks.filter (·.number != number) = m.tasks := by
      refine List.filter_eq_self.mpr fun t ht => ?_
      simpa using List.find?_eq_none.mp hnone t ht
    have hexpelled := h.tidy.expel (k := number) (by simp)
    rw [hnobody] at hexpelled
    exact ⟨hexpelled, ⟨h.timely.time, h.timely.result⟩, fun t ht => h.stopped t ht, h.owned⟩
  · next t ht =>
    obtain ⟨hmem, rfl⟩ := task?_eq_some ht
    have howned : Owned { m with queue := m.queue.erase t.number } := h.owned
    split
    · exact (h.tidy.discard t).sane_settle (howned.discard t)
    · next hgoes =>
      have htaken := h.tidy.take hmem hqueued (Bool.eq_false_iff.mpr hgoes)
      have herrands := errands_run { m with queue := m.queue.erase t.number } t.work
      have hran := htaken.errands herrands
      exact (hran.note _).sane_settle ((howned.errands herrands).note hran
        (herrands.mem_tasks hmem) (goesOn_run _ t.work))

/-- A mesh stays sane, whatever happens to it. -/
theorem Sane.move (h : Sane m) {a : Move} (ha : a.IsFair) : Sane (m.move a) := by
  -- What changes a node or ends a wait is followed by bringing the mesh in line, or by waking
  -- tasks.
  cases a with
  | takeUp number =>
    simp only [Mesh.move]
    split
    · next hqueued => exact h.takeUp hqueued
    · exact h
  | wait t =>
    simp only [Mesh.move]
    split
    · -- Tasks whose time has come are queued at once, so none misses it.
      have hmoved : Tidy { m with now := max m.now t } none := h.tidy.congr rfl rfl rfl
      exact hmoved.sane_wake h.stopped h.owned
    · exact h
  | act i a =>
    have hacted : Tidy (m.updateNode i fun n => (n.perform a).1) none := h.tidy.congr rfl rfl rfl
    rw [move_act]
    exact hacted.sane_settle h.owned
  | launch w kept => exact h.spawn ha.1 ha.2 kept
  | drop task =>
    exact ⟨h.tidy.rouse _ true, h.timely.rouse _ true, h.stopped.rouse _ true, h.owned.rouse _ true⟩
  | cancel token =>
    have hcancelled : Tidy { m with cancelled := token :: m.cancelled } none :=
      h.tidy.congr rfl rfl rfl
    exact hcancelled.sane_wake h.stopped h.owned
  | choose | rewire => exact h.congr rfl rfl rfl rfl rfl fun _ => id
  | forget task => exact h.congr rfl rfl rfl rfl rfl fun _ => result?_forget task

/-- Any fair moves keep a mesh sane. -/
theorem Sane.moves (h : Sane m) {ms : List Move} (hms : ∀ a ∈ ms, a.IsFair) :
    Sane (m.moves ms) := by
  -- By induction from the end of the moves.
  induction ms using List.reverseRecOn with
  | nil => exact h
  | append_singleton ms a ih =>
    rw [List.forall_mem_append, List.forall_mem_singleton] at hms
    rw [moves_append_singleton]
    exact (ih hms.1).move hms.2

/-- A mesh that was just put together is sane: nothing is under way in it. -/
theorem sane_connectAll (nodes : List Node) : Sane (connectAll nodes).1 where
  tidy := by constructor <;> simp [connectAll]
  timely := by constructor <;> simp [connectAll]
  stopped := by simp [Stopped, connectAll]
  owned := by simp [Owned, connectAll]

end Mesh

end CommandMesh
