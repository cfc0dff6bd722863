import CommandMesh.Proofs.Mesh.Moves
import Mathlib.Data.List.Forall2

/-!
# `CommandMesh.Proofs.Mesh.Sparing`: what does not concern a schedule

Most of what happens to a mesh does not concern a given schedule of a given node. Its record stays
as it is then, but for the handle under which the scheduler knows it: the node may remove it at any
time. A schedule that is removed is never registered again.

A schedule is a pair of the place of its node and its number there. `Spares` says of two states that
its record is the same but for the handle, that it is registered only if it was, and that if it has
just been made nothing is counted about it. The last part is needed because a schedule may be
followed from before it exists. `Bypasses` adds that no task about the schedule has changed.

The point of the module is the case distinction of `Move.Leaves.cases`: each move either takes up a
task about the schedule or does not concern it. What the former do is the matter of the strides. For
the latter `about_move` says that the tasks about the schedule rest, that is, stay as they are or
are queued because their waits are over, as long as the schedule is registered. If it is not
registered any more, the task that drives it is told to stop.

Assumed of the moves is that they are fair, and that no host starts or drops a task about the
schedule (`Undisturbed`). What the mesh does by itself is undisturbed; so is everything that nodes
do for their hosts, who may add and remove schedules as they like.

* `Timetable.Spares`, `Roster.Edits.spares`: whatever a node does to its roster.
* `Mesh.Errands.spares`: whatever a task does that is not about the schedule.
* `Mesh.bypasses_move`, `Mesh.spares_move`: whatever happens, unless a task about the schedule is
  taken up.
* `Mesh.about_move`: the tasks about the schedule stay as they are meanwhile, and are queued when
  their waits are over.
-/

set_option autoImplicit false

namespace CommandMesh

/-- What is counted about the runs of a schedule, whether it is registered or not. -/
def Schedule.bare (s : Schedule) : Schedule := { s with handle := none }

namespace Timetable

variable {t t' t'' : Timetable} {n : Nat}

/-- The schedule of that number stays as it is, but for its handle, and is not registered unless it
was. If it is made, nothing is counted about it yet. -/
structure Spares (n : Nat) (t t' : Timetable) : Prop where
  scheduler : t'.scheduler = t.scheduler
  record : ∀ s, t.find? n = some s → ∃ s', t'.find? n = some s' ∧ s'.bare = s.bare
  registered : (t.find? n).isSome = true → n ∈ t'.registered → n ∈ t.registered
  made : t.find? n = none → ∀ s', t'.find? n = some s' → s'.bare = { job := s'.job }

/-- What leaves the schedules as they are, and registers none, spares every one of them. -/
theorem spares_of_schedules (n : Nat) {t t' : Timetable} (hschedules : t'.schedules = t.schedules)
    (hscheduler : t'.scheduler = t.scheduler) (hregistered : n ∈ t'.registered → n ∈ t.registered) :
    t.Spares n t' where
  scheduler := hscheduler
  record s hs := ⟨s, (congrArg (·[n]?) hschedules).trans hs, rfl⟩
  registered _ := hregistered
  made hnone s' hs' := by
    rw [find?, hschedules, show t.schedules[n]? = none from hnone] at hs'
    cases hs'

/-- A timetable that nothing happens to spares every schedule. -/
theorem Spares.refl (n : Nat) (t : Timetable) : t.Spares n t := spares_of_schedules n rfl rfl id

/-- A schedule that is spared twice is spared. -/
theorem Spares.trans (h : t.Spares n t') (h' : t'.Spares n t'') : t.Spares n t'' := by
  refine ⟨h'.scheduler.trans h.scheduler, fun s hs => ?_, fun hmade hregistered => ?_,
    fun hnone s'' hs'' => ?_⟩
  · obtain ⟨s', hs', hbare⟩ := h.record s hs
    obtain ⟨s'', hs'', hbare'⟩ := h'.record s' hs'
    exact ⟨s'', hs'', hbare'.trans hbare⟩
  · obtain ⟨s, hs⟩ := Option.isSome_iff_exists.mp hmade
    obtain ⟨s', hs', -⟩ := h.record s hs
    exact h.registered hmade (h'.registered (by rw [hs']; rfl) hregistered)
  · -- It is made in the second step, or in the first and kept in the second.
    cases hfound : t'.find? n with
    | none => exact h'.made hfound s'' hs''
    | some s' =>
      obtain ⟨_, hsame, hbare⟩ := h'.record s' hfound
      obtain rfl := Option.some.inj (hs''.symm.trans hsame)
      have hjob : s''.job = s'.job := congrArg (·.job) hbare
      rw [hbare, h.made hnone s' hfound, hjob]

/-- To change one schedule spares all others, and itself if its record does not change. -/
theorem spares_update {k : Nat} {f : Schedule → Schedule} (h : k = n → ∀ s, (f s).bare = s.bare)
    (t : Timetable) : t.Spares n (t.update k f) := by
  have hfind := List.getElem?_modify f k t.schedules n
  refine ⟨rfl, fun s hs => ?_, fun _ => id, fun hnone s' hs' => ?_⟩
  · rw [show t.schedules[n]? = some s from hs] at hfind
    refine ⟨if k = n then f s else s, hfind, ?_⟩
    split
    · next heq => exact h heq s
    · rfl
  · rw [show t.schedules[n]? = none from hnone] at hfind
    exact nomatch hfind.symm.trans hs'

/-- To add a job spares every schedule: those that were there, and the new one, about which nothing
is counted. -/
theorem spares_add (t : Timetable) (job : Job) (n : Nat) : t.Spares n (t.add job) := by
  have hbound {s : Schedule} (hs : t.find? n = some s) : n < t.schedules.length :=
    (List.getElem?_eq_some_iff.mp hs).1
  refine ⟨rfl, fun s hs => ⟨s, (find?_add (hbound hs) job).trans hs, rfl⟩,
    fun hmade hregistered => ?_, fun hnone s' hs' => ?_⟩
  · obtain ⟨s, hs⟩ := Option.isSome_iff_exists.mp hmade
    -- A scheduler that keeps a list puts the new schedule last on it, under a number that none
    -- before has.
    have hdriven : (t.add job).registered = if t.scheduler = .forgetful then t.registered
        else t.registered ++ [t.schedules.length] := by
      show ((if t.scheduler = .forgetful then t.driven else _) : List (Nat × Nat)).map _ = _
      split <;> simp [registered, make]
    rw [hdriven] at hregistered
    split at hregistered
    · exact hregistered
    · exact (List.mem_append.mp hregistered).resolve_right fun hnew =>
        Nat.ne_of_lt (hbound hs) (List.mem_singleton.mp hnew)
  · -- Numbers are given in turn, so the schedule that is made is the new one.
    have hlength : t.schedules.length = n := by
      have hbeyond := List.getElem?_eq_none_iff.mp hnone
      have hwithin := (List.getElem?_eq_some_iff.mp hs').1
      rw [schedules_add, List.length_append, List.length_singleton] at hwithin
      exact Nat.le_antisymm hbeyond (Nat.lt_succ_iff.mp hwithin)
    rw [← hlength, find?_add_self] at hs'
    obtain rfl := Option.some.inj hs'
    rfl

/-- To forget a schedule spares every schedule: the one that is forgotten loses its handle. -/
theorem spares_drop (t : Timetable) (k n : Nat) : t.Spares n (t.drop k) := by
  by_cases hk : k ∈ t.tracked
  · -- Its handle goes, and with it what the scheduler drives under that handle.
    have hupdate : t.Spares n (t.update k fun s => { s with handle := none }) :=
      spares_update (f := fun s => { s with handle := none }) (fun _ _ => rfl) t
    rw [drop_of_mem hk]
    refine hupdate.trans (spares_of_schedules n rfl rfl fun hregistered => ?_)
    obtain ⟨d, hd, rfl⟩ := List.mem_map.mp hregistered
    exact List.mem_map_of_mem (List.mem_of_mem_filter hd)
  · rw [drop_of_not_mem hk]
    exact .refl n t

end Timetable

namespace Roster

variable {H : Type} {r r' : Roster H}

/-- A schedule that is removed loses its handle, and nothing else happens to any schedule. -/
theorem spares_removeJob (r : Roster H) (k n : Nat) :
    r.timetable.Spares n ((r.removeJob k).getD r).timetable := by
  by_cases hk : k ∈ r.timetable.tracked
  · cases hs : r.timetable.find? k with
    | none =>
      have hnone : r.removeJob k = none := by simp only [removeJob, hs]
      rw [hnone]
      exact .refl n _
    | some s =>
      rw [removeJob_of_mem hk hs]
      exact r.timetable.spares_drop k n
  · rw [removeJob_of_not_mem hk]
    exact .refl n _

/-- An edit of a roster spares every schedule. -/
theorem Edit.spares (h : r.Edit r') (n : Nat) : r.timetable.Spares n r'.timetable := by
  cases h with
  | addRoute | consult | note => exact .refl n _
  | removeRoute pattern masterOnly =>
    rw [timetable_removeRoute]
    exact .refl n _
  | addJob job =>
    rw [timetable_addJob]
    exact r.timetable.spares_add job n
  | removeJob k => exact r.spares_removeJob k n

/-- Any edits of a roster spare every schedule. -/
theorem Edits.spares (h : r.Edits r') (n : Nat) : r.timetable.Spares n r'.timetable := by
  induction h with
  | refl => exact .refl n _
  | tail _ hlast ih => exact ih.trans (hlast.spares n)

end Roster

/-- Whatever a node does for its host leaves the record of a schedule as it is, unless it is asked
to drive schedules. -/
theorem Node.spares_perform (n : Node) {a : Activity} (ha : ∀ f, a ≠ .drive f) (k : Nat) :
    n.roster.timetable.Spares k (n.perform a).1.roster.timetable := by
  have hordinary (hordinary : a.IsOrdinary) := (n.edits_perform hordinary).spares k
  cases a with
  | drive f => exact absurd rfl (ha f)
  | inspect => exact .refl k _
  | handle | draw | poll | startMaster | stopMaster | start | stop | sweep | addRoute | removeRoute
  | addJob | removeJob | send | resume | flush | pump => exact hordinary trivial

namespace Mesh

variable {m m' m'' : Mesh} {w : Work} {x : Nat × Nat}

/-- The schedule stays as it is, but for its handle, and is not registered unless it was. If it is
made, nothing is counted about it yet. -/
def Spares (x : Nat × Nat) (m m' : Mesh) : Prop :=
  ∀ t, m.timetable? x.1 = some t → ∃ t', m'.timetable? x.1 = some t' ∧ t.Spares x.2 t'

/-- A mesh that nothing happens to spares every schedule. -/
theorem Spares.refl (x : Nat × Nat) (m : Mesh) : Spares x m m := fun t ht => ⟨t, ht, .refl x.2 t⟩

/-- A schedule that is spared twice is spared. -/
theorem Spares.trans (h : Spares x m m') (h' : Spares x m' m'') : Spares x m m'' := by
  intro t ht
  obtain ⟨t', ht', hspares⟩ := h t ht
  obtain ⟨t'', ht'', hspares'⟩ := h' t' ht'
  exact ⟨t'', ht'', hspares.trans hspares'⟩

/-- With the same timetable at its node a schedule is spared. -/
theorem Spares.of_eq (h : m'.timetable? x.1 = m.timetable? x.1) : Spares x m m' :=
  fun t ht => ⟨t, h.trans ht, .refl x.2 t⟩

/-- A schedule of a node is found in the timetable of that node. -/
theorem schedule?_eq (m : Mesh) (i n : Nat) :
    m.schedule? i n = (m.timetable? i).bind (·.find? n) := by
  rw [timetable?, Option.bind_map]
  rfl

/-- A change of the timetable of a node is found there. -/
theorem timetable?_updateTimetable (m : Mesh) (i : Nat) (f : Timetable → Timetable) :
    (m.updateTimetable i f).timetable? i = (m.timetable? i).map f := by
  have hnode := List.getElem?_modify (fun n : Node =>
    { n with roster := { n.roster with timetable := f n.roster.timetable } }) i m.nodes i
  rw [timetable?, show (m.updateTimetable i f).nodes[i]? = _ from hnode, timetable?]
  cases m.nodes[i]? <;> simp

/-- A change of a schedule is found in it. -/
theorem schedule?_update (m : Mesh) (i n : Nat) (f : Schedule → Schedule) :
    (m.updateTimetable i (·.update n f)).schedule? i n = (m.schedule? i n).map f := by
  rw [schedule?_eq, timetable?_updateTimetable, schedule?_eq]
  cases m.timetable? i with
  | none => rfl
  | some t =>
    simp [Timetable.find?, Timetable.update]

/-- A change of a schedule does not change whether it should be driven. -/
theorem shouldDrive_update (m : Mesh) (i n : Nat) (f : Schedule → Schedule) :
    (m.updateTimetable i (·.update n f)).shouldDrive i n = m.shouldDrive i n := by
  rw [shouldDrive_eq, timetable?_updateTimetable, shouldDrive_eq, Option.any_map]
  rfl

/-- What is counted about the schedule stays as it is. -/
theorem Spares.record (h : Spares x m m') {s : Schedule} (hs : m.schedule? x.1 x.2 = some s) :
    ∃ s', m'.schedule? x.1 x.2 = some s' ∧ s'.bare = s.bare := by
  rw [schedule?_eq] at hs
  obtain ⟨t, ht, hfind⟩ := Option.bind_eq_some_iff.mp hs
  obtain ⟨t', ht', hspares⟩ := h t ht
  obtain ⟨s', hs', hbare⟩ := hspares.record s hfind
  refine ⟨s', ?_, hbare⟩
  rw [schedule?_eq, ht']
  exact hs'

/-- A schedule that is not registered is not registered later either. -/
theorem Spares.shouldDrive (h : Spares x m m') {s : Schedule} (hs : m.schedule? x.1 x.2 = some s)
    (hdrives : m'.shouldDrive x.1 x.2 = true) : m.shouldDrive x.1 x.2 = true := by
  rw [schedule?_eq] at hs
  obtain ⟨t, ht, hfind⟩ := Option.bind_eq_some_iff.mp hs
  obtain ⟨t', ht', hspares⟩ := h t ht
  rw [shouldDrive_eq, ht', Option.any_some, Bool.and_eq_true, hspares.scheduler] at hdrives
  rw [shouldDrive_eq, ht, Option.any_some, Bool.and_eq_true]
  refine ⟨hdrives.1, ?_⟩
  have hregistered : x.2 ∈ t'.registered := by simpa using hdrives.2
  simpa using hspares.registered (by rw [hfind]; rfl) hregistered

/-- What a node does spares a schedule if it spares it in the node's own timetable, or if it is
another node. -/
theorem spares_updateNode {f : Node → Node} (x : Nat × Nat) (m : Mesh) {i : Nat}
    (h : i = x.1 → ∀ n : Node, n.roster.timetable.Spares x.2 (f n).roster.timetable) :
    Spares x m (m.updateNode i f) := by
  intro t ht
  obtain ⟨n, hn, rfl⟩ := Option.map_eq_some_iff.mp ht
  have hnode := List.getElem?_modify f i m.nodes x.1
  rw [hn] at hnode
  refine ⟨(if i = x.1 then f n else n).roster.timetable, ?_, ?_⟩
  · exact congrArg (Option.map fun n : Node => n.roster.timetable) hnode
  · split
    · next hi => exact h hi n
    · exact .refl x.2 _

/-- What is done to a timetable spares a schedule if it does so there, or if it is that of another
node. -/
theorem spares_updateTimetable {f : Timetable → Timetable} (x : Nat × Nat) (m : Mesh) {i : Nat}
    (h : i = x.1 → ∀ t : Timetable, t.Spares x.2 (f t)) : Spares x m (m.updateTimetable i f) :=
  spares_updateNode x m fun hi n => h hi n.roster.timetable

/-- Whatever a task does concerns the schedule that it is about, and no other. -/
theorem Errand.spares (h : Errand w m m') (hw : w.subject? ≠ some x) : Spares x m m' := by
  -- Only the errand that changes a schedule needs to know which one its work is about.
  cases h with
  | start | forget | choose | bus => exact .of_eq rfl
  | node i f hf => exact spares_updateNode x m fun _ n => (hf n).spares x.2
  | schedule i n f hsubject =>
    refine spares_updateTimetable x m fun hi t => Timetable.spares_update (fun hn => absurd ?_ hw) t
    rw [hsubject, hi, hn]
  | meter i k f =>
    exact spares_updateTimetable (f := (·.setMeter k f)) x m fun _ _ =>
      Timetable.spares_of_schedules x.2 rfl rfl id

/-- Errands on behalf of work that is not about a schedule spare it. -/
theorem Errands.spares (h : Errands w m m') (hw : w.subject? ≠ some x) : Spares x m m' := by
  induction h with
  | refl => exact .refl x m
  | tail _ hlast ih => exact ih.trans (hlast.spares hw)

/-- To bring a mesh in line spares every schedule. -/
theorem spares_settle (x : Nat × Nat) (m : Mesh) : Spares x m m.settle :=
  .of_eq (m.timetable?_settle x.1)

/-- To note what has become of a task spares every schedule. -/
theorem spares_note (x : Nat × Nat) (m : Mesh) (t : Task) (p : Progress) :
    Spares x m (m.note t p) := by
  cases p <;> exact .of_eq rfl

/-- Work that waits for a run of a schedule is about that schedule. -/
theorem subject_of_runs {i n task : Nat} (h : w.runs? = some (i, n, task)) :
    w.subject? = some (i, n) := by
  cases w <;> simp_all [Work.runs?, Work.subject?]

/-- To discard a task that is not about a schedule spares it. -/
theorem spares_discard (m : Mesh) {t : Task} (ht : t.work.subject? ≠ some x) :
    Spares x m (m.discard t) := by
  unfold discard
  dsimp only
  split
  · exact .of_eq rfl
  · next i n body hruns =>
    have hhalted : Spares x m ((forget { m with
        tasks := m.tasks.filter (·.number != t.number) } body).halt fun number _ =>
          number == body) := .of_eq rfl
    refine hhalted.trans (spares_updateTimetable x _ fun hi t => ?_)
    refine Timetable.spares_update (fun hn => absurd ?_ ht) t
    rw [subject_of_runs hruns, hi, hn]

/-- No task about the schedule is taken up, started or dropped. -/
def Move.Spares (x : Nat × Nat) (m : Mesh) : Move → Prop
  | .takeUp number | .drop number =>
    ∀ t ∈ m.tasks, t.number = number → t.work.subject? ≠ some x
  | .launch w _ => w.subject? ≠ some x
  | .wait _ | .act _ _ | .cancel _ | .choose | .rewire _ | .forget _ => True

/-- No host starts or drops a task about the schedule. -/
def Move.Leaves (x : Nat × Nat) (m : Mesh) : Move → Prop
  | .drop number => ∀ t ∈ m.tasks, t.number = number → t.work.subject? ≠ some x
  | .launch w _ => w.subject? ≠ some x
  | .takeUp _ | .wait _ | .act _ _ | .cancel _ | .choose | .rewire _ | .forget _ => True

/-! ### The tasks about a schedule -/

/-- The tasks about the schedule. -/
def about (m : Mesh) (x : Nat × Nat) : List Task :=
  m.tasks.filter fun t => t.work.subject? == some x

/-- The task stays as it is, or it is queued because its wait is over. -/
structure Rests (m : Mesh) (t t' : Task) : Prop where
  number : t'.number = t.number
  work : t'.work = t.work
  halted : t'.halted = t.halted
  wait : t'.wait = t.wait ∨ t'.wait = none ∧ m.isDue t = true

/-- A task that nothing happens to rests. -/
theorem Rests.refl (m : Mesh) (t : Task) : Rests m t t := ⟨rfl, rfl, rfl, .inl rfl⟩

/-- A task is about a schedule if it is there and its work is. -/
theorem mem_about {t : Task} : t ∈ m.about x ↔ t ∈ m.tasks ∧ t.work.subject? = some x := by
  simp [about]

/-- Either a task about the schedule is taken up, or the schedule is not concerned. -/
theorem Move.Leaves.cases {a : Move} (h : a.Leaves x m) :
    a.Spares x m ∨ ∃ t ∈ m.about x, a = .takeUp t.number := by
  cases a with
  | takeUp number =>
    by_cases hnobody : ∀ t ∈ m.tasks, t.number = number → t.work.subject? ≠ some x
    · exact .inl hnobody
    · push Not at hnobody
      obtain ⟨t, ht, rfl, hsubject⟩ := hnobody
      exact .inr ⟨t, mem_about.mpr ⟨ht, hsubject⟩, rfl⟩
  | launch | drop => exact .inl h
  | wait | act | cancel | choose | rewire | forget => exact .inl trivial

/-- Moves in turn by which nobody but the mesh drives schedules and no host starts or drops a task
about the schedule. -/
def Undisturbed (x : Nat × Nat) (m : Mesh) : List Move → Prop
  | [] => True
  | a :: ms => a.IsFair ∧ a.Leaves x m ∧ Undisturbed x (m.move a) ms

/-- What the mesh does by itself disturbs nothing. -/
theorem undisturbed_of_isOwn {ms : List Move} (h : ∀ a ∈ ms, a.isOwn = true) (m : Mesh) :
    Undisturbed x m ms := by
  -- By induction on the moves, since each is looked at in the state that it meets.
  induction ms generalizing m with
  | nil => trivial
  | cons a ms ih =>
    rw [List.forall_mem_cons] at h
    refine ⟨Move.isFair_of_isOwn h.1, ?_, ih h.2 (m.move a)⟩
    cases a with
    | takeUp | wait => trivial
    | act | launch | drop | cancel | choose | rewire | forget => exact nomatch h.1

/-- If the tasks about a schedule are the same, all of them rest. -/
theorem rests_of_eq (h : m'.about x = m.about x) :
    List.Forall₂ (Rests m') (m.about x) (m'.about x) := by
  rw [h]
  exact List.forall₂_same.mpr fun t _ => .refl m' t

/-- A task that is queued because its wait is over rests. -/
theorem rests_roused (m : Mesh) (t : Task) : Rests m t (t.roused m.isDue false) := by
  refine ⟨Task.number_roused, Task.work_roused, ?_, ?_⟩
  · unfold Task.roused
    split <;> simp
  · unfold Task.roused
    split
    · next hdue => exact .inr ⟨rfl, hdue⟩
    · exact .inl rfl

/-- A change of tasks that keeps their work changes those about a schedule in their places. -/
theorem about_map {f : Task → Task} (hf : ∀ t, (f t).work = t.work) (h : m'.tasks = m.tasks.map f) :
    m'.about x = (m.about x).map f := by
  rw [about, h, List.filter_map, about]
  congr 1
  exact List.filter_congr fun t _ => by rw [Function.comp_apply, hf]

/-- The tasks about the schedule that are started to bring a mesh in line. -/
def newcomers (m : Mesh) (x : Nat × Nat) : List Task :=
  ((m.novelties.zipIdx m.next).map fun (w, k) => starting w false k).filter
    fun t => t.work.subject? == some x

/-- A schedule is driven if it is registered and was never driven. -/
theorem work_newcomers (m : Mesh) (x : Nat × Nat) : (m.newcomers x).map (·.work) =
    (m.undriven.filter (· == x)).map fun y => .drive y.1 y.2 := by
  have hpumps (l : List Nat) :
      (l.map Work.pump).filter (fun w => w.subject? == some x) = [] := by
    simp [List.filter_eq_nil_iff, Work.subject?]
  have hworks : (m.newcomers x).map (·.work) =
      m.novelties.filter fun w => w.subject? == some x := by
    -- Paired with their numbers, the tasks are started in the order of the list, so their work is
    -- that list again.
    have hall : ((m.novelties.zipIdx m.next).map fun (w, k) => starting w false k).map (·.work) =
        m.novelties := by
      rw [List.map_map]
      exact List.zipIdx_map_fst m.next m.novelties
    conv_rhs => rw [← hall, List.filter_map]
    rfl
  rw [hworks, novelties, List.filter_append, hpumps, List.nil_append, List.filter_map]
  rfl

/-- A schedule that is driven already gets no new task that drives it. -/
theorem newcomers_of_driven (h : x ∈ m.driven) : m.newcomers x = [] := by
  refine List.map_eq_nil_iff.mp ((m.work_newcomers x).trans ?_)
  rw [List.map_eq_nil_iff, List.filter_eq_nil_iff]
  intro y hy heq
  rw [eq_of_beq heq] at hy
  exact (mem_undriven.mp hy).2 h

/-- The tasks about a registered schedule stay when a mesh is brought in line, and some may be
queued or started. -/
theorem tasks_about_settle (hregistered : m.shouldDrive x.1 x.2 = true) :
    m.settle.about x = (m.about x ++ m.newcomers x).map (Task.roused m.settle.isDue false) := by
  -- Whatever drives the schedule drives one that is registered, so it is not told to stop.
  have hfresh {t : Task} (ht : t ∈ m.about x) : t.roused m.isStale true = t := by
    have hsubject : t.work.subject? = some x := by simpa using List.of_mem_filter ht
    have hstale : m.isStale t = false := by
      unfold isStale
      cases hdrives : t.work.drives? with
      | none => rfl
      | some y =>
        have hsame : t.work.subject? = some y := by
          cases hwork : t.work <;> simp_all [Work.drives?, Work.subject?]
        obtain rfl := Option.some.inj (hsame.symm.trans hsubject)
        simp [hregistered]
    rw [Task.roused, hstale]
    rfl
  have hwork (p : Task → Bool) (halts : Bool) :
      ((fun t : Task => t.work.subject? == some x) ∘ Task.roused p halts) =
        fun t : Task => t.work.subject? == some x :=
    funext fun t => by rw [Function.comp_apply, Task.work_roused]
  rw [about, tasks_settle, List.filter_map, hwork, List.filter_append, List.filter_map, hwork,
    newcomers]
  congr 2
  exact (List.map_congr_left fun t ht => hfresh ht).trans (List.map_id _)

/-- While a schedule is registered and driven, the tasks about it rest when a mesh is brought in
line. -/
theorem about_settle (hregistered : m.shouldDrive x.1 x.2 = true) (hdriven : x ∈ m.driven) :
    List.Forall₂ (Rests m.settle) (m.about x) (m.settle.about x) := by
  rw [tasks_about_settle hregistered, newcomers_of_driven hdriven, List.append_nil]
  exact List.forall₂_map_right_iff.mpr (List.forall₂_same.mpr fun t _ => rests_roused _ t)

/-- What changes is not about the schedule and does not become so. -/
theorem about_of_others {f : Task → Task} (h : m'.tasks = m.tasks.map f)
    (hf : ∀ t ∈ m.tasks, f t = t ∨ t.work.subject? ≠ some x ∧ (f t).work.subject? ≠ some x) :
    m'.about x = m.about x := by
  unfold about
  rw [h]
  generalize m.tasks = tasks at hf
  -- Task by task: each is the same, or was not and is not among those that are kept.
  induction tasks with
  | nil => rfl
  | cons t tasks ih =>
    rw [List.forall_mem_cons] at hf
    rcases hf.1 with hsame | ⟨hbefore, hafter⟩
    · simp [List.filter_cons, hsame, ih hf.2]
    · simp [hbefore, hafter, ih hf.2]

/-- The tasks about a schedule are the same if one that is not about it is removed. -/
theorem about_of_removed {number : Nat} (h : m'.tasks = m.tasks.filter (·.number != number))
    (hother : ∀ t ∈ m.tasks, t.number = number → t.work.subject? ≠ some x) :
    m'.about x = m.about x := by
  unfold about
  rw [h, List.filter_filter]
  refine List.filter_congr fun t ht => ?_
  by_cases hnumber : t.number = number
  · simp [hnumber, hother t ht hnumber]
  · simp [hnumber]

/-- Errands on behalf of work that is not about a schedule leave the tasks about it as they are. -/
theorem Errands.about (h : Errands w m m') (hw : w.subject? ≠ some x) : m'.about x = m.about x := by
  refine h.keeps (P := (·.about x = m.about x)) rfl (fun w' kept hsubject _ hsame => ?_)
    fun hboard hsame => (congrArg (List.filter _) hboard.tasks).trans hsame
  have hother : w'.subject? ≠ some x := by
    rcases hsubject with hnone | hsubject
    · simp [hnone]
    · rwa [hsubject]
  rw [← hsame]
  simp [Mesh.about, Mesh.spawn, hother]

/-- Errands do not change what was ever driven. -/
theorem Errands.driven (h : Errands w m m') : m'.driven = m.driven :=
  h.keeps (P := (·.driven = m.driven)) rfl (fun _ _ _ _ => id) fun hboard => hboard.driven.trans

/-- To note what has become of a task does not change what was ever driven. -/
theorem driven_note (m : Mesh) (t : Task) (p : Progress) : (m.note t p).driven = m.driven := by
  cases p <;> rfl

/-- To discard a task does not change what was ever driven. -/
theorem driven_discard (m : Mesh) (t : Task) : (m.discard t).driven = m.driven := by
  unfold discard
  dsimp only
  split <;> rfl

/-- To note what has become of a task that is not about a schedule leaves the tasks about it as they
are. -/
theorem about_note {t : Task} {hand : Option Nat} {r : Option (Nat × Nat × Nat)} {p : Progress}
    (htidy : Tidy m hand) (ht : t ∈ m.tasks) (hother : t.work.subject? ≠ some x)
    (hp : p.GoesOn t.work.subject? r m) : (m.note t p).about x = m.about x := by
  have hsame {u : Task} (hu : u ∈ m.tasks) (hnumber : u.number = t.number) :
      u.work.subject? ≠ some x := by
    rwa [htidy.eq_of_number hu ht hnumber]
  cases p with
  | done result => exact about_of_removed rfl fun u hu hnumber => hsame hu hnumber
  | waits w wait =>
    refine about_of_others rfl fun u hu => ?_
    split
    · next hnumber => exact .inr ⟨hsame hu hnumber, fun h => hother (hp.1.symm.trans h)⟩
    · exact .inl rfl

/-- To discard a task that is not about a schedule leaves the tasks about it as they are, since the
body that goes with it is about no schedule. -/
theorem about_discard {t : Task} (howned : Owned m) (ht : t ∈ m.tasks)
    (hother : ∀ u ∈ m.tasks, u.number = t.number → u.work.subject? ≠ some x) :
    (m.discard t).about x = m.about x := by
  have hremoved : about { m with tasks := m.tasks.filter (·.number != t.number) } x = m.about x :=
    about_of_removed rfl hother
  unfold discard
  dsimp only
  split
  · exact hremoved
  · next i n body hruns =>
    rw [← hremoved]
    refine about_of_others rfl fun u hu => ?_
    split
    · next hbody =>
      -- The body that is told to stop is about no schedule at all.
      have hnone := (howned t ht _ hruns).2 u (List.mem_of_mem_filter hu) (by simpa using hbody)
      exact .inr ⟨by simp [hnone], by simp [hnone]⟩
    · exact .inl rfl

/-! ### What happens without regard to a schedule -/

/-- The schedule is not concerned, and neither is any task about it. -/
structure Bypasses (x : Nat × Nat) (m m' : Mesh) : Prop where
  spares : Spares x m m'
  about : m'.about x = m.about x
  driven : m'.driven = m.driven

/-- A task that is about something else is taken up. -/
theorem bypasses_takeUp (h : Sane m) {number : Nat} (hqueued : number ∈ m.queue)
    (hother : ∀ t ∈ m.tasks, t.number = number → t.work.subject? ≠ some x) :
    ∃ m', Bypasses x m m' ∧
      (m.takeUp number = m' ∧ m'.nodes = m.nodes ∨ m.takeUp number = m'.settle) := by
  have herased : Spares x m { m with queue := m.queue.erase number } := .of_eq rfl
  -- There may be no task of that number any more; otherwise it is discarded, or runs its errands.
  cases hfound : { m with queue := m.queue.erase number }.task? number with
  | none =>
    refine ⟨{ m with queue := m.queue.erase number }, ⟨herased, rfl, rfl⟩, .inl ⟨?_, rfl⟩⟩
    simp only [takeUp, hfound]
  | some t =>
    obtain ⟨hmem, rfl⟩ := task?_eq_some hfound
    have howned : Owned { m with queue := m.queue.erase t.number } := h.owned
    have hw := hother t hmem rfl
    cases hhalted : t.halted with
    | true =>
      refine ⟨discard { m with queue := m.queue.erase t.number } t, ⟨?_, ?_, ?_⟩, .inr ?_⟩
      · exact herased.trans (spares_discard _ hw)
      · exact about_discard howned hmem hother
      · exact driven_discard _ t
      · exact takeUp_of_halted h.tidy hmem hhalted
    | false =>
      have herrands := errands_run { m with queue := m.queue.erase t.number } t.work
      have hran := (h.tidy.take hmem hqueued hhalted).errands herrands
      have hgoesOn := goesOn_run { m with queue := m.queue.erase t.number } t.work
      rw [takeUp_of_going h.tidy hmem hhalted]
      generalize run { m with queue := m.queue.erase t.number } t.work = ran
        at herrands hran hgoesOn
      refine ⟨note ran.1 t ran.2, ⟨?_, ?_, ?_⟩, .inr rfl⟩
      · exact herased.trans ((herrands.spares hw).trans (spares_note x ran.1 t ran.2))
      · exact (about_note hran (herrands.mem_tasks hmem) hw hgoesOn).trans (herrands.about hw)
      · exact (driven_note ran.1 t ran.2).trans herrands.driven

/-- Something happens that does not concern the schedule. Then the mesh is brought in line, unless
no node has changed. -/
theorem bypasses_move (h : Sane m) {a : Move} (hfair : a.IsFair) (ha : a.Spares x m) :
    ∃ m', Bypasses x m m' ∧
      ((m.move a = m' ∨ m.move a = m'.wake) ∧ m'.nodes = m.nodes ∨ m.move a = m'.settle) := by
  have hnothing : Bypasses x m m := ⟨.refl x m, rfl, rfl⟩
  cases a with
  | takeUp number =>
    simp only [move]
    split
    · next hqueued =>
      obtain ⟨m', hbypasses, hsame | hsettled⟩ := bypasses_takeUp h hqueued ha
      · exact ⟨m', hbypasses, .inl ⟨.inl hsame.1, hsame.2⟩⟩
      · exact ⟨m', hbypasses, .inr hsettled⟩
    · exact ⟨m, hnothing, .inl ⟨.inl rfl, rfl⟩⟩
  | wait t =>
    simp only [move]
    split
    · exact ⟨{ m with now := max m.now t }, ⟨.of_eq rfl, rfl, rfl⟩, .inl ⟨.inr rfl, rfl⟩⟩
    · exact ⟨m, hnothing, .inl ⟨.inl rfl, rfl⟩⟩
  | act i a =>
    refine ⟨_, ⟨spares_updateNode x m fun _ n => n.spares_perform ?_ x.2, rfl, rfl⟩,
      .inr (m.move_act i a)⟩
    rintro f rfl
    exact hfair
  | launch w kept =>
    have hw : w.subject? ≠ some x := ha
    exact ⟨(m.spawn w kept).1, ⟨.of_eq rfl, by simp [about, Mesh.spawn, hw], rfl⟩,
      .inl ⟨.inl rfl, rfl⟩⟩
  | drop number =>
    refine ⟨m.drop number, ⟨.of_eq rfl, about_of_others rfl fun t ht => ?_, rfl⟩,
      .inl ⟨.inl rfl, rfl⟩⟩
    split
    · next hnumber =>
      have hother := ha t ht (by simpa using hnumber)
      exact .inr ⟨hother, hother⟩
    · exact .inl rfl
  | cancel token =>
    exact ⟨{ m with cancelled := token :: m.cancelled }, ⟨.of_eq rfl, rfl, rfl⟩,
      .inl ⟨.inr rfl, rfl⟩⟩
  | choose => exact ⟨m.choose.1, ⟨.of_eq rfl, rfl, rfl⟩, .inl ⟨.inl rfl, rfl⟩⟩
  | rewire bus => exact ⟨{ m with bus }, ⟨.of_eq rfl, rfl, rfl⟩, .inl ⟨.inl rfl, rfl⟩⟩
  | forget task => exact ⟨m.forget task, ⟨.of_eq rfl, rfl, rfl⟩, .inl ⟨.inl rfl, rfl⟩⟩

/-- What does not concern the schedule leaves its record as it is. -/
theorem spares_move (h : Sane m) {a : Move} (hfair : a.IsFair) (ha : a.Spares x m) :
    Spares x m (m.move a) := by
  obtain ⟨m', hbypasses, ⟨hmove | hmove, -⟩ | hmove⟩ := bypasses_move h hfair ha
  · rw [hmove]
    exact hbypasses.spares
  · rw [hmove]
    exact hbypasses.spares.trans (.of_eq rfl)
  · rw [hmove]
    exact hbypasses.spares.trans (spares_settle x m')

/-- To wake tasks lets those about a schedule rest. -/
theorem about_wake (m : Mesh) (x : Nat × Nat) :
    List.Forall₂ (Rests m.wake) (m.about x) (m.wake.about x) := by
  have hdue : m.wake.isDue = m.isDue := funext fun t =>
    congrArg t.wait.any (funext fun w => isOver_rouse m _ false w)
  have habout : m.wake.about x = (m.about x).map (Task.roused m.isDue false) :=
    about_map (fun _ => Task.work_roused) rfl
  rw [habout]
  exact List.forall₂_map_right_iff.mpr (List.forall₂_same.mpr fun t _ =>
    hdue ▸ rests_roused m.wake t)

/-- While a schedule is registered and driven, the tasks about it rest unless they are taken up. -/
theorem about_move (h : Sane m) {a : Move} (hfair : a.IsFair) (ha : a.Spares x m)
    (hregistered : (m.move a).shouldDrive x.1 x.2 = true) (hdriven : x ∈ m.driven) :
    List.Forall₂ (Rests (m.move a)) (m.about x) ((m.move a).about x) := by
  -- Either nothing follows, or waits are ended, or the mesh is brought in line.
  obtain ⟨m', hbypasses, ⟨hmove | hmove, -⟩ | hmove⟩ := bypasses_move h hfair ha
  · rw [hmove]
    exact rests_of_eq hbypasses.about
  · rw [hmove, ← hbypasses.about]
    exact about_wake m' x
  · rw [hmove, shouldDrive_congr (m'.timetable?_settle _)] at hregistered
    rw [hmove, ← hbypasses.about]
    exact about_settle hregistered (hbypasses.driven ▸ hdriven)

end Mesh

end CommandMesh
