import CommandMesh.Proofs.Mesh.Lasting
import CommandMesh.Proofs.Mesh.Sparing

/-!
# `CommandMesh.Proofs.Mesh.Strides`: what the tasks about a schedule do

A schedule whose body does not panic when it is called is called in one of two ways: a run begins,
with a task for its body (`Mesh.begun`), or the call is skipped. This and the end of a run
(`Mesh.concluded`) are all that tasks about a schedule do to its record.

For each kind of work about a schedule there is one equation here that says what it comes to, under
hypotheses that are decided by the record of the schedule: whether it is long running, whether it is
active, and what its timer says. They are meant to be used instead of the definitions. The
hypothesis that a body does not panic when it is called stands in all of them that begin a run; a
body that does so takes the task with it that called it, and what becomes of its schedule has
a theorem of its own elsewhere.

`Treats` is the counterpart of sparing: the record of the schedule changes in this way, and it is
registered as before. `Passes` puts together what anything else does to a schedule and its tasks.
The second half of it is about time: it passes only if all tasks about the schedule wait, and not
beyond the end of any of these waits. This is where a bound on when a run begins comes from.

`Endures` is weaker than both and holds in either case, so it survives whole runs: a schedule that
was made is still there, and it is not registered again.

* `beginRun_eq`, `endRun?_eq`: what becomes of a call and of the end of a run.
* `driveOnce_of_short`, `driveOnce_of_long`: the clock waits for a run, or starts a task that runs
  the schedule.
* `treats_called`, `treats_begun`, `treats_concluded`: nothing else changes about the schedule.
* `about_note_at`, `about_done_at`: the tasks about the schedule after one of them was taken up.
* `passes_move`, `passes_settle`: what the tasks about a schedule and its record are like after
  anything else has happened.
* `endures_moves`: a schedule that was made is still there, and is not registered again.
-/

set_option autoImplicit false

namespace CommandMesh

/-- The task, if it has that number, goes on like that. -/
def Task.goesOn (k : Nat) (w : Work) (wait : Wait) (t : Task) : Task :=
  if t.number = k then { t with work := w, wait := some wait } else t

/-- Tasks with other numbers stay as they are when one goes on. -/
theorem Task.map_goesOn_of_ne {k : Nat} {w : Work} {wait : Wait} {ts : List Task}
    (h : ∀ t ∈ ts, t.number ≠ k) : ts.map (Task.goesOn k w wait) = ts :=
  (List.map_congr_left fun t ht => if_neg (h t ht)).trans (List.map_id ts)

namespace Mesh

variable {m m' m'' : Mesh} {x : Nat × Nat} {i n task : Nat} {s : Schedule} {t : Task} {w : Work}
  {wait : Wait}

/-- The mesh while the task is in hand. -/
abbrev taken (m : Mesh) (t : Task) : Mesh := { m with queue := m.queue.erase t.number }

/-! ### Calls and ends of runs -/

/-- The schedule is called. A run is noted to begin, or the call to be skipped. -/
def called (m : Mesh) (i n : Nat) : Mesh :=
  m.updateTimetable i (·.update n fun s => (s.begin m.now).1)

/-- The schedule is called and a run begins, with a task for the body. -/
def begun (m : Mesh) (i n : Nat) (b : Body) : Mesh := ((m.called i n).spawn (.body i b) true).1

/-- The run whose body that task was ends. -/
def concluded (m : Mesh) (i n task : Nat) (e : Ending) : Mesh :=
  (m.forget task).updateTimetable i (·.update n (·.finish e))

/-- A call of a schedule is skipped while a run is active, and otherwise begins one, with a task for
its body. -/
theorem beginRun_eq (hs : m.schedule? i n = some s)
    (hbody : ∀ t : Timetable, t.refuses s.job.body = false) : m.beginRun i n =
      if s.active then (m.called i n, .ok none)
      else (m.begun i n s.job.body, .ok (some m.next)) := by
  obtain ⟨node, hnode, hfound⟩ := Option.bind_eq_some_iff.mp hs
  -- What the node gives depends on whether a run is active, since the body does not panic.
  have hcall : m.onNode i Calling.skipped (fun node =>
      ({ node with roster := { node.roster with
          timetable := (node.roster.timetable.call n m.now).1 } },
        (node.roster.timetable.call n m.now).2)) =
      (m.called i n, if s.active then .skipped else .began) := by
    refine Prod.ext ?_ ?_
    · rw [fst_onNode]
      simp only [Timetable.fst_call]
      rfl
    · simp only [onNode, hnode, Timetable.call, hfound, Schedule.call, Schedule.begin, hbody]
      cases s.active <;> rfl
  unfold beginRun
  simp only [hs]
  dsimp only at hcall
  rw [hcall]
  cases s.active <;> rfl

/-- The end of a run counts it, or the run has not ended yet. -/
theorem endRun?_eq (m : Mesh) (i n task : Nat) : m.endRun? i n task = none ∨
    ∃ e, m.endRun? i n task = some (m.concluded i n task e) := by
  unfold endRun?
  split
  · next e _ => exact .inr ⟨e, rfl⟩
  · exact .inl rfl

/-- A schedule that is not long running begins a run when its time has come, and the task that
drives it waits for the body. -/
theorem driveOnce_of_short (hs : m.schedule? i n = some s) (hshort : s.job.longRunning = false)
    (hidle : s.active = false) (hbody : ∀ t : Timetable, t.refuses s.job.body = false)
    (next : Option (Span × Instant)) : m.driveOnce i n next =
      (m.begun i n s.job.body, .waits (.driveRun i n m.next next) (.result m.next)) := by
  unfold driveOnce
  simp [hs, hshort, beginRun_eq hs hbody, hidle]

/-- For a long running schedule a task is started that runs it, and the task that drives it waits
for the next tick at once. -/
theorem driveOnce_of_long (hs : m.schedule? i n = some s) (hlong : s.job.longRunning = true)
    (period : Span) (point : Instant) : m.driveOnce i n (some (period, point)) =
      ((m.spawn (.execute i n) false).1, .waits (.driveTick i n period point) (.time point)) := by
  unfold driveOnce
  simp [hs, hlong, awaitTick, launch]

/-- A task that runs an idle schedule begins a run and waits for its body. -/
theorem runExecute_of_idle (hs : m.schedule? i n = some s) (hidle : s.active = false)
    (hbody : ∀ t : Timetable, t.refuses s.job.body = false) : m.runExecute i n =
      (m.begun i n s.job.body, .waits (.executed i n m.next) (.result m.next)) := by
  unfold runExecute
  simp [beginRun_eq hs hbody, hidle]

/-- A task that runs a schedule with an active run has its call skipped and ends. -/
theorem runExecute_of_busy (hs : m.schedule? i n = some s) (hbusy : s.active = true)
    (hbody : ∀ t : Timetable, t.refuses s.job.body = false) :
    m.runExecute i n = (m.called i n, .done .finished) := by
  unfold runExecute
  simp [beginRun_eq hs hbody, hbusy]

/-- A task that waits for a run goes on waiting, or counts the end of the run and ends itself. -/
theorem runExecuted_eq (m : Mesh) (i n task : Nat) :
    m.runExecuted i n task = (m, .waits (.executed i n task) (.result task)) ∨
      ∃ e, m.runExecuted i n task = (m.concluded i n task e, .done .finished) := by
  unfold runExecuted
  rcases m.endRun?_eq i n task with hnone | ⟨e, hended⟩
  · rw [hnone]
    exact .inl rfl
  · rw [hended]
    exact .inr ⟨e, rfl⟩

/-- The first run of a schedule with an interval is a tick at the present instant. -/
theorem runFirst_of_interval {period : Span} (hs : m.schedule? i n = some s)
    (hinterval : s.job.timer.interval = some period) (hperiod : 0 < period) :
    m.runFirst i n = m.runTick i n period m.now := by
  unfold runFirst
  simp [hs, hinterval, Nat.ne_of_gt hperiod]

/-- A schedule that is newly driven has its first run at once, or after the first delay of its
timer. -/
theorem runDrive_eq (hs : m.schedule? i n = some s) : m.runDrive i n =
    if s.job.timer.firstDelay m.now = 0 then m.runFirst i n
    else (m, .waits (.driveFirst i n) (.time (m.now + s.job.timer.firstDelay m.now))) := by
  unfold runDrive
  rw [hs]

/-! ### What changes about the schedule -/

/-- The record of the schedule changes like that, and the schedule is registered as before. Tasks
may be started. -/
structure Treats (x : Nat × Nat) (f : Schedule → Schedule) (m m' : Mesh) : Prop where
  record : m'.schedule? x.1 x.2 = (m.schedule? x.1 x.2).map f
  drives : m'.shouldDrive x.1 x.2 = m.shouldDrive x.1 x.2
  driven : m'.driven = m.driven
  now : m'.now = m.now
  next : m.next ≤ m'.next
  tasks : ∀ t ∈ m'.tasks, t ∈ m.tasks ∨ m.next ≤ t.number

/-- A mesh that nothing happens to treats every schedule as it was. -/
theorem Treats.refl (x : Nat × Nat) (m : Mesh) : Treats x id m m :=
  ⟨Option.map_id.symm ▸ rfl, rfl, rfl, rfl, Nat.le_refl _, fun _ => .inl⟩

/-- A schedule that is treated twice is treated by both in turn. -/
theorem Treats.trans {f g : Schedule → Schedule} (h : Treats x f m m') (h' : Treats x g m' m'') :
    Treats x (g ∘ f) m m'' where
  record := by rw [h'.record, h.record, Option.map_map]
  drives := h'.drives.trans h.drives
  driven := h'.driven.trans h.driven
  now := h'.now.trans h.now
  next := Nat.le_trans h.next h'.next
  tasks t ht := by
    rcases h'.tasks t ht with hold | hnew
    · exact h.tasks t hold
    · exact .inr (Nat.le_trans h.next hnew)

/-- To call a schedule notes the call in its record and does nothing else about it. -/
theorem treats_called (m : Mesh) (i n : Nat) :
    Treats (i, n) (fun s => (s.begin m.now).1) m (m.called i n) :=
  ⟨m.schedule?_update i n _, m.shouldDrive_update i n _, rfl, rfl, Nat.le_refl _, fun _ => .inl⟩

/-- A task that is started is new. -/
theorem treats_spawn (x : Nat × Nat) (m : Mesh) (w : Work) (kept : Bool) :
    Treats x id m (m.spawn w kept).1 where
  record := Option.map_id.symm ▸ rfl
  drives := rfl
  driven := rfl
  now := rfl
  next := Nat.le_succ _
  tasks t ht := by
    rcases List.mem_append.mp ht with hold | hnew
    · exact .inl hold
    · rw [List.mem_singleton.mp hnew]
      exact .inr (Nat.le_refl _)

/-- A task that is started is among those about a schedule if its work is about it. -/
theorem about_spawn (x : Nat × Nat) (m : Mesh) (w : Work) (kept : Bool) :
    (m.spawn w kept).1.about x =
      m.about x ++ if w.subject? = some x then [starting w kept m.next] else [] := by
  rw [about, Mesh.spawn, List.filter_append, about]
  congr 1
  split <;> simp_all [starting]

/-- To begin a run of a schedule notes the call in its record and does nothing else about it. -/
theorem treats_begun (m : Mesh) (i n : Nat) (b : Body) :
    Treats (i, n) (fun s => (s.begin m.now).1) m (m.begun i n b) :=
  (treats_called m i n).trans (treats_spawn (i, n) (m.called i n) (.body i b) true)

/-- The body of a run is not about the schedule. -/
theorem about_begun (x : Nat × Nat) (m : Mesh) (i n : Nat) (b : Body) :
    (m.begun i n b).about x = m.about x :=
  ((m.called i n).about_spawn x (.body i b) true).trans (List.append_nil _)

/-- To end a run of a schedule counts it in the record and does nothing else about it. -/
theorem treats_concluded (m : Mesh) (i n task : Nat) (e : Ending) :
    Treats (i, n) (·.finish e) m (m.concluded i n task e) :=
  ⟨(m.forget task).schedule?_update i n _, (m.forget task).shouldDrive_update i n _, rfl, rfl,
    Nat.le_refl _, fun _ => .inl⟩

/-- To note what has become of a task changes no schedule. -/
theorem schedule?_note (m : Mesh) (t : Task) (p : Progress) (i n : Nat) :
    (m.note t p).schedule? i n = m.schedule? i n := by
  cases p <;> rfl

/-- To note what has become of a task does not change which schedules should be driven. -/
theorem shouldDrive_note (m : Mesh) (t : Task) (p : Progress) (i n : Nat) :
    (m.note t p).shouldDrive i n = m.shouldDrive i n := by
  cases p <;> rfl

/-- A task about the schedule goes on with work about it. -/
theorem about_note_waits {hand : Option Nat} (htidy : Tidy m hand) (ht : t ∈ m.about x)
    (hm' : ∀ u ∈ m'.tasks, u ∈ m.tasks ∨ m.next ≤ u.number) (hw : w.subject? = some x) :
    (m'.note t (.waits w wait)).about x = (m'.about x).map (Task.goesOn t.number w wait) := by
  obtain ⟨hmem, hsubject⟩ := mem_about.mp ht
  show (m'.tasks.map (Task.goesOn t.number w wait)).filter _ = _
  rw [List.filter_map]
  refine congrArg (List.map _) (List.filter_congr fun u hu => ?_)
  rw [Function.comp_apply, Task.goesOn]
  split
  · next hnumber =>
    -- The number may be that of the task itself; no task that was started meanwhile has it.
    rcases hm' u hu with hold | hnew
    · obtain rfl := htidy.eq_of_number hold hmem hnumber
      rw [hw, hsubject]
    · -- A task that was just started has a number of its own.
      exact absurd (htidy.fresh t hmem) (Nat.not_lt_of_le (hnumber ▸ hnew))
  · rfl

/-- A task about the schedule ends. -/
theorem about_note_done (m : Mesh) (t : Task) (r : TaskResult) :
    (m.note t (.done r)).about x = (m.about x).filter (·.number != t.number) := by
  show (m.tasks.filter _).filter _ = _
  rw [about, List.filter_filter, List.filter_filter]
  exact List.filter_congr fun u _ => Bool.and_comm _ _

/-- Tasks about the schedule are told apart by their numbers. -/
theorem number_ne_of_about {hand : Option Nat} (htidy : Tidy m hand) (before after : List Task)
    (habout : m.about x = before ++ t :: after) : ∀ u ∈ before ++ after, u.number ≠ t.number := by
  have hnodup : ((m.about x).map (·.number)).Nodup :=
    htidy.numbers.sublist (List.filter_sublist.map _)
  rw [habout, List.map_append, List.map_cons, List.nodup_middle, List.nodup_cons,
    ← List.map_append] at hnodup
  exact fun u hu heq => hnodup.1 (List.mem_map.mpr ⟨u, hu, heq⟩)

/-- A task goes on in its place among the tasks about the schedule. -/
theorem about_note_at {hand : Option Nat} (htidy : Tidy m hand) (ht : t ∈ m.about x)
    (hm' : ∀ u ∈ m'.tasks, u ∈ m.tasks ∨ m.next ≤ u.number) (hw : w.subject? = some x)
    (before after : List Task) (hlist : m'.about x = before ++ t :: after)
    (hne : ∀ u ∈ before ++ after, u.number ≠ t.number) :
    (m'.note t (.waits w wait)).about x =
      before ++ { t with work := w, wait := some wait } :: after := by
  rw [List.forall_mem_append] at hne
  rw [about_note_waits htidy ht hm' hw, hlist, List.map_append, List.map_cons,
    Task.map_goesOn_of_ne hne.1, Task.map_goesOn_of_ne hne.2, Task.goesOn, if_pos rfl]

/-- A task ends and leaves the others in their places. -/
theorem about_done_at (r : TaskResult) (before after : List Task)
    (hlist : m'.about x = before ++ t :: after)
    (hne : ∀ u ∈ before ++ after, u.number ≠ t.number) :
    (m'.note t (.done r)).about x = before ++ after := by
  have hothers : (before ++ after).filter (·.number != t.number) = before ++ after :=
    List.filter_eq_self.mpr fun u hu => by simpa using hne u hu
  rw [List.filter_append] at hothers
  rw [about_note_done, hlist, List.filter_append, List.filter_cons_of_neg (by simp), hothers]

/-! ### Anything else -/

/-- The tasks about the schedule rest and its record stays as it is. Time passes only if all of them
wait, and none for a time that is over before. -/
structure Passes (x : Nat × Nat) (m m' : Mesh) : Prop where
  about : List.Forall₂ (Rests m') (m.about x) (m'.about x)
  spares : Spares x m m'
  driven : x ∈ m.driven → x ∈ m'.driven
  time : m'.now = m.now ∨ m.now ≤ m'.now ∧ ∀ t ∈ m.about x,
    t.wait ≠ none ∧ ∀ u, t.wait = some (.time u) → m'.now ≤ u

/-- To bring a mesh in line adds what is newly registered to what was ever driven. -/
theorem driven_settle (m : Mesh) : m.settle.driven = m.driven ++ m.undriven := by
  have hdriven : m.flush.stopDriving.startPumping.driven = m.driven := by
    rw [startPumping, launchAll_eq]
    rfl
  rw [← hdriven, ← undriven_startPumping]
  rfl

/-- To bring a mesh in line is something by which a registered schedule passes unchanged. -/
theorem passes_settle (hregistered : m.shouldDrive x.1 x.2 = true) (hdriven : x ∈ m.driven) :
    Passes x m m.settle :=
  ⟨about_settle hregistered hdriven, spares_settle x m,
    fun _ => m.driven_settle ▸ List.mem_append_left _ hdriven, .inl m.now_settle⟩

/-- To take a task up takes no time. -/
theorem now_takeUp (m : Mesh) (number : Nat) : (m.takeUp number).now = m.now := by
  rcases m.takeUp_cases number with htaken | ⟨t, htaken | ⟨m', p, herrands, htaken⟩⟩
  all_goals rw [htaken]
  · rw [now_settle, now_discard]
  · rw [now_settle, now_note, herrands.now]

/-- Time passes only while no task is queued, and not beyond the end of a wait. -/
theorem now_move (m : Mesh) (a : Move) : (m.move a).now = m.now ∨
    m.queue = [] ∧ ∃ t, (m.move a).now = max m.now t ∧ ∀ d ∈ m.nextDeadline?, t ≤ d := by
  cases a with
  | takeUp number =>
    left
    simp only [move]
    split
    · exact m.now_takeUp number
    · rfl
  | wait t =>
    simp only [move]
    split
    · next hidle => exact .inr ⟨hidle.1, t, rfl, hidle.2⟩
    · exact .inl rfl
  | act i b =>
    left
    rw [move_act, now_settle]
    rfl
  | launch | drop | cancel | choose | rewire | forget => exact .inl rfl

/-- The next end of a wait is not later than that of any given task. -/
theorem nextDeadline_le (ht : t ∈ m.tasks) (hwait : t.wait = some wait) {u : Instant}
    (hu : Wait.deadline? wait = some u) : ∃ d ∈ m.nextDeadline?, d ≤ u := by
  have hmem : u ∈ m.tasks.filterMap fun t => t.wait.bind Wait.deadline? :=
    List.mem_filterMap.mpr ⟨t, ht, by rw [hwait]; exact hu⟩
  -- There is an end of a wait, so the smallest one exists.
  cases hmin : m.nextDeadline? with
  | none =>
    rw [nextDeadline?, List.min?_eq_none_iff] at hmin
    rw [hmin] at hmem
    cases hmem
  | some d => exact ⟨d, rfl, (List.min?_eq_some_iff.mp hmin).2 u hmem⟩

/-- Whatever happens, unless a task about the schedule is taken up, started or dropped. -/
theorem passes_move (h : Sane m) {a : Move} (hfair : a.IsFair) (ha : a.Spares x m)
    (hregistered : (m.move a).shouldDrive x.1 x.2 = true) (hdriven : x ∈ m.driven) :
    Passes x m (m.move a) where
  about := about_move h hfair ha hregistered hdriven
  spares := spares_move h hfair ha
  driven _ := by
    obtain ⟨m', hbypasses, ⟨hmove | hmove, -⟩ | hmove⟩ := bypasses_move h hfair ha
    · rwa [hmove, hbypasses.driven]
    · rw [hmove]
      exact hbypasses.driven ▸ hdriven
    · rw [hmove, driven_settle, hbypasses.driven]
      exact List.mem_append_left _ hdriven
  time := by
    refine (m.now_move a).imp_right fun ⟨hidle, u, hnow, hbound⟩ => ?_
    refine ⟨hnow ▸ Nat.le_max_left _ _, fun t ht => ⟨?_, fun v hwait => ?_⟩⟩
    · exact h.tidy.wait_ne_none hidle (mem_about.mp ht).1
    · -- Time does not pass beyond the end of any wait, so not beyond that of this one.
      obtain ⟨d, hd, hle⟩ := nextDeadline_le (mem_about.mp ht).1 hwait rfl
      rw [hnow]
      exact Nat.max_le.mpr ⟨Nat.le_of_lt (h.timely.time t (mem_about.mp ht).1 v hwait),
        Nat.le_trans (hbound d hd) hle⟩

/-! ### Schedules are not registered again -/

/-- A schedule that was made is still there, and it was registered before if it is now. -/
def Endures (x : Nat × Nat) (m m' : Mesh) : Prop :=
  (m.schedule? x.1 x.2).isSome = true → (m'.schedule? x.1 x.2).isSome = true ∧
    (m'.shouldDrive x.1 x.2 = true → m.shouldDrive x.1 x.2 = true)

/-- A schedule that endures twice endures. -/
theorem Endures.trans (h : Endures x m m') (h' : Endures x m' m'') : Endures x m m'' :=
  fun hmade => ⟨(h' (h hmade).1).1, fun hdrives => (h hmade).2 ((h' (h hmade).1).2 hdrives)⟩

/-- A schedule that is spared endures. -/
theorem Spares.endures (h : Spares x m m') : Endures x m m' := by
  intro hmade
  obtain ⟨s, hs⟩ := Option.isSome_iff_exists.mp hmade
  obtain ⟨s', hs', -⟩ := h.record hs
  exact ⟨by rw [hs']; rfl, h.shouldDrive hs⟩

/-- A schedule endures a change of its own record, and one of any other. -/
theorem endures_update (x : Nat × Nat) (m : Mesh) (i n : Nat) (f : Schedule → Schedule) :
    Endures x m (m.updateTimetable i (·.update n f)) := by
  -- A change of the schedule itself keeps it, and a change of another one spares it.
  by_cases hx : (i, n) = x
  · obtain rfl := hx
    intro hmade
    rw [schedule?_update, Option.isSome_map, shouldDrive_update]
    exact ⟨hmade, id⟩
  · refine (spares_updateTimetable x m fun hi t => ?_).endures
    exact Timetable.spares_update (fun hn => absurd (Prod.ext hi hn) hx) t

/-- A schedule endures errands, also those that are about it. -/
theorem Errands.endures (h : Errands w m m') : Endures x m m' := by
  induction h with
  | refl => exact (Spares.refl x m).endures
  | tail _ hlast ih =>
    refine ih.trans ?_
    -- The errand that changes a schedule may be about this one, so it is no case of sparing.
    cases hlast with
    | start | forget | choose | bus => exact (Spares.of_eq rfl).endures
    | node i f hf _ => exact (spares_updateNode x _ fun _ n => (hf n).spares x.2).endures
    | schedule i n f => exact endures_update x _ i n f
    | meter i k f =>
      exact (spares_updateTimetable (f := (·.setMeter k f)) x _ fun _ _ =>
        Timetable.spares_of_schedules x.2 rfl rfl id).endures

/-- A schedule endures that a task is discarded, also if its run is cut short by that. -/
theorem endures_discard (m : Mesh) (t : Task) : Endures x m (m.discard t) := by
  unfold discard
  dsimp only
  split
  · exact (Spares.of_eq rfl).endures
  · next i n body _ =>
    have hhalted : Spares x m ((forget { m with
        tasks := m.tasks.filter (·.number != t.number) } body).halt fun number _ =>
          number == body) := .of_eq rfl
    exact hhalted.endures.trans (endures_update x _ i n Schedule.drop)

/-- A schedule endures that a task is taken up. -/
theorem endures_takeUp (x : Nat × Nat) (m : Mesh) (number : Nat) :
    Endures x m (m.takeUp number) := by
  have herased : Endures x m { m with queue := m.queue.erase number } :=
    (Spares.of_eq rfl).endures
  rcases m.takeUp_cases number with htaken | ⟨t, htaken | ⟨m', p, herrands, htaken⟩⟩
  all_goals rw [htaken]
  · exact herased
  · exact herased.trans ((endures_discard _ t).trans (spares_settle x _).endures)
  · exact herased.trans (herrands.endures.trans
      ((spares_note x m' t p).trans (spares_settle x _)).endures)

/-- A schedule endures every undisturbing move. -/
theorem endures_move (h : Sane m) {a : Move} (hfair : a.IsFair) (ha : a.Leaves x m) :
    Endures x m (m.move a) := by
  rcases ha.cases with hspares | ⟨t, -, rfl⟩
  · exact (spares_move h hfair hspares).endures
  · simp only [move]
    split
    · exact endures_takeUp x m t.number
    · exact (Spares.refl x m).endures

/-- A schedule endures undisturbed moves in turn. -/
theorem endures_moves (h : Sane m) {ms : List Move} (hms : Undisturbed x m ms) :
    Endures x m (m.moves ms) := by
  -- By induction on the moves; each keeps the mesh sane for the next.
  induction ms generalizing m with
  | nil => exact (Spares.refl x m).endures
  | cons a ms ih =>
    exact (endures_move h hms.1 hms.2.1).trans (ih (h.move hms.1) hms.2.2)

end Mesh

end CommandMesh
