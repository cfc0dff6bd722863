import CommandMesh.Proofs.Mesh.Diary

/-!
# `CommandMesh.Proofs.Mesh.Pace`: a schedule whose runs the clock waits for

One task drives the schedule. It waits for the first point of the grid, begins a run, waits for
the end of the run and then for the next point, or begins the next run at once if that point is
over. `Standing` names the four places where the task may be and what is known of the beats there,
and `Paced` says that it stands at one of them and that the beats so far are as they should be
(`Beat.Waits`).

The job repeats with a positive period, and its body does not panic when it is called
(`Job.Recurs`). How long a run takes is up to the body. Of the rest of the mesh it is supposed only
that it is sane and leaves the schedule alone; what is queued may be taken up in any order, and time
passes only while nothing is queued and not beyond the next end of a wait. So the task that drives
the schedule is queued exactly at the time that it has waited for, which is why the beats lie at the
points of the grid and not somewhere after them.

The invariant is shown once for each place where the task may be taken up, and the two ways in which
that can happen are apart: it begins a run (`Paced.tick`), or it looks after the run in flight,
which goes on, ends before the next point or ends after it. The theorems:

* `Paced.passes`: moves that leave the schedule alone leave its pace.
* `Paced.tick`, `Paced.endRun`: a run begins or ends when the task is taken up.
* `keeps_paced`: whatever happens, the schedule keeps its pace.
* `Paced.not_overdue`, `Paced.not_ended`: once nothing is queued, the next run is not overdue and no
  end of a run is overlooked.
-/

set_option autoImplicit false

namespace CommandMesh

/-- The job repeats with that period, and its body does not panic when it is called. -/
structure Job.Recurs (job : Job) (period : Span) : Prop where
  interval : job.timer.interval = some period
  positive : 0 < period
  body : ∀ t : Timetable, t.refuses job.body = false

/-- When a job first runs that is registered then. -/
def Timer.origin (t : Timer) (since : Instant) : Instant := since + t.firstDelay since

namespace Mesh

variable {m m' : Mesh} {x : Nat × Nat} {s : Schedule} {t : Task} {job : Job} {since : Instant}
  {period : Span} {bs : List Beat}

/-- How far the task has got that drives a schedule whose runs the clock waits for. -/
inductive Standing (x : Nat × Nat) (timer : Timer) (since : Instant) (period : Span)
    (now : Instant) : Work → Option Wait → List Beat → Prop
  /-- It has just been started. -/
  | fresh : now = since → Standing x timer since period now (.drive x.1 x.2) none []
  /-- The first run is awaited. -/
  | delayed {wait : Option Wait} : Awaits now (timer.origin since) wait →
      Standing x timer since period now (.driveFirst x.1 x.2) wait []
  /-- A run has ended, and the next point of the grid is awaited. -/
  | resting {bs : List Beat} {s e point : Instant} {wait : Option Wait} : Awaits now point wait →
      (Beat.starts bs).getLast? = some s → (Beat.ends bs).getLast? = some e → e ≤ point →
      IsNextPoint (timer.origin since) period s point →
      (Beat.starts bs).length = (Beat.ends bs).length →
      Standing x timer since period now (.driveTick x.1 x.2 period point) wait bs
  /-- The end of a run is awaited. -/
  | running {bs : List Beat} {s point : Instant} {task : Nat} {wait : Option Wait} :
      wait = none ∨ wait = some (.result task) → (Beat.starts bs).getLast? = some s →
      IsNextPoint (timer.origin since) period s point →
      (Beat.starts bs).length = (Beat.ends bs).length + 1 →
      Standing x timer since period now (.driveRun x.1 x.2 task (some (period, point))) wait bs

/-- The schedule has kept its pace so far, and the task that drives it stands as it should. -/
structure Paced (x : Nat × Nat) (job : Job) (since : Instant) (period : Span) (m : Mesh)
    (bs : List Beat) : Prop extends Logged x job m bs where
  loop : ∃ t, m.about x = [t] ∧ t.halted = false ∧
    Standing x job.timer since period m.now t.work t.wait bs
  waits : Beat.Waits (job.timer.origin since) period bs

/-- Moves that leave the schedule alone leave its pace, though time may pass by them. -/
theorem Paced.passes (h : Paced x job since period m bs) (hpasses : Passes x m m') :
    Paced x job since period m' bs where
  toLogged := h.toLogged.passes hpasses
  loop := by
    obtain ⟨t, habout, hgoes, hstanding⟩ := h.loop
    have hrests := hpasses.about
    rw [habout] at hrests
    -- The one task about the schedule is still the only one.
    obtain ⟨t', others, hrest, hnil, habout'⟩ := List.forall₂_cons_left_iff.mp hrests
    obtain rfl := List.forall₂_nil_left_iff.mp hnil
    have ht : t ∈ m.about x := by simp [habout]
    refine ⟨t', habout', hrest.halted.trans hgoes, ?_⟩
    rw [hrest.work]
    generalize hwork : t.work = w at hstanding ⊢
    generalize hwait : t.wait = wait at hstanding
    cases hstanding with
    | fresh hnow =>
      obtain ⟨hnone, hsame⟩ := hpasses.queued ht hrest hwait
      rw [hnone]
      exact .fresh (hsame.trans hnow)
    | delayed hawaits => exact .delayed ((hwait ▸ hawaits).passes ht hpasses hrest)
    | resting hawaits hs he hle hpoint hlength =>
      exact .resting ((hwait ▸ hawaits).passes ht hpasses hrest) hs he hle hpoint hlength
    | running hwaits hs hpoint hlength =>
      refine .running ?_ hs hpoint hlength
      rcases hrest.wait with hsame | ⟨hnone, -⟩
      · rwa [hsame, hwait]
      · exact .inl hnone
  waits := h.waits

/-- The task that drives the schedule is taken up and goes on with other work. -/
theorem Paced.stride (h : Paced x job since period m bs) (hsane : Sane m)
    (hregistered : m.shouldDrive x.1 x.2 = true) (habout : m.about x = [t])
    (hgoes : t.halted = false) (hs : m.schedule? x.1 x.2 = some s) {w : Work} {wait : Wait}
    {f : Schedule → Schedule} {new : List Beat}
    (hrun : (m.taken t).run t.work = (m', .waits w wait)) (htreats : Treats x f (m.taken t) m')
    (hsame : m'.about x = m.about x) (hw : w.subject? = some x) (hjob : (f s).job = job)
    (hbeats : s.beats (f s) m.now = new) (hcounts : (f s).Counts (bs ++ new))
    (hstanding : Standing x job.timer since period m.now w (some wait) (bs ++ new))
    (hwaits : Beat.Waits (job.timer.origin since) period (bs ++ new)) :
    Paced x job since period (m.takeUp t.number) (bs ++ beats x m (m.takeUp t.number)) := by
  have ht : t ∈ m.about x := by simp [habout]
  obtain ⟨htaken, hlist, hsettles, hnow, hlogged⟩ := h.toLogged.takeUp hsane hregistered
    (mem_about.mp ht).1 hgoes hs hrun htreats hjob hbeats hcounts
  rw [hlist, htaken]
  have hnoted : Paced x job since period (m'.note t (.waits w wait)) (bs ++ new) := by
    refine ⟨hlogged, ⟨{ t with work := w, wait := some wait }, ?_, hgoes, hnow ▸ hstanding⟩,
      hwaits⟩
    exact about_note_at hsane.tidy ht htreats.tasks hw [] [] (hsame.trans habout) (by simp)
  exact hnoted.passes hsettles

/-- Taken up at a point of the grid, the task calls the schedule and a run begins. -/
theorem Paced.tick (h : Paced x job since period m bs) (hsane : Sane m)
    (hregistered : m.shouldDrive x.1 x.2 = true) (hjob : job.Recurs period)
    (hshort : job.longRunning = false) (habout : m.about x = [t]) (hgoes : t.halted = false)
    {point : Instant}
    (hrun : (m.taken t).run t.work = (m.taken t).runTick x.1 x.2 period point)
    (hidle : (Beat.starts bs).length = (Beat.ends bs).length)
    (hpoint : ∃ j, point = job.timer.origin since + j * period) (hle : point ≤ m.now)
    (hdue : Beat.Due (job.timer.origin since) period bs m.now) :
    Paced x job since period (m.takeUp t.number) (bs ++ beats x m (m.takeUp t.number)) := by
  -- As many runs have ended as have begun, so the flag of the schedule is clear and the call
  -- becomes a run.
  obtain ⟨s, hs, rfl, hcounts⟩ := h.record
  have hactive : s.active = false := hcounts.active_eq_false hidle
  have hnext := Timer.isLeast_nextTick hjob.positive hpoint hle
  have hbegun := driveOnce_of_short (m := m.taken t) hs hshort hactive hjob.body
    (some (period, Timer.nextTick period point m.now))
  refine h.stride hsane hregistered habout hgoes hs (hrun.trans hbegun) (treats_begun _ x.1 x.2 _)
    (about_begun x _ x.1 x.2 _) rfl (s.kept_begin m.now).1
    (Schedule.beats_begin hactive m.now m.now) (hcounts.begin hactive m.now m.now)
    (.running (.inr rfl) ?_ hnext ?_) (h.waits.begin hdue)
  · rw [Beat.starts_snoc]
    exact List.getLast?_concat
  · simp [Beat.starts_snoc, Beat.ends_snoc, Beat.start?, Beat.end?, hidle]

/-! ### The end of a run -/

/-- The task `t` waits for the end of a run that began at `first`, and `point` is the point of the
grid that the next run is for. -/
structure AwaitsEnd (x : Nat × Nat) (origin : Instant) (period : Span) (bs : List Beat) (t : Task)
    (first point : Instant) (task : Nat) : Prop where
  going : t.halted = false
  work : t.work = .driveRun x.1 x.2 task (some (period, point))
  began : (Beat.starts bs).getLast? = some first
  next : IsNextPoint origin period first point
  length : (Beat.starts bs).length = (Beat.ends bs).length + 1

section EndOfRun
variable {first point : Instant} {task : Nat} {e : Ending}

/-- When the run has ended, as many runs have ended as have begun. -/
theorem AwaitsEnd.length_ended {origin : Instant} (h : AwaitsEnd x origin period bs t first point
    task) (now : Instant) : (Beat.starts (bs ++ [.ended now])).length =
      (Beat.ends (bs ++ [.ended now])).length := by
  rw [Beat.starts_snoc, Beat.ends_snoc, List.length_append, List.length_append, h.length]
  rfl

/-- The run that began last is still that one when it has ended. -/
theorem AwaitsEnd.began_ended {origin : Instant} (h : AwaitsEnd x origin period bs t first point
    task) (now : Instant) : (Beat.starts (bs ++ [.ended now])).getLast? = some first := by
  rw [Beat.starts_snoc]
  exact (congrArg List.getLast? (List.append_nil _)).trans h.began

/-- An end that was just noted is the last one. -/
theorem getLast?_ends_ended (bs : List Beat) (now : Instant) :
    (Beat.ends (bs ++ [.ended now])).getLast? = some now := by
  rw [Beat.ends_snoc]
  exact List.getLast?_concat

/-- An end at the present keeps the pace, for the run did not begin later. -/
theorem Paced.waits_ended (h : Paced x job since period m bs)
    (hend : AwaitsEnd x (job.timer.origin since) period bs t first point task) :
    Beat.Waits (job.timer.origin since) period (bs ++ [.ended m.now]) :=
  h.waits.finish hend.began hend.length
    (h.past (.began first) (Beat.mem_starts.mp (List.mem_of_getLast? hend.began)))

/-- While the body has not ended, the task goes on waiting for it. -/
theorem Paced.awaitEnd (h : Paced x job since period m bs) (hsane : Sane m)
    (hregistered : m.shouldDrive x.1 x.2 = true) (habout : m.about x = [t])
    (hend : AwaitsEnd x (job.timer.origin since) period bs t first point task)
    (hrun : (m.taken t).run t.work =
      (m.taken t, .waits (.driveRun x.1 x.2 task (some (period, point))) (.result task))) :
    Paced x job since period (m.takeUp t.number) (bs ++ beats x m (m.takeUp t.number)) := by
  obtain ⟨s, hs, rfl, hcounts⟩ := h.record
  refine h.stride (f := id) hsane hregistered habout hend.going hs hrun (.refl x _) rfl rfl rfl
    (s.beats_self m.now) ?_ ?_ ?_
  all_goals rw [List.append_nil]
  · exact hcounts
  · exact .running (.inr rfl) hend.began hend.next hend.length
  · exact h.waits

/-- The body has ended and the next point is over, so the next run begins at once. -/
theorem Paced.endAndBegin (h : Paced x job since period m bs) (hsane : Sane m)
    (hregistered : m.shouldDrive x.1 x.2 = true) (hjob : job.Recurs period)
    (hshort : job.longRunning = false) (habout : m.about x = [t])
    (hend : AwaitsEnd x (job.timer.origin since) period bs t first point task)
    (hover : point ≤ m.now)
    (hrun : (m.taken t).run t.work =
      ((m.taken t).concluded x.1 x.2 task e).runTick x.1 x.2 period point) :
    Paced x job since period (m.takeUp t.number) (bs ++ beats x m (m.takeUp t.number)) := by
  obtain ⟨s, hs, rfl, hcounts⟩ := h.record
  have hactive : s.active = true := hcounts.active_eq_true hend.length
  have htreats := treats_concluded (m.taken t) x.1 x.2 task e
  have hrecord : ((m.taken t).concluded x.1 x.2 task e).schedule? x.1 x.2 =
      some (s.finish e) := by
    rw [htreats.record]
    exact congrArg (Option.map (·.finish e)) hs
  have hbegun := driveOnce_of_short hrecord hshort rfl hjob.body
    (some (period, Timer.nextTick period point m.now))
  have hdue : Beat.Due (s.job.timer.origin since) period (bs ++ [.ended m.now]) m.now := by
    have hnext := Beat.Due.next (hend.began_ended m.now) (getLast?_ends_ended bs m.now)
      (hend.length_ended m.now) hend.next
    rwa [Nat.max_eq_left hover] at hnext
  -- Two beats at once, the end of the one run and the beginning of the other.
  have hsplit (b : Beat) : bs ++ [.ended m.now, b] = (bs ++ [.ended m.now]) ++ [b] := by simp
  refine h.stride hsane hregistered habout hend.going hs (hrun.trans hbegun)
    (htreats.trans (treats_begun _ x.1 x.2 _)) (about_begun x _ x.1 x.2 _) rfl
    ((s.finish e).kept_begin m.now).1 (Schedule.beats_finish_begin hactive e m.now m.now)
    ?_ ?_ ?_
  all_goals rw [hsplit]
  · exact (hcounts.finish hactive e m.now).begin rfl m.now m.now
  · refine .running (.inr rfl) ?_ (Timer.isLeast_nextTick hjob.positive hend.next.1.1 hover) ?_
    · rw [Beat.starts_snoc]
      exact List.getLast?_concat
    · rw [Beat.starts_snoc, Beat.ends_snoc, List.length_append, hend.length_ended]
      simp [Beat.start?, Beat.end?]
  · exact (h.waits_ended hend).begin hdue

/-- The body has ended and the next point is still to come, so the task waits for it. -/
theorem Paced.endAndRest (h : Paced x job since period m bs) (hsane : Sane m)
    (hregistered : m.shouldDrive x.1 x.2 = true) (habout : m.about x = [t])
    (hend : AwaitsEnd x (job.timer.origin since) period bs t first point task)
    (hcoming : m.now ≤ point)
    (hrun : (m.taken t).run t.work = ((m.taken t).concluded x.1 x.2 task e,
      .waits (.driveTick x.1 x.2 period point) (.time point))) :
    Paced x job since period (m.takeUp t.number) (bs ++ beats x m (m.takeUp t.number)) := by
  obtain ⟨s, hs, rfl, hcounts⟩ := h.record
  have hactive : s.active = true := hcounts.active_eq_true hend.length
  refine h.stride hsane hregistered habout hend.going hs hrun
    (treats_concluded (m.taken t) x.1 x.2 task e) rfl rfl rfl
    (Schedule.beats_finish hactive e m.now) (hcounts.finish hactive e m.now) ?_ (h.waits_ended hend)
  exact .resting (.inl ⟨rfl, hcoming⟩) (hend.began_ended m.now) (getLast?_ends_ended bs m.now)
    hcoming hend.next (hend.length_ended m.now)

/-- Taken up while a run is in flight, the task ends the run if its body has ended. It begins the
next run at once if the next point of the grid is over. -/
theorem Paced.endRun (h : Paced x job since period m bs) (hsane : Sane m)
    (hregistered : m.shouldDrive x.1 x.2 = true) (hjob : job.Recurs period)
    (hshort : job.longRunning = false) (habout : m.about x = [t])
    (hend : AwaitsEnd x (job.timer.origin since) period bs t first point task) :
    Paced x job since period (m.takeUp t.number) (bs ++ beats x m (m.takeUp t.number)) := by
  have hrun : (m.taken t).run t.work =
      (m.taken t).runDriveRun x.1 x.2 task (some (period, point)) := by
    rw [hend.work]
    rfl
  unfold runDriveRun at hrun
  rcases endRun?_eq (m.taken t) x.1 x.2 task with hnone | ⟨e, hended⟩
  · rw [hnone] at hrun
    exact h.awaitEnd hsane hregistered habout hend hrun
  · rw [hended] at hrun
    by_cases hover : point ≤ m.now
    · exact h.endAndBegin hsane hregistered hjob hshort habout hend hover
        (hrun.trans (if_pos hover))
    · exact h.endAndRest hsane hregistered habout hend (Nat.le_of_not_le hover)
        (hrun.trans (if_neg hover))

end EndOfRun

/-- The task that drives the schedule is taken up. -/
theorem Paced.takeUp (h : Paced x job since period m bs) (hsane : Sane m)
    (hregistered : m.shouldDrive x.1 x.2 = true) (hjob : job.Recurs period)
    (hshort : job.longRunning = false) (ht : t ∈ m.about x) (hqueued : t.number ∈ m.queue) :
    Paced x job since period (m.takeUp t.number) (bs ++ beats x m (m.takeUp t.number)) := by
  obtain ⟨t₀, habout, hgoes, hstanding⟩ := h.loop
  obtain rfl : t = t₀ := by simpa [habout] using ht
  have hwait : t.wait = none := (hsane.tidy.queued t (mem_about.mp ht).1).mpr (.inl hqueued)
  obtain ⟨s, hs, hsjob, hcounts⟩ := h.record
  -- At the first point the period is read off from the job.
  have hfirst : (m.taken t).runFirst x.1 x.2 = (m.taken t).runTick x.1 x.2 period m.now :=
    runFirst_of_interval hs (hsjob ▸ hjob.interval) hjob.positive
  generalize hwork : t.work = w at hstanding
  generalize hwait' : t.wait = wait at hstanding
  cases hstanding with
  | fresh hnow =>
    have horigin : job.timer.origin since = m.now + job.timer.firstDelay m.now := by
      rw [Timer.origin, hnow]
    have hrun : (m.taken t).run t.work = (m.taken t).runDrive x.1 x.2 := by
      rw [hwork]
      rfl
    rw [runDrive_eq (m := m.taken t) hs, hsjob] at hrun
    by_cases hdelay : job.timer.firstDelay m.now = 0
    · -- Without a delay the first run begins at once.
      rw [hdelay, Nat.add_zero] at horigin
      have hticks := (hrun.trans (if_pos hdelay)).trans hfirst
      exact h.tick hsane hregistered hjob hshort habout hgoes hticks rfl ⟨0, by simp [horigin]⟩
        (Nat.le_refl _) (horigin ▸ .first rfl)
    · refine h.stride (f := id) hsane hregistered habout hgoes hs (hrun.trans (if_neg hdelay))
        (.refl x _) rfl rfl hsjob (s.beats_self m.now) hcounts (.delayed (.inl ⟨?_, ?_⟩)) h.waits
      · rw [horigin]
      · rw [horigin]
        exact Nat.le_add_right _ _
  | delayed hawaits =>
    have horigin := (hwait' ▸ hawaits).now_eq hwait
    have hrun : (m.taken t).run t.work = (m.taken t).runFirst x.1 x.2 := by
      rw [hwork]
      rfl
    exact h.tick hsane hregistered hjob hshort habout hgoes (hrun.trans hfirst) rfl
      ⟨0, by simp [horigin]⟩ (Nat.le_refl _) (horigin ▸ .first rfl)
  | resting hawaits hstart hend hle hpoint hlength =>
    -- The end of the last run lies before the point, so the later of the two is the point.
    have hnow := (hwait' ▸ hawaits).now_eq hwait
    have hdue := Beat.Due.next hstart hend hlength hpoint
    rw [Nat.max_eq_right hle, ← hnow] at hdue
    exact h.tick hsane hregistered hjob hshort habout hgoes (by rw [hwork]; rfl) hlength
      hpoint.1.1 (Nat.le_of_eq hnow.symm) hdue
  | running _ hstart hpoint hlength =>
    exact h.endRun hsane hregistered hjob hshort habout ⟨hgoes, hwork, hstart, hpoint, hlength⟩

/-- Whatever happens, the schedule keeps its pace. -/
theorem keeps_paced (x : Nat × Nat) (since : Instant) (hjob : job.Recurs period)
    (hshort : job.longRunning = false) : Keeps x job (Paced x job since period) where
  logged h := h.toLogged
  passes h := h.passes
  takeUp h hsane hregistered := h.takeUp hsane hregistered hjob hshort

/-- Once nothing is queued, the next run is not overdue. -/
theorem Paced.not_overdue (h : Paced x job since period m bs) (hsane : Sane m)
    (hidle : m.queue = []) {u : Instant} (hdue : Beat.Due (job.timer.origin since) period bs u) :
    m.now < u := by
  obtain ⟨t, habout, -, hstanding⟩ := h.loop
  have ht : t ∈ m.tasks := (mem_about.mp (by simp [habout] : t ∈ m.about x)).1
  generalize hwork : t.work = w at hstanding
  generalize hwait : t.wait = wait at hstanding
  cases hstanding with
  -- A task that was just started is queued, so there is none.
  | fresh => exact absurd hwait (hsane.tidy.wait_ne_none hidle ht)
  | delayed hawaits =>
    cases hdue with
    | first => exact (hwait ▸ hawaits).lt hsane hidle ht
    | next hs => cases hs
  | resting hawaits hs _ _ hpoint =>
    cases hdue with
    | first hnone =>
      rw [hnone] at hs
      cases hs
    | next hs' _ _ hpoint' =>
      obtain rfl := Option.some.inj (hs.symm.trans hs')
      rw [hpoint'.unique hpoint]
      exact Nat.lt_of_lt_of_le ((hwait ▸ hawaits).lt hsane hidle ht) (Nat.le_max_right _ _)
  | running _ hs _ hlength =>
    cases hdue with
    | first hnone =>
      rw [hnone] at hs
      cases hs
    | next _ _ hlength' =>
      exact absurd (hlength'.symm.trans hlength) (Nat.ne_of_lt (Nat.lt_succ_self _))

/-- Once nothing is queued, no end of a run is overlooked. -/
theorem Paced.not_ended (h : Paced x job since period m bs) (hsane : Sane m)
    (hidle : m.queue = []) (ht : t ∈ m.about x) {run : Nat × Nat × Nat}
    (hrun : t.work.runs? = some run) : m.result? run.2.2 = none := by
  obtain ⟨t₀, habout, -, hstanding⟩ := h.loop
  obtain rfl : t = t₀ := by simpa [habout] using ht
  have hmem := (mem_about.mp ht).1
  generalize hwork : t.work = w at hstanding hrun
  generalize hwait : t.wait = wait at hstanding
  cases hstanding with
  | fresh | delayed | resting => cases hrun
  | running hwaits =>
    obtain rfl := Option.some.inj hrun
    exact hsane.timely.result t hmem _
      (hwait.trans (hwaits.resolve_left (hwait ▸ hsane.tidy.wait_ne_none hidle hmem)))

end Mesh

end CommandMesh
