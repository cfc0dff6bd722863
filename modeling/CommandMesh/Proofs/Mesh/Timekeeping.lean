import CommandMesh.Proofs.Mesh.Grid
import CommandMesh.Proofs.Mesh.Removal

/-!
# `CommandMesh.Proofs.Mesh.Timekeeping`: when the clock runs a schedule

A schedule that is registered with a scheduler driven by the clock has its first run after the first
delay of its job, and from then on there is a grid of points that are a period apart. Here the two
kinds of schedules, those whose runs are waited for and those whose runs are tasks of their own, are
followed from the move that registers them.

It is supposed that the mesh is sane and its nodes are orderly, as every mesh that was just put
together is and as fair moves leave it; that there was nothing about the schedule before it was
registered (`Absent`); that its job repeats with a positive period and its body does not panic when
it is called (`Job.Recurs`); and that afterwards nobody starts or drops a task about the schedule by
hand (`Undisturbed`), and it is still registered in the end. Anything else may happen, to other
schedules and on other nodes, and what is queued may be taken up in any order.

Time is that of the mesh: it passes only while nothing is queued, and not beyond the next end of a
wait. So a task that is due is due exactly then, and nothing is said of how long a real machine
takes to get to it. The theorems:

* `registered_schedule_ticks`: when its runs begin and end, and which calls are skipped.
* `late_runs_tick`: runs that last longer than a period, in both modes.
-/

set_option autoImplicit false

namespace CommandMesh

namespace Mesh

variable {m : Mesh} {x : Nat × Nat} {job : Job} {period : Span}

/-- A job is registered that repeats and whose body does not panic when it is called. While its
schedule is registered, whatever happens, and in whatever order queued tasks are taken up:

* the beats in its diary agree with what is counted about it;
* once nothing is queued, so that time may pass, the end of no run is overlooked;
* if the clock waits for runs, the first one begins after the first delay. Each further one begins
  at the later of the end of the run before and the first point of the grid after the beginning of
  the run before. So runs do not overlap and the run of number `k` does not begin before `k` periods
  after the first point. No run that is due is begun late;
* if a run is a task of its own, the schedule is called at every point of the grid, and at no other
  time. Unless a run ends just then, a run begins there if none is in flight, and the call is
  skipped if one is. No call is made late. -/
theorem registered_schedule_ticks (h : Sane m) (hm : m.Orderly) (habsent : Absent x m) {a : Move}
    (hfair : a.IsFair) (ha : a.Leaves x m) (hjob : job.Recurs period)
    (hmade : ((m.move a).schedule? x.1 x.2).map (·.job) = some job) {ms : List Move}
    (hms : Undisturbed x (m.move a) ms)
    (hregistered : ((m.move a).moves ms).shouldDrive x.1 x.2 = true) :
    let m₁ := m.move a
    let m₂ := m₁.moves ms
    let origin := m₁.now + job.timer.firstDelay m₁.now
    let bs := diary x m₁ ms
    (∃ s, m₂.schedule? x.1 x.2 = some s ∧ s.job = job ∧ s.Counts bs) ∧
    (m₂.queue = [] → ∀ t ∈ m₂.about x, ∀ run, t.work.runs? = some run →
      m₂.result? run.2.2 = none) ∧
    (job.longRunning = false →
      Beat.Waits origin period bs ∧
      (∀ (k : Nat) e t, (Beat.ends bs)[k]? = some e → (Beat.starts bs)[k + 1]? = some t → e ≤ t) ∧
      (∀ (k : Nat) t, (Beat.starts bs)[k]? = some t → origin + k * period ≤ t) ∧
      (m₂.queue = [] → ∀ u, Beat.Due origin period bs u → m₂.now < u)) ∧
    (job.longRunning = true →
      Beat.calls bs = (List.range (Beat.calls bs).length).map (fun k => origin + k * period) ∧
      (∀ t ∈ Beat.calls bs, t ∉ Beat.ends bs →
        (t ∈ Beat.starts bs ↔
          (Beat.starts bs).countP (· < t) = (Beat.ends bs).countP (· < t)) ∧
        (t ∈ Beat.skips bs ↔ t ∉ Beat.starts bs)) ∧
      (m₂.queue = [] → m₂.now < origin + (Beat.calls bs).length * period)) := by
  intro m₁ m₂ origin bs
  have hsane : Sane m₁ := h.move hfair
  have hsane' : Sane m₂ := hsane.moves hms.isFair
  obtain ⟨s, hs, rfl⟩ := Option.map_eq_some_iff.mp hmade
  have hbefore := (endures_moves hsane hms (by rw [hs]; rfl)).2 hregistered
  -- Right after the move nothing has happened yet, and one task is there to drive the schedule.
  obtain ⟨hdriven, ⟨k, habout⟩, s', hs', hbare⟩ := habsent.move h hm hfair ha hbefore
  obtain rfl := Option.some.inj (hs.symm.trans hs')
  have hlogged : Logged x s.job m₁ [] :=
    ⟨hdriven, ⟨s, hs, rfl, (Schedule.counts_new s.job none).of_bare hbare⟩, by simp⟩
  -- What has happened is then a run of the invariant that belongs to the mode of the job.
  cases hlong : s.job.longRunning with
  | false =>
    have hfresh : Paced x s.job m₁.now period m₁ [] :=
      ⟨hlogged, ⟨_, habout, rfl, .fresh rfl⟩, Beat.waits_nil _ _⟩
    have hpaced := (keeps_paced x m₁.now hjob hlong).moves hfresh hsane hms hregistered
    rw [List.nil_append] at hpaced
    refine ⟨hpaced.record, fun hidle t ht run hrun => hpaced.not_ended hsane' hidle ht hrun,
      fun _ => ⟨hpaced.waits, fun k e t => hpaced.waits.ended_le_start,
        fun k t => hpaced.waits.le_start, fun hidle u => hpaced.not_overdue hsane' hidle⟩, nofun⟩
  | true =>
    have hfresh : Gridded x s.job m₁.now period m₁ [] := by
      refine ⟨hlogged, ?_, Beat.skips_nil _ _⟩
      rw [habout]
      have hstands : Ticks x s.job.timer m₁.now period m₁.now (.drive x.1 x.2) none
          ((Beat.calls []).length + false.toNat) := .fresh rfl
      exact .intro rfl hstands .nobody rfl nofun
    have hgridded := (keeps_gridded x m₁.now hjob hlong).moves hfresh hsane hms hregistered
    rw [List.nil_append] at hgridded
    refine ⟨hgridded.record, fun hidle t ht run hrun => hgridded.not_ended hsane' hidle ht hrun,
      nofun, fun _ => ⟨hgridded.skips.grid,
        fun t ht hclear => hgridded.skips.began_iff hjob.positive ht hclear,
        fun hidle => hgridded.not_overdue hsane' hidle⟩⟩

/-- A job whose runs take two and a half periods. -/
def tardyJob (longRunning : Bool) : Job where
  name := "report"
  timer := { interval := some 10, initialDelay := some 5 }
  body := .host 0 ⟨fun _ => false, fun _ => ⟨25, .ok⟩⟩
  longRunning

/-- What goes on until the second run of the job has begun. -/
def tardyMoves (longRunning : Bool) : List Move :=
  if longRunning then
    [.takeUp 0, .wait 5, .takeUp 0, .takeUp 1, .takeUp 2, .wait 15, .takeUp 0, .takeUp 3, .wait 25,
      .takeUp 0, .takeUp 4, .wait 30, .takeUp 2, .takeUp 1, .wait 35, .takeUp 0, .takeUp 5]
  else [.takeUp 0, .wait 5, .takeUp 0, .takeUp 1, .wait 30, .takeUp 1, .takeUp 0]

/-- A run that lasts too long is followed by the next one at once, or calls are skipped during
it. -/
theorem late_runs_tick :
    ∃ n, plainNode.build { scope := 0 } 0 = .ok n ∧
      let bs := fun long => diary (0, 0)
        ((connectAll [n]).1.move (.act 0 (.addJob (tardyJob long)))) (tardyMoves long)
      (bs false = [.began 5, .ended 30, .began 30] ∧ Beat.Waits 5 10 (bs false)) ∧
        bs true = [.began 5, .skipped 15, .skipped 25, .ended 30, .began 35] ∧
        Beat.calls (bs true) = (List.range 4).map fun k => 5 + k * 10 := by
  have hbuilt : (plainNode.build { scope := 0 } 0).toOption.any (fun n =>
      let m₁ := fun long => (connectAll [n]).1.move (.act 0 (.addJob (tardyJob long)))
      let m₂ := fun long => (m₁ long).moves (tardyMoves long)
      n.roster.timetable.schedules.isEmpty && (m₁ false).now == 0 && (m₁ true).now == 0 &&
        (m₂ false).shouldDrive 0 0 && (m₂ true).shouldDrive 0 0 &&
        diary (0, 0) (m₁ false) (tardyMoves false) == [.began 5, .ended 30, .began 30] &&
        diary (0, 0) (m₁ true) (tardyMoves true) ==
          [.began 5, .skipped 15, .skipped 25, .ended 30, .began 35]) = true := by
    decide +kernel
  simp only [Option.any_eq_true, Bool.and_eq_true, beq_iff_eq, List.isEmpty_iff] at hbuilt
  obtain ⟨n, hbuilt, ⟨⟨⟨⟨⟨hnone, hnow⟩, hnow'⟩, hregistered⟩, hregistered'⟩, hshort⟩, hlong⟩ :=
    hbuilt
  have hbuilt := ok_of_toOption hbuilt
  refine ⟨n, hbuilt, ?_⟩
  obtain ⟨hnew, -⟩ := Blueprint.isNew_of_build hbuilt
  have horderly : (connectAll [n]).1.Orderly := by
    simpa [Orderly, connectAll] using ⟨hnew.settled, hnew.inStep⟩
  have habsent : Absent (0, 0) (connectAll [n]).1 := by
    refine ⟨⟨n, rfl, ?_⟩, by simp [connectAll], rfl⟩
    simp [Timetable.find?, hnone]
  have hlaw (long : Bool) (hregistered : (((connectAll [n]).1.move
      (.act 0 (.addJob (tardyJob long)))).moves (tardyMoves long)).shouldDrive 0 0 = true) := by
    have hrecurs : (tardyJob long).Recurs 10 := ⟨rfl, by decide, fun _ => rfl⟩
    have hmade := schedule?_addJob (m := (connectAll [n]).1) (i := 0) rfl (tardyJob long)
    rw [hnone] at hmade
    have hundisturbed : Undisturbed (0, 0)
        ((connectAll [n]).1.move (.act 0 (.addJob (tardyJob long)))) (tardyMoves long) :=
      undisturbed_of_isOwn (by cases long <;> decide) _
    exact registered_schedule_ticks (x := (0, 0)) (a := .act 0 (.addJob (tardyJob long)))
      (sane_connectAll [n]) horderly habsent trivial trivial hrecurs hmade hundisturbed hregistered
  obtain ⟨-, -, hwaits, -⟩ := hlaw false hregistered
  obtain ⟨-, -, -, hgrid⟩ := hlaw true hregistered'
  refine ⟨⟨hshort, ?_⟩, hlong, ?_⟩
  · have horigin := (hwaits rfl).1
    rw [hnow] at horigin
    exact horigin
  · have hcalls := (hgrid rfl).1
    rw [hnow', hlong] at hcalls
    dsimp only
    rw [hlong]
    exact hcalls

end Mesh

end CommandMesh
