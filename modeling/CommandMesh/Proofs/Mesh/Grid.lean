import CommandMesh.Proofs.Mesh.Pace

/-!
# `CommandMesh.Proofs.Mesh.Grid`: a schedule whose runs are tasks of their own

One task drives the schedule. At each point of the grid it starts a task that calls the schedule,
and waits for the next point. The call becomes the run in flight, or is skipped if there is one. So
at any time there are up to three tasks about the schedule (`Cast`): the one that drives it, a run
in flight (`IsRun`), and a call that was made just now (`IsCall`). `Gridded` says so, and that the
beats so far are as they should be (`Beat.Skips`).

As for a schedule whose runs are waited for, the job repeats with a positive period, its body does
not panic when it is called, and nobody disturbs the schedule by hand. A run may last as long as it
likes.

A call is queued as it is made, and no time passes while anything is queued. So it is taken up at
the very point of the grid at which it was made, before the next one is due, and there are never two
calls at once. That is what the clause of `Cast` about a pending call says, and the whole invariant
hangs on it: the number of calls so far, with the one that is pending, is the number of points that
have come. Whether the call or the end of a run comes first, where both are queued at once, is open.
The theorems:

* `Gridded.tick`, `Gridded.begin`, `Gridded.skip`, `Gridded.endRun`: what becomes of the tasks when
  one of them is taken up.
* `keeps_gridded`: whatever happens, the schedule keeps to the grid.
* `Gridded.not_overdue`, `Gridded.not_ended`: once nothing is queued, no call is overdue and no end
  of a run is overlooked.
-/

set_option autoImplicit false

namespace CommandMesh

namespace Mesh

variable {m m' : Mesh} {x : Nat × Nat} {s : Schedule} {t t' : Task} {ts : List Task} {job : Job}
  {timer : Timer} {since now : Instant} {period : Span} {bs : List Beat} {active pending : Bool}

/-! ### Tasks about such a schedule -/

/-- How far the task has got that drives a schedule whose runs are tasks of their own, after that
many calls. -/
inductive Ticks (x : Nat × Nat) (timer : Timer) (since : Instant) (period : Span) (now : Instant) :
    Work → Option Wait → Nat → Prop
  /-- It has just been started. -/
  | fresh : now = since → Ticks x timer since period now (.drive x.1 x.2) none 0
  /-- The first point of the grid is awaited. -/
  | delayed {wait : Option Wait} : Awaits now (timer.origin since) wait →
      Ticks x timer since period now (.driveFirst x.1 x.2) wait 0
  /-- The next point of the grid is awaited. -/
  | ticking {k : Nat} {wait : Option Wait} : Awaits now (timer.origin since + k * period) wait →
      Ticks x timer since period now
        (.driveTick x.1 x.2 period (timer.origin since + k * period)) wait k

/-- The task that drives the schedule waits for no run. -/
theorem Ticks.runs?_eq_none {w : Work} {wait : Option Wait} {k : Nat}
    (h : Ticks x timer since period now w wait k) : w.runs? = none := by
  cases h <;> rfl

/-- The task is a call of the schedule that was just made. -/
structure IsCall (x : Nat × Nat) (t : Task) : Prop where
  work : t.work = .execute x.1 x.2
  going : t.halted = false
  queued : t.wait = none

/-- The task is a run in flight of the schedule. -/
structure IsRun (x : Nat × Nat) (t : Task) : Prop where
  going : t.halted = false
  waits : ∃ task, t.work = .executed x.1 x.2 task ∧
    (t.wait = none ∨ t.wait = some (.result task))

/-- The tasks about a schedule that do not drive it: the run in flight, if there is one, and after
it a call that was just made, if there is one. -/
inductive Hands (x : Nat × Nat) : (active pending : Bool) → List Task → Prop
  | nobody : Hands x false false []
  | call {c : Task} : IsCall x c → Hands x false true [c]
  | run {r : Task} : IsRun x r → Hands x true false [r]
  | both {r c : Task} : IsRun x r → IsCall x c → Hands x true true [r, c]

/-- A call is made while none is pending. -/
theorem Hands.snoc (h : Hands x active false ts) (ht : IsCall x t) :
    Hands x active true (ts ++ [t]) := by
  cases h with
  | nobody => exact .call ht
  | run hrun => exact .both hrun ht

/-- A run takes the place of the run in flight while there is none. -/
theorem Hands.cons (h : Hands x false pending ts) (ht : IsRun x t) :
    Hands x true pending (t :: ts) := by
  cases h with
  | nobody => exact .run ht
  | call hcall => exact .both ht hcall

/-- All tasks about the schedule: the one that drives it and those that do not. A call is pending
only at a point of the grid. -/
inductive Cast (x : Nat × Nat) (timer : Timer) (since : Instant) (period : Span) (now : Instant)
    (bs : List Beat) : List Task → Prop
  | intro {loop : Task} {others : List Task} {active pending : Bool} : loop.halted = false →
      Ticks x timer since period now loop.work loop.wait ((Beat.calls bs).length + pending.toNat) →
      Hands x active pending others →
      (Beat.starts bs).length = (Beat.ends bs).length + active.toNat →
      (pending = true → now = timer.origin since + (Beat.calls bs).length * period) →
      Cast x timer since period now bs (loop :: others)

/-- A run in flight stays one as moves leave the schedule alone, and is queued once its body has
ended. -/
theorem IsRun.passes (h : IsRun x t) (hrests : Rests m t t') : IsRun x t' := by
  obtain ⟨hgoes, task, hwork, hwaits⟩ := h
  refine ⟨hrests.halted.trans hgoes, task, hrests.work.trans hwork, ?_⟩
  rcases hrests.wait with hsame | ⟨hnone, -⟩
  · rwa [hsame]
  · exact .inl hnone

/-- A call stays queued as moves leave the schedule alone, so no time passes. -/
theorem IsCall.passes (h : IsCall x t) (ht : t ∈ m.about x) (hpasses : Passes x m m')
    (hrests : Rests m' t t') : IsCall x t' ∧ m'.now = m.now := by
  obtain ⟨hnone, hnow⟩ := hpasses.queued ht hrests h.queued
  exact ⟨⟨hrests.work.trans h.work, hrests.halted.trans h.going, hnone⟩, hnow⟩

/-- The task that drives the schedule stays where it is as moves leave the schedule alone. -/
theorem Ticks.passes {k : Nat} (h : Ticks x timer since period m.now t.work t.wait k)
    (ht : t ∈ m.about x) (hpasses : Passes x m m') (hrests : Rests m' t t') :
    Ticks x timer since period m'.now t'.work t'.wait k := by
  rw [hrests.work]
  generalize hwork : t.work = w at h ⊢
  generalize hwait : t.wait = wait at h
  cases h with
  | fresh hnow =>
    obtain ⟨hnone, hsame⟩ := hpasses.queued ht hrests hwait
    rw [hnone]
    exact .fresh (hsame.trans hnow)
  | delayed hawaits => exact .delayed ((hwait ▸ hawaits).passes ht hpasses hrests)
  | ticking hawaits => exact .ticking ((hwait ▸ hawaits).passes ht hpasses hrests)

/-- The task that drives the schedule is queued only when it should go on. -/
theorem Ticks.due {k : Nat} (h : Ticks x timer since period now t.work t.wait k)
    (hwait : t.wait = none) :
    k = 0 ∧ (t.work = .drive x.1 x.2 ∧ now = since ∨
        t.work = .driveFirst x.1 x.2 ∧ now = timer.origin since) ∨
      t.work = .driveTick x.1 x.2 period now ∧ now = timer.origin since + k * period := by
  generalize hwork : t.work = w at h ⊢
  generalize hwait' : t.wait = wait at h
  cases h with
  | fresh hnow => exact .inl ⟨rfl, .inl ⟨rfl, hnow⟩⟩
  | delayed hawaits => exact .inl ⟨rfl, .inr ⟨rfl, (hwait' ▸ hawaits).now_eq hwait⟩⟩
  | ticking hawaits =>
    have hnow := (hwait' ▸ hawaits).now_eq hwait
    exact .inr ⟨by rw [hnow], hnow⟩

/-- Once nothing is queued, the next point of the grid has not come. -/
theorem Ticks.lt {k : Nat} (h : Ticks x timer since period m.now t.work t.wait k) (hsane : Sane m)
    (hidle : m.queue = []) (ht : t ∈ m.tasks) : m.now < timer.origin since + k * period := by
  generalize hwork : t.work = w at h
  generalize hwait : t.wait = wait at h
  cases h with
  | fresh => exact absurd hwait (hsane.tidy.wait_ne_none hidle ht)
  | delayed hawaits =>
    rw [Nat.zero_mul, Nat.add_zero]
    exact (hwait ▸ hawaits).lt hsane hidle ht
  | ticking hawaits => exact (hwait ▸ hawaits).lt hsane hidle ht

/-- The other tasks about the schedule stay what they are, and no time passes while a call is
pending. -/
theorem Hands.passes (h : Hands x active pending ts) (hts : ∀ t ∈ ts, t ∈ m.about x)
    (hpasses : Passes x m m') {ts' : List Task} (hrests : List.Forall₂ (Rests m') ts ts') :
    Hands x active pending ts' ∧ (pending = true → m'.now = m.now) := by
  cases h with
  | nobody =>
    cases hrests
    exact ⟨.nobody, nofun⟩
  | call hcall =>
    cases hrests with
    | cons hrest hnil =>
      cases hnil
      obtain ⟨hcall', hnow⟩ := hcall.passes (hts _ List.mem_cons_self) hpasses hrest
      exact ⟨.call hcall', fun _ => hnow⟩
  | run hrun =>
    cases hrests with
    | cons hrest hnil =>
      cases hnil
      exact ⟨.run (hrun.passes hrest), nofun⟩
  | both hrun hcall =>
    cases hrests with
    | cons hrest hrests =>
      cases hrests with
      | cons hrest' hnil =>
        cases hnil
        obtain ⟨hcall', hnow⟩ :=
          hcall.passes (hts _ (List.mem_cons_of_mem _ List.mem_cons_self)) hpasses hrest'
        exact ⟨.both (hrun.passes hrest) hcall', fun _ => hnow⟩

/-- All tasks about the schedule stay what they are as moves leave it alone. -/
theorem Cast.passes (h : Cast x timer since period m.now bs (m.about x))
    (hpasses : Passes x m m') : Cast x timer since period m'.now bs (m'.about x) := by
  have hrests := hpasses.about
  -- The list of tasks is taken as it is, so that it can be split into the one that drives and the
  -- others.
  generalize hlist : m.about x = tasks at h hrests
  generalize m'.about x = tasks' at hrests ⊢
  have hmem : ∀ t ∈ tasks, t ∈ m.about x := fun t ht => hlist ▸ ht
  cases h with
  | intro hgoes hticks hhands hflight hpunctual =>
    cases hrests with
    | cons hrest hrests =>
      have hticks' := hticks.passes (hmem _ List.mem_cons_self) hpasses hrest
      obtain ⟨hhands', hnow⟩ :=
        hhands.passes (fun t ht => hmem t (List.mem_cons_of_mem _ ht)) hpasses hrests
      exact .intro (hrest.halted.trans hgoes) hticks' hhands' hflight
        fun hpending => (hnow hpending).trans (hpunctual hpending)

/-! ### Keeping to the grid -/

/-- The schedule has kept to the grid so far, and the tasks about it stand as they should. -/
structure Gridded (x : Nat × Nat) (job : Job) (since : Instant) (period : Span) (m : Mesh)
    (bs : List Beat) : Prop extends Logged x job m bs where
  cast : Cast x job.timer since period m.now bs (m.about x)
  skips : Beat.Skips (job.timer.origin since) period bs

/-- Moves that leave the schedule alone leave it on its grid, though time may pass by them. -/
theorem Gridded.passes (h : Gridded x job since period m bs) (hpasses : Passes x m m') :
    Gridded x job since period m' bs :=
  ⟨h.toLogged.passes hpasses, h.cast.passes hpasses, h.skips⟩

/-- A task about the schedule is taken up. -/
theorem Gridded.stride (h : Gridded x job since period m bs) (hsane : Sane m)
    (hregistered : m.shouldDrive x.1 x.2 = true) (ht : t ∈ m.tasks) (hgoes : t.halted = false)
    (hs : m.schedule? x.1 x.2 = some s) {p : Progress} {f : Schedule → Schedule} {new : List Beat}
    (hrun : (m.taken t).run t.work = (m', p)) (htreats : Treats x f (m.taken t) m')
    (hjob : (f s).job = job) (hbeats : s.beats (f s) m.now = new)
    (hcounts : (f s).Counts (bs ++ new))
    (hcast : Cast x job.timer since period m.now (bs ++ new) ((m'.note t p).about x))
    (hskips : Beat.Skips (job.timer.origin since) period (bs ++ new)) :
    Gridded x job since period (m.takeUp t.number) (bs ++ beats x m (m.takeUp t.number)) := by
  obtain ⟨htaken, hlist, hsettles, hnow, hlogged⟩ := h.toLogged.takeUp hsane hregistered ht hgoes hs
    hrun htreats hjob hbeats hcounts
  rw [hlist, htaken]
  have hnoted : Gridded x job since period (m'.note t p) (bs ++ new) :=
    ⟨hlogged, hnow ▸ hcast, hskips⟩
  exact hnoted.passes hsettles

/-- The task that drives the schedule is taken up at a point of the grid, and starts a call. -/
theorem Gridded.tick (h : Gridded x job since period m bs) (hsane : Sane m)
    (hregistered : m.shouldDrive x.1 x.2 = true) (hlong : job.longRunning = true)
    {others : List Task} (habout : m.about x = t :: others) (hgoes : t.halted = false)
    (hhands : Hands x active false others)
    (hflight : (Beat.starts bs).length = (Beat.ends bs).length + active.toNat)
    (hpoint : m.now = job.timer.origin since + (Beat.calls bs).length * period)
    (hrun : (m.taken t).run t.work = (m.taken t).runTick x.1 x.2 period m.now) :
    Gridded x job since period (m.takeUp t.number) (bs ++ beats x m (m.takeUp t.number)) := by
  obtain ⟨s, hs, hsjob, hcounts⟩ := h.record
  have ht : t ∈ m.about x := by simp [habout]
  rw [runTick, Timer.nextTick_self, driveOnce_of_long (m := m.taken t) hs (hsjob ▸ hlong)] at hrun
  have htreats := treats_spawn x (m.taken t) (.execute x.1 x.2) false
  refine h.stride (f := id) hsane hregistered (mem_about.mp ht).1 hgoes hs hrun htreats hsjob
    (s.beats_self m.now) ?_ ?_ ?_
  all_goals rw [List.append_nil]
  · exact hcounts
  · -- The call comes last, and the task that drives the schedule waits for the next point.
    have hothers : ∀ u ∈ [] ++ (others ++ [starting (.execute x.1 x.2) false m.next]),
        u.number ≠ t.number := by
      have hold := number_ne_of_about hsane.tidy [] others habout
      have hnew := Nat.ne_of_gt (hsane.tidy.fresh t (mem_about.mp ht).1)
      simpa [or_imp, forall_and, starting] using ⟨hold, hnew⟩
    have hlist : ((m.taken t).spawn (.execute x.1 x.2) false).1.about x =
        t :: (others ++ [starting (.execute x.1 x.2) false m.next]) := by
      rw [about_spawn, if_pos (show (Work.execute x.1 x.2).subject? = some x from rfl),
        show (m.taken t).about x = t :: others from habout]
      rfl
    have hlater : m.now + period =
        job.timer.origin since + ((Beat.calls bs).length + true.toNat) * period := by
      rw [hpoint, Bool.toNat_true, Nat.succ_mul, Nat.add_assoc]
    rw [about_note_at hsane.tidy ht htreats.tasks rfl [] _ hlist hothers, hlater]
    refine .intro hgoes (.ticking (.inl ⟨rfl, ?_⟩)) (hhands.snoc ⟨rfl, rfl, rfl⟩) hflight
      fun _ => hpoint
    exact hlater ▸ Nat.le_add_right _ _
  · exact h.skips

/-- A call is taken up while no run is in flight, and a run begins. -/
theorem Gridded.begin (h : Gridded x job since period m bs) (hsane : Sane m)
    (hregistered : m.shouldDrive x.1 x.2 = true) (hjob : job.Recurs period) {loop : Task}
    (habout : m.about x = [loop, t]) (hgoes : loop.halted = false)
    (hticks : Ticks x job.timer since period m.now loop.work loop.wait ((Beat.calls bs).length + 1))
    (hcall : IsCall x t) (hidle : (Beat.starts bs).length = (Beat.ends bs).length)
    (hpoint : m.now = job.timer.origin since + (Beat.calls bs).length * period) :
    Gridded x job since period (m.takeUp t.number) (bs ++ beats x m (m.takeUp t.number)) := by
  obtain ⟨s, hs, rfl, hcounts⟩ := h.record
  have ht : t ∈ m.about x := by simp [habout]
  have hactive : s.active = false := hcounts.active_eq_false hidle
  have hrun := runExecute_of_idle (m := m.taken t) hs hactive hjob.body
  rw [show (m.taken t).runExecute x.1 x.2 = (m.taken t).run t.work by rw [hcall.work]; rfl] at hrun
  have htreats := treats_begun (m.taken t) x.1 x.2 s.job.body
  refine h.stride hsane hregistered (mem_about.mp ht).1 hcall.going hs hrun htreats
    (s.kept_begin m.now).1 (Schedule.beats_begin hactive m.now m.now)
    (hcounts.begin hactive m.now m.now) ?_ ?_
  · -- The call becomes the run in flight.
    rw [about_note_at hsane.tidy ht htreats.tasks rfl [loop] []
      ((about_begun x _ x.1 x.2 _).trans habout) (number_ne_of_about hsane.tidy [loop] [] habout)]
    have hstands : Ticks x s.job.timer since period m.now loop.work loop.wait
        ((Beat.calls (bs ++ [.began m.now])).length + false.toNat) := by
      simpa [Beat.calls_snoc, Beat.call?] using hticks
    refine .intro hgoes hstands (.run ⟨hcall.going, _, rfl, .inr rfl⟩) ?_
      fun hpending => absurd hpending Bool.false_ne_true
    simp [Beat.starts_snoc, Beat.ends_snoc, Beat.start?, Beat.end?, hidle]
  · refine h.skips.snoc h.past hidle ?_
    rintro u hu
    obtain rfl := Option.some.inj hu
    exact hpoint

/-- A call is taken up while a run is in flight, and is skipped. -/
theorem Gridded.skip (h : Gridded x job since period m bs) (hsane : Sane m)
    (hregistered : m.shouldDrive x.1 x.2 = true) (hjob : job.Recurs period) {loop r : Task}
    (habout : m.about x = [loop, r, t]) (hgoes : loop.halted = false)
    (hticks : Ticks x job.timer since period m.now loop.work loop.wait ((Beat.calls bs).length + 1))
    (hflies : IsRun x r) (hcall : IsCall x t)
    (hflight : (Beat.starts bs).length = (Beat.ends bs).length + 1)
    (hpoint : m.now = job.timer.origin since + (Beat.calls bs).length * period) :
    Gridded x job since period (m.takeUp t.number) (bs ++ beats x m (m.takeUp t.number)) := by
  obtain ⟨s, hs, rfl, hcounts⟩ := h.record
  have ht : t ∈ m.about x := by simp [habout]
  have hactive : s.active = true := hcounts.active_eq_true hflight
  have hrun := runExecute_of_busy (m := m.taken t) hs hactive hjob.body
  rw [show (m.taken t).runExecute x.1 x.2 = (m.taken t).run t.work by rw [hcall.work]; rfl] at hrun
  refine h.stride hsane hregistered (mem_about.mp ht).1 hcall.going hs hrun
    (treats_called _ x.1 x.2) (s.kept_begin m.now).1
    (Schedule.beats_begin_of_active hactive m.now m.now) (hcounts.skip hactive m.now m.now) ?_ ?_
  · -- The call ends, and the run in flight goes on.
    have hlist : ((m.taken t).called x.1 x.2).about x = [loop, r] ++ t :: [] := habout
    rw [about_done_at .finished [loop, r] [] hlist
      (number_ne_of_about hsane.tidy [loop, r] [] habout)]
    have hstands : Ticks x s.job.timer since period m.now loop.work loop.wait
        ((Beat.calls (bs ++ [.skipped m.now])).length + false.toNat) := by
      simpa [Beat.calls_snoc, Beat.call?] using hticks
    refine .intro hgoes hstands (.run hflies) ?_ fun hpending => absurd hpending Bool.false_ne_true
    simp [Beat.starts_snoc, Beat.ends_snoc, Beat.start?, Beat.end?, hflight]
  · refine h.skips.snoc h.past hflight ?_
    rintro u hu
    obtain rfl := Option.some.inj hu
    exact hpoint

/-- The task of a run in flight is taken up, and ends the run if its body has ended. -/
theorem Gridded.endRun (h : Gridded x job since period m bs) (hsane : Sane m)
    (hregistered : m.shouldDrive x.1 x.2 = true) {loop : Task} {calls : List Task}
    (habout : m.about x = loop :: t :: calls) (hgoes : loop.halted = false)
    (hticks : Ticks x job.timer since period m.now loop.work loop.wait
      ((Beat.calls bs).length + pending.toNat))
    (hflies : IsRun x t) (hhands : Hands x false pending calls)
    (hflight : (Beat.starts bs).length = (Beat.ends bs).length + 1)
    (hpunctual : pending = true →
      m.now = job.timer.origin since + (Beat.calls bs).length * period) :
    Gridded x job since period (m.takeUp t.number) (bs ++ beats x m (m.takeUp t.number)) := by
  obtain ⟨s, hs, rfl, hcounts⟩ := h.record
  obtain ⟨htgoes, task, hwork, -⟩ := hflies
  have ht : t ∈ m.about x := by simp [habout]
  have hactive : s.active = true := hcounts.active_eq_true hflight
  have hne := number_ne_of_about hsane.tidy [loop] calls habout
  have hrun : (m.taken t).run t.work = (m.taken t).runExecuted x.1 x.2 task := by
    rw [hwork]
    rfl
  rcases (m.taken t).runExecuted_eq x.1 x.2 task with hwaits | ⟨e, hended⟩
  · -- The body has not ended, so the run stays in flight.
    rw [hwaits] at hrun
    have htreats := Treats.refl x (m.taken t)
    refine h.stride hsane hregistered (mem_about.mp ht).1 htgoes hs hrun htreats rfl
      (s.beats_self m.now) ?_ ?_ ?_
    all_goals rw [List.append_nil]
    · exact hcounts
    · rw [about_note_at hsane.tidy ht htreats.tasks rfl [loop] calls habout hne]
      exact .intro hgoes hticks (hhands.cons ⟨htgoes, task, rfl, .inr rfl⟩) hflight hpunctual
    · exact h.skips
  · rw [hended] at hrun
    have hcalls : Beat.calls (bs ++ [.ended m.now]) = Beat.calls bs :=
      (Beat.calls_snoc bs _).trans (List.append_nil _)
    refine h.stride hsane hregistered (mem_about.mp ht).1 htgoes hs hrun
      (treats_concluded (m.taken t) x.1 x.2 task e) rfl (Schedule.beats_finish hactive e m.now)
      (hcounts.finish hactive e m.now) ?_ ?_
    · have hlist : ((m.taken t).concluded x.1 x.2 task e).about x = [loop] ++ t :: calls := habout
      rw [about_done_at .finished [loop] calls hlist hne]
      refine .intro hgoes (hcalls ▸ hticks) hhands ?_ (hcalls ▸ hpunctual)
      simp [Beat.starts_snoc, Beat.ends_snoc, Beat.start?, Beat.end?, hflight]
    · refine h.skips.snoc h.past hflight ?_
      rintro u ⟨⟩

/-- Taken up for the first time, the task that drives the schedule waits for the first point of the
grid, unless there is no delay. -/
theorem Gridded.delay (h : Gridded x job since period m bs) (hsane : Sane m)
    (hregistered : m.shouldDrive x.1 x.2 = true) {others : List Task}
    (habout : m.about x = t :: others) (hgoes : t.halted = false)
    (hhands : Hands x active false others)
    (hflight : (Beat.starts bs).length = (Beat.ends bs).length + active.toNat)
    (hcalls : (Beat.calls bs).length = 0)
    (horigin : job.timer.origin since = m.now + job.timer.firstDelay m.now)
    (hrun : (m.taken t).run t.work = (m.taken t,
      .waits (.driveFirst x.1 x.2) (.time (m.now + job.timer.firstDelay m.now)))) :
    Gridded x job since period (m.takeUp t.number) (bs ++ beats x m (m.takeUp t.number)) := by
  obtain ⟨s, hs, hsjob, hcounts⟩ := h.record
  have ht : t ∈ m.about x := by simp [habout]
  have htreats := Treats.refl x (m.taken t)
  refine h.stride (f := id) hsane hregistered (mem_about.mp ht).1 hgoes hs hrun htreats hsjob
    (s.beats_self m.now) ?_ ?_ ?_
  all_goals rw [List.append_nil]
  · exact hcounts
  · have hstands : Ticks x job.timer since period m.now (.driveFirst x.1 x.2)
        (some (.time (m.now + job.timer.firstDelay m.now)))
        ((Beat.calls bs).length + false.toNat) := by
      rw [hcalls]
      exact .delayed (.inl ⟨by rw [horigin], horigin ▸ Nat.le_add_right _ _⟩)
    rw [about_note_at hsane.tidy ht htreats.tasks rfl [] others habout
      (number_ne_of_about hsane.tidy [] others habout)]
    exact .intro hgoes hstands hhands hflight
      fun hpending => absurd hpending Bool.false_ne_true
  · exact h.skips

/-- The task that drives the schedule is taken up. -/
theorem Gridded.drive (h : Gridded x job since period m bs) (hsane : Sane m)
    (hregistered : m.shouldDrive x.1 x.2 = true) (hjob : job.Recurs period)
    (hlong : job.longRunning = true) {others : List Task} (habout : m.about x = t :: others)
    (hwait : t.wait = none) (hgoes : t.halted = false)
    (hticks : Ticks x job.timer since period m.now t.work t.wait
      ((Beat.calls bs).length + pending.toNat)) (hhands : Hands x active pending others)
    (hflight : (Beat.starts bs).length = (Beat.ends bs).length + active.toNat)
    (hpunctual : pending = true →
      m.now = job.timer.origin since + (Beat.calls bs).length * period) :
    Gridded x job since period (m.takeUp t.number) (bs ++ beats x m (m.takeUp t.number)) := by
  obtain ⟨s, hs, hsjob, -⟩ := h.record
  have hfirst : (m.taken t).runFirst x.1 x.2 = (m.taken t).runTick x.1 x.2 period m.now :=
    runFirst_of_interval hs (hsjob ▸ hjob.interval) hjob.positive
  rcases hticks.due hwait with ⟨hindex, hstage⟩ | ⟨hwork, hnow⟩
  · -- No call was made yet.
    obtain ⟨hcalls, hnone⟩ := Nat.add_eq_zero_iff.mp hindex
    obtain rfl : pending = false := by simpa using hnone
    have hbegins (hpoint : m.now = job.timer.origin since)
        (hrun : (m.taken t).run t.work = (m.taken t).runFirst x.1 x.2) :=
      h.tick hsane hregistered hlong habout hgoes hhands hflight
        (by rw [hcalls, Nat.zero_mul, Nat.add_zero, hpoint]) (hrun.trans hfirst)
    rcases hstage with ⟨hwork, hnow⟩ | ⟨hwork, hnow⟩
    · have horigin : job.timer.origin since = m.now + job.timer.firstDelay m.now := by
        rw [Timer.origin, hnow]
      have hrun : (m.taken t).run t.work = (m.taken t).runDrive x.1 x.2 := by
        rw [hwork]
        rfl
      rw [runDrive_eq (m := m.taken t) hs, hsjob] at hrun
      by_cases hdelay : job.timer.firstDelay m.now = 0
      · rw [hdelay, Nat.add_zero] at horigin
        exact hbegins horigin.symm (hrun.trans (if_pos hdelay))
      · exact h.delay hsane hregistered habout hgoes hhands hflight hcalls horigin
          (hrun.trans (if_neg hdelay))
    · exact hbegins hnow (by rw [hwork]; rfl)
  · obtain rfl : pending = false := by
      -- A call that is pending was made at this very point.
      cases pending with
      | false => rfl
      | true =>
        have hsame := hnow.symm.trans (hpunctual rfl)
        rw [Bool.toNat_true, Nat.succ_mul] at hsame
        exact absurd (Nat.add_left_cancel hsame)
          (Nat.ne_of_gt (Nat.lt_add_of_pos_right hjob.positive))
    exact h.tick hsane hregistered hlong habout hgoes hhands hflight hnow (by rw [hwork]; rfl)

/-- A task about the schedule is taken up. -/
theorem Gridded.takeUp (h : Gridded x job since period m bs) (hsane : Sane m)
    (hregistered : m.shouldDrive x.1 x.2 = true) (hjob : job.Recurs period)
    (hlong : job.longRunning = true) (ht : t ∈ m.about x) (hqueued : t.number ∈ m.queue) :
    Gridded x job since period (m.takeUp t.number) (bs ++ beats x m (m.takeUp t.number)) := by
  have hcast := h.cast
  generalize habout : m.about x = tasks at hcast ht
  have hmem := mem_about.mp (habout ▸ ht)
  cases hcast with
  | @intro loop others active pending hgoes hticks hhands hflight hpunctual =>
    rcases List.mem_cons.mp ht with rfl | hother
    · have hwait : t.wait = none := (hsane.tidy.queued t hmem.1).mpr (.inl hqueued)
      exact h.drive hsane hregistered hjob hlong habout hwait hgoes hticks hhands hflight hpunctual
    · cases hhands with
      | nobody => cases hother
      | call hcall =>
        obtain rfl := List.mem_singleton.mp hother
        exact h.begin hsane hregistered hjob habout hgoes hticks hcall hflight (hpunctual rfl)
      | run hflies =>
        obtain rfl := List.mem_singleton.mp hother
        exact h.endRun hsane hregistered habout hgoes hticks hflies .nobody hflight hpunctual
      | both hflies hcall =>
        rcases List.mem_cons.mp hother with rfl | hother
        · exact h.endRun hsane hregistered habout hgoes hticks hflies (.call hcall) hflight
            hpunctual
        · obtain rfl := List.mem_singleton.mp hother
          exact h.skip hsane hregistered hjob habout hgoes hticks hflies hcall hflight
            (hpunctual rfl)

/-- Whatever happens, the schedule keeps to the grid. -/
theorem keeps_gridded (x : Nat × Nat) (since : Instant) (hjob : job.Recurs period)
    (hlong : job.longRunning = true) : Keeps x job (Gridded x job since period) where
  logged h := h.toLogged
  passes h := h.passes
  takeUp h hsane hregistered := h.takeUp hsane hregistered hjob hlong

/-- Once nothing is queued, the next call is not overdue. -/
theorem Gridded.not_overdue (h : Gridded x job since period m bs) (hsane : Sane m)
    (hidle : m.queue = []) :
    m.now < job.timer.origin since + (Beat.calls bs).length * period := by
  have hcast := h.cast
  generalize habout : m.about x = tasks at hcast
  have hmem {t : Task} (ht : t ∈ tasks) : t ∈ m.tasks := (mem_about.mp (habout ▸ ht)).1
  cases hcast with
  | @intro loop others active pending _ hticks hhands _ _ =>
    -- A call that is pending is queued, and nothing is.
    have hnone : pending = false := by
      cases hhands with
      | nobody | run => rfl
      | call hcall =>
        exact absurd hcall.queued (hsane.tidy.wait_ne_none hidle (hmem (by simp)))
      | both _ hcall =>
        exact absurd hcall.queued (hsane.tidy.wait_ne_none hidle (hmem (by simp)))
    rw [hnone] at hticks
    exact hticks.lt hsane hidle (hmem List.mem_cons_self)

/-- Once nothing is queued, no end of a run is overlooked. -/
theorem Gridded.not_ended (h : Gridded x job since period m bs) (hsane : Sane m)
    (hidle : m.queue = []) (ht : t ∈ m.about x) {run : Nat × Nat × Nat}
    (hrun : t.work.runs? = some run) : m.result? run.2.2 = none := by
  have hcast := h.cast
  have hmem := (mem_about.mp ht).1
  -- Of the three tasks only the run in flight waits for a run.
  have hflies (hflies : IsRun x t) : m.result? run.2.2 = none := by
    obtain ⟨-, task, hwork, hwaits⟩ := hflies
    rw [hwork] at hrun
    obtain rfl := Option.some.inj hrun
    exact hsane.timely.result t hmem task
      (hwaits.resolve_left (hsane.tidy.wait_ne_none hidle hmem))
  generalize m.about x = tasks at hcast ht
  cases hcast with
  | @intro loop others active pending _ hticks hhands _ _ =>
    rcases List.mem_cons.mp ht with rfl | hother
    · rw [hticks.runs?_eq_none] at hrun
      cases hrun
    · cases hhands with
      | nobody => cases hother
      | call hcall =>
        obtain rfl := List.mem_singleton.mp hother
        rw [hcall.work] at hrun
        cases hrun
      | run hrun' =>
        obtain rfl := List.mem_singleton.mp hother
        exact hflies hrun'
      | both hrun' hcall =>
        rcases List.mem_cons.mp hother with rfl | hother
        · exact hflies hrun'
        · obtain rfl := List.mem_singleton.mp hother
          rw [hcall.work] at hrun
          cases hrun

end Mesh

end CommandMesh
