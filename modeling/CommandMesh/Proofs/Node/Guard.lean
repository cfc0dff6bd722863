import CommandMesh.Proofs.Node.Holdings

/-!
# `CommandMesh.Proofs.Node.Guard`: what is the master's on a node that is not master

Routes and jobs may be restricted to the master. A node is `Guarded` if it has such routes and jobs
only while it is master. What it puts in place itself as it becomes master it removes again when it
ceases to be, but nothing of what its host registers is asked for its restriction: a host can
register a route or a job of the master at any time, and every job that was handed over when the
node was built is put in place as the node starts. `Node.Lapses` says exactly which steps leave a
node that was guarded without its guard.

What a node may do is any run of a `Reception`: messages come in, handlers finish, and anything else
may happen to the node meanwhile. The one assumption is that the body of a schedule, which may
change the timetable as it likes, leaves the registrations alone (`Activity.KeepsRegistrations`);
everything that a node drives itself does so.

Two facts about a node are carried along every run. `Orderly` says that what is the master's is in
place just as the node stands, and that what is driven by the scheduler is what is tracked.
`HoldsOwn` says that no more routes of the master are there than the node has put in place itself,
and is kept only by hosts that register nothing of the master.

The guard is asked for at every moment of a run, so what a step does to it is decided once for each
way in which a node can change (`Becomes`), and the runs are a plain induction over that. The
theorems:

* `Node.becomes_perform`: all that a step can do, one case for each kind of step.
* `Node.guarded_perform_iff`: a node that was guarded still is, unless the step lapses.
* `Node.Becomes.holdsOwn`: a host that registers no route of the master adds none to those that the
  node puts in place itself.
* `Reception.guarded_iff_none_lapses`: so a node is guarded throughout a run exactly if no step of
  it lapses, and it is if its host registers nothing of the master.
* `Reception.unguarded_after_start`: a host hands a job of the master over with all others, and the
  node that starts has it without being master.
-/

set_option autoImplicit false

namespace CommandMesh

/-- What the schedules of the node do when they run leaves them registered. -/
def Activity.KeepsRegistrations : Activity → Prop
  | .drive f => ∀ t : Timetable, (f t).registrations = t.registrations
  | _ => True

/-- The host registers a route or a job of the master. -/
def Activity.AddsRestricted : Activity → Prop
  | .addRoute _ _ _ masterOnly => masterOnly = true
  | .addJob job => job.masterOnly = true
  | _ => False

namespace Node

variable {n n' : Node} {a : Activity}

/-! ### What a step can do -/

/-- All that a node may become by that. -/
inductive Becomes (n : Node) : Activity → Node → Prop where
  | courses {a : Activity} {n' : Node} : a.IsQuiet → n.Course n' → Becomes n a n'
  | starts {n' : Node} : n.running = false →
      Installs { n with running := true, pumping := true } n.ownEntries n.startJobs n' →
      Becomes n .start n'
  | runs : n.running = true → Becomes n .start n
  | stops {now : Instant} {n' : Node} : n.running = true → n.Stops n' now → Becomes n (.stop now) n'
  | rests {now : Instant} : n.running = false → Becomes n (.stop now) n
  | addsRoute (pattern : RoutePattern) (handler : Handler) (reference : Option String)
      (masterOnly : Bool) : Becomes n (.addRoute pattern handler reference masterOnly)
        { n with roster := (n.roster.addRoute pattern handler reference masterOnly).1 }
  | removesRoute (pattern : RoutePattern) (masterOnly : Bool) :
      Becomes n (.removeRoute pattern masterOnly)
        { n with roster := (n.roster.removeRoute pattern masterOnly).getD n.roster }
  | addsJob (job : Job) : Becomes n (.addJob job) (n.addJob job)
  | removesJob (k : Nat) :
      Becomes n (.removeJob k) { n with roster := (n.roster.removeJob k).getD n.roster }

/-- What is the master's is in place as the node stands, and what is tracked is what is driven. -/
structure Orderly (n : Node) : Prop where
  settled : n.Settled
  inStep : n.roster.timetable.InStep

/-- Whatever is done to an orderly node, it becomes one of the nodes that `Becomes` lists for it.
===== -/
theorem becomes_perform (hn : n.Orderly) (ha : a.KeepsRegistrations) :
    n.Becomes a (n.perform a).1 := by
  cases a with
  | start =>
    cases hrunning : n.running with
    | false =>
      obtain ⟨n', hstart, hinstalls⟩ := exists_start hrunning
      rw [show (n.perform .start).1 = n' by simp [perform, hstart, Except.toOption]]
      exact .starts hrunning hinstalls
    | true =>
      rw [show (n.perform .start).1 = n by simp [perform, start, hrunning, Except.toOption]]
      exact .runs hrunning
  | stop now =>
    cases hrunning : n.running with
    | false =>
      rw [show (n.perform (.stop now)).1 = n by
        simp [perform, stop_of_not_running now hrunning, Except.toOption]]
      exact .rests hrunning
    | true =>
      obtain ⟨n', hstop, hstops⟩ := exists_stop hn.settled hn.inStep hrunning now
      rw [show (n.perform (.stop now)).1 = n' by simp [perform, hstop, Except.toOption]]
      exact .stops hrunning hstops
  | addRoute pattern handler reference masterOnly => exact .addsRoute ..
  | removeRoute pattern masterOnly => exact .removesRoute ..
  | addJob job => exact .addsJob job
  | removeJob k => exact .removesJob k
  | drive f => exact .courses ha (course_perform hn.settled ha)
  | handle | draw | poll | startMaster | stopMaster | sweep | send | resume | flush | pump |
    inspect => exact .courses trivial (course_perform hn.settled trivial)

/-- What a node was set up with stays as it is, whatever is done to it. -/
theorem Becomes.setup (h : n.Becomes a n') : n'.setup = n.setup := by
  cases h with
  | courses _ hcourse => exact hcourse.retains.setup
  | starts _ hinstalls => exact hinstalls.setup
  | stops _ hstops => exact hstops.setup
  | runs | rests | addsRoute | removesRoute | addsJob | removesJob => rfl

/-- A node that is orderly stays so, whatever is done to it. -/
theorem Becomes.orderly (h : n.Becomes a n') (hn : n.Orderly) : n'.Orderly := by
  cases h with
  | courses _ hcourse => exact ⟨hcourse.settled hn.settled, (hcourse.retains.timetable hn.inStep).1⟩
  | starts _ hinstalls =>
    constructor
    · rw [Settled, hinstalls.held, isMaster, hinstalls.candidate]
      exact hn.settled
    · rw [hinstalls.timetable]
      exact hn.inStep.addAll _
  | runs | rests => exact hn
  | stops _ hstops => exact ⟨hstops.held.trans hstops.isMaster.symm, hstops.inStep⟩
  | addsRoute => exact ⟨hn.settled, hn.inStep⟩
  | removesRoute =>
    refine ⟨hn.settled, ?_⟩
    rw [Roster.timetable_removeRoute]
    exact hn.inStep
  | addsJob job =>
    refine ⟨hn.settled, ?_⟩
    rw [addJob, Roster.timetable_addJob]
    exact hn.inStep.add job
  | removesJob k =>
    refine ⟨hn.settled, ?_⟩
    rw [Roster.timetable_removeJob hn.inStep.sound]
    exact hn.inStep.drop k

/-! ### What is guarded -/

/-- Only as master does the node have routes and jobs that are restricted to the master. -/
structure Guarded (n : Node) : Prop where
  routes : ∀ r ∈ n.roster.router.routes, r.masterOnly = true → n.isMaster = true
  jobs : ∀ k ∈ n.roster.timetable.tracked,
    n.roster.timetable.isMasterOnly k = true → n.isMaster = true

/-- A node is guarded exactly if it counts no route and lists no job of the master while it is not
master. -/
theorem guarded_iff : n.Guarded ↔ (n.isMaster = false →
    Route.restricted n.roster.router.routes = 0 ∧ n.roster.timetable.masterJobs = []) := by
  rw [Route.restricted_eq_zero_iff, Timetable.masterJobs_eq_nil_iff]
  cases hmaster : n.isMaster with
  | true =>
    constructor
    · rintro - hnot
      cases hnot
    · exact fun _ => ⟨fun _ _ _ => hmaster, fun _ _ _ => hmaster⟩
  | false =>
    constructor
    · rintro h -
      refine ⟨fun r hr => ?_, fun k hk => ?_⟩
      · exact Bool.eq_false_iff.mpr fun hr' => by simpa [hmaster] using h.routes r hr hr'
      · exact Bool.eq_false_iff.mpr fun hk' => by simpa [hmaster] using h.jobs k hk hk'
    · intro h
      obtain ⟨hroutes, hjobs⟩ := h rfl
      exact ⟨fun r hr hr' => by simp [hroutes r hr] at hr', fun k hk hk' => by
        simp [hjobs k hk] at hk'⟩

/-- The node has more routes of the master than it removes when it is master no more. -/
def Overloaded (n : Node) : Prop :=
  ¬ Route.restricted n.roster.router.routes ≤ ↑n.masterPatterns

/-- Something of the master's is registered on a node that is not master, or is left on a node that
is master no more. -/
def Lapses (n : Node) : Activity → Prop
  | .start =>
    n.running = false ∧ n.isMaster = false ∧ ∃ job ∈ n.setup.jobs, job.masterOnly = true
  | .addRoute _ _ _ masterOnly => n.isMaster = false ∧ masterOnly = true
  | .addJob job => n.isMaster = false ∧ job.masterOnly = true
  | a => n.isMaster = true ∧ (n.perform a).1.isMaster = false ∧ n.Overloaded

/-- What a node does by itself lapses only as the node loses its mastership with routes of the
master that it does not remove. -/
theorem lapses_of_isQuiet (ha : a.IsQuiet) : n.Lapses a ↔
    n.isMaster = true ∧ (n.perform a).1.isMaster = false ∧ n.Overloaded := by
  cases a <;> first | exact ha.elim | exact Iff.rfl

/-- A master is guarded, whatever it has. -/
theorem Guarded.of_isMaster (h : n.isMaster = true) : n.Guarded :=
  ⟨fun _ _ _ => h, fun _ _ _ => h⟩

/-- A node that is guarded and not master has no routes and no jobs of the master. -/
theorem Guarded.bare (h : n.Guarded) (hmaster : n.isMaster = false) :
    Route.restricted n.roster.router.routes = 0 ∧ n.roster.timetable.masterJobs = [] :=
  guarded_iff.mp h hmaster

/-! ### One kind of step at a time -/

/-- A step of the node itself leaves a guarded node without its guard only where it is master no
more and has more routes of the master than it removes. -/
theorem Guarded.course_iff (h : n.Guarded) (hn : n.Orderly) (hcourse : n.Course n') :
    n'.Guarded ↔ ¬ (n.isMaster = true ∧ n'.isMaster = false ∧ n.Overloaded) := by
  rcases hcourse.masters hn.inStep with ⟨hmaster, hroutes, hjobs⟩ | ⟨hbefore, hmaster, -⟩ |
    ⟨hbefore, hmaster, hroutes, hjobs⟩
  · -- Mastership does not change, and neither does what is the master's.
    refine iff_of_true ?_ ?_
    · rw [guarded_iff, hmaster, hroutes, hjobs]
      exact guarded_iff.mp h
    · rintro ⟨hbefore, hafter, -⟩
      rw [hmaster, hbefore] at hafter
      cases hafter
  · exact iff_of_true (.of_isMaster hmaster) (by simp [hbefore])
  · -- It was master, and removes as many routes of each pattern as it had put in place.
    rw [guarded_iff, hroutes, hjobs, tsub_eq_zero_iff_le, Overloaded, hbefore, hmaster]
    simp

/-- A start leaves a node that is not master without its guard only where its host has handed a job
of the master over with all others. -/
theorem Guarded.start_iff (h : n.Guarded) (hn : n.Orderly) (hrunning : n.running = false)
    (hinstalls : Installs { n with running := true, pumping := true } n.ownEntries n.startJobs n') :
    n'.Guarded ↔ ¬ n.Lapses .start := by
  have hmaster : n'.isMaster = n.isMaster := congrArg Candidate.isActive hinstalls.candidate
  have hroutes := hinstalls.restricted (masterOnly_ownEntries n)
  -- The jobs of its own, which poll and sweep, are for every node.
  have hjobs : n'.roster.timetable.masterJobs = n.roster.timetable.masterJobs ++
      n.setup.jobs.filter (·.masterOnly) := by
    rw [hinstalls.timetable, ← filter_startJobs]
    exact hn.inStep.sound.masterJobs_addAll _
  cases hbefore : n.isMaster with
  | true => exact iff_of_true (.of_isMaster (hmaster.trans hbefore)) (by simp [Lapses, hbefore])
  | false =>
    -- The node's own routes and jobs are for every node, so only those of the host count.
    obtain ⟨hnoRoutes, hnoJobs⟩ := h.bare hbefore
    rw [guarded_iff, hmaster, hroutes, hjobs, hnoJobs]
    simp [Lapses, hrunning, hbefore, hnoRoutes]

/-- A stop leaves no job at all, so only routes of the master that the node did not put in place can
leave it without its guard. -/
theorem Guarded.stop_iff (h : n.Guarded) {now : Instant} (hstops : n.Stops n' now) :
    n'.Guarded ↔ ¬ (n.isMaster = true ∧ n'.isMaster = false ∧ n.Overloaded) := by
  have hjobs : n'.roster.timetable.masterJobs = [] :=
    Timetable.masterJobs_eq_nil_iff.mpr (by simp [hstops.tracked])
  rw [guarded_iff, hstops.isMaster, hstops.restricted, hjobs, Overloaded]
  cases hbefore : n.isMaster with
  | true => simp [tsub_eq_zero_iff_le]
  | false => simp [(h.bare hbefore).1]

/-- A host that registers a route takes the guard away only with one of the master on a node that is
not master. -/
theorem Guarded.addRoute_iff (h : n.Guarded) (pattern : RoutePattern) (handler : Handler)
    (reference : Option String) (masterOnly : Bool) :
    Guarded { n with roster := (n.roster.addRoute pattern handler reference masterOnly).1 } ↔
      ¬ n.Lapses (.addRoute pattern handler reference masterOnly) := by
  cases hbefore : n.isMaster with
  | true => exact iff_of_true (.of_isMaster hbefore) (by simp [Lapses, hbefore])
  | false =>
    obtain ⟨hnoRoutes, hnoJobs⟩ := h.bare hbefore
    rw [guarded_iff, Roster.restricted_addRoute, hnoRoutes, Roster.timetable_addRoute, hnoJobs]
    simp [Lapses, isMaster]

/-- A host that removes a route leaves the guard. -/
theorem Guarded.removeRoute (h : n.Guarded) (pattern : RoutePattern) (masterOnly : Bool) :
    Guarded { n with roster := (n.roster.removeRoute pattern masterOnly).getD n.roster } := by
  refine guarded_iff.mpr fun hbefore => ?_
  obtain ⟨hnoRoutes, hnoJobs⟩ := h.bare hbefore
  rw [Roster.routes_removeRoute, Route.restricted_withdraw, Roster.timetable_removeRoute,
    hnoRoutes, hnoJobs]
  simp

/-- A host that registers a job takes the guard away only with one of the master on a node that is
not master. -/
theorem Guarded.addJob_iff (h : n.Guarded) (hn : n.Orderly) (job : Job) :
    (n.addJob job).Guarded ↔ ¬ n.Lapses (.addJob job) := by
  cases hbefore : n.isMaster with
  | true => exact iff_of_true (.of_isMaster hbefore) (by simp [Lapses, hbefore])
  | false =>
    obtain ⟨hnoRoutes, hnoJobs⟩ := h.bare hbefore
    rw [guarded_iff, Node.addJob, Roster.router_addJob, hnoRoutes, Roster.timetable_addJob,
      hn.inStep.sound.masterJobs_add, hnoJobs]
    simp [Lapses, isMaster]

/-- A host that removes a job leaves the guard. -/
theorem Guarded.removeJob (h : n.Guarded) (hn : n.Orderly) (k : Nat) :
    Guarded { n with roster := (n.roster.removeJob k).getD n.roster } := by
  refine guarded_iff.mpr fun hbefore => ?_
  obtain ⟨hnoRoutes, hnoJobs⟩ := h.bare hbefore
  rw [Roster.router_removeJob, Roster.timetable_removeJob hn.inStep.sound]
  exact ⟨hnoRoutes, Timetable.masterJobs_drop_eq_nil hnoJobs k⟩

/-- A node that is guarded stays so unless it lapses. -/
theorem guarded_perform_iff (hn : n.Orderly) (ha : a.KeepsRegistrations) (h : n.Guarded) :
    (n.perform a).1.Guarded ↔ ¬ n.Lapses a := by
  have hbecomes := becomes_perform hn ha
  -- Where mastership does not change, a step that registers nothing does not lapse.
  have hkept (hmaster : (n.perform a).1.isMaster = n.isMaster) :
      ¬ (n.isMaster = true ∧ (n.perform a).1.isMaster = false ∧ n.Overloaded) := by
    rintro ⟨hbefore, hafter, -⟩
    rw [hmaster, hbefore] at hafter
    cases hafter
  generalize hn' : (n.perform a).1 = n' at hbecomes ⊢
  cases hbecomes with
  | courses ha hcourse =>
    rw [lapses_of_isQuiet ha, hn']
    exact h.course_iff hn hcourse
  | starts hrunning hinstalls => exact h.start_iff hn hrunning hinstalls
  | runs hrunning => exact iff_of_true h (by simp [Lapses, hrunning])
  | @stops now _ _ hstops =>
    have hlapses : n.Lapses (.stop now) ↔ n.isMaster = true ∧ n'.isMaster = false ∧ n.Overloaded :=
      hn' ▸ Iff.rfl
    rw [hlapses]
    exact h.stop_iff hstops
  | rests => exact iff_of_true h (hkept (by rw [hn']))
  | addsRoute pattern handler reference masterOnly =>
    exact h.addRoute_iff pattern handler reference masterOnly
  | removesRoute pattern masterOnly =>
    exact iff_of_true (h.removeRoute pattern masterOnly) (hkept rfl)
  | addsJob job => exact h.addJob_iff hn job
  | removesJob k => exact iff_of_true (h.removeJob hn k) (hkept rfl)

/-- A node holds only its own as long as it stands as before and no route of the master has been
added. -/
theorem HoldsOwn.of_le (h : n.HoldsOwn) (hsetup : n'.setup = n.setup)
    (hmaster : n'.isMaster = n.isMaster) (hroutes : Route.restricted n'.roster.router.routes ≤
      Route.restricted n.roster.router.routes) : n'.HoldsOwn := by
  rw [HoldsOwn, hmaster, masterPatterns_congr hsetup]
  exact hroutes.trans h

/-- A host that registers no route of the master adds none to those that the node puts in place
itself. -/
theorem Becomes.holdsOwn (h : n.Becomes a n') (hn : n.Orderly) (ha : ¬ a.AddsRestricted)
    (hown : n.HoldsOwn) : n'.HoldsOwn := by
  cases h with
  | courses _ hcourse => exact hcourse.holdsOwn hn.inStep hown
  | starts _ hinstalls =>
    exact hown.of_le hinstalls.setup (congrArg Candidate.isActive hinstalls.candidate)
      (hinstalls.restricted (masterOnly_ownEntries n)).le
  | runs | rests => exact hown
  -- A stop removes as many routes of the master as the node has put in place, so none are left.
  | stops _ hstops =>
    rw [HoldsOwn, hstops.isMaster, hstops.restricted]
    unfold HoldsOwn at hown
    cases hbefore : n.isMaster with
    | true =>
      rw [hbefore, if_pos rfl] at hown
      simp [tsub_eq_zero_of_le hown]
    | false => simpa [hbefore] using hown
  | addsRoute pattern handler reference masterOnly =>
    have hcommon : masterOnly = false := by simpa [Activity.AddsRestricted] using ha
    refine hown.of_le rfl rfl (le_of_eq ?_)
    rw [Roster.restricted_addRoute, hcommon, if_neg Bool.false_ne_true, add_zero]
  | removesRoute pattern masterOnly =>
    refine hown.of_le rfl rfl ?_
    rw [Roster.routes_removeRoute, Route.restricted_withdraw]
    split
    · exact Multiset.erase_le _ _
    · exact le_rfl
  | addsJob job =>
    refine hown.of_le rfl rfl (le_of_eq ?_)
    rw [addJob, Roster.router_addJob]
  | removesJob k =>
    refine hown.of_le rfl rfl (le_of_eq ?_)
    rw [Roster.router_removeJob]

/-- So a node whose host registers nothing of the master does not lapse. -/
theorem HoldsOwn.not_lapses (hown : n.HoldsOwn) (ha : ¬ a.AddsRestricted)
    (hjobs : ∀ job ∈ n.setup.jobs, job.masterOnly = false) : ¬ n.Lapses a := by
  have hload (hmaster : n.isMaster = true) : ¬ n.Overloaded := by
    rw [HoldsOwn, hmaster, if_pos rfl] at hown
    exact not_not_intro hown
  cases a with
  | start =>
    rintro ⟨-, -, job, hjob, hmaster⟩
    rw [hjobs job hjob] at hmaster
    cases hmaster
  | addRoute | addJob => exact fun hlapses => ha hlapses.2
  | _ => exact fun hlapses => hload hlapses.1 hlapses.2.2

/-- A node that was just built has nothing of the master's. -/
theorem IsNew.guarded {now : Instant} (h : n.IsNew now) : n.Guarded where
  routes := fun r hr hmaster => by simp [(h.routes r hr).2] at hmaster
  jobs := fun k hk => by simp [h.tracked] at hk

/-- Whether a node is guarded depends on nothing but its footing. -/
theorem Guarded.congr (h : n.Guarded) (hfooting : n'.footing = n.footing) : n'.Guarded := by
  have hmaster : n'.isMaster = n.isMaster := congrArg (·.candidate.isActive) hfooting
  have hroutes : n'.roster.router.routes = n.roster.router.routes := congrArg (·.routes) hfooting
  rw [guarded_iff, hmaster, hroutes,
    Timetable.masterJobs_congr (congrArg (·.registrations) hfooting)]
  exact guarded_iff.mp h

end Node

/-! ### Runs -/

namespace Reception

variable {r : Reception} {m : Move} {n : Node}

/-- What the schedules of the node do when they run leaves them registered. -/
def Move.KeepsRegistrations : Move → Prop
  | .meanwhile a => a.KeepsRegistrations
  | .take _ _ | .finish _ _ => True

/-- The host registers a route or a job of the master. -/
def Move.AddsRestricted : Move → Prop
  | .meanwhile a => a.AddsRestricted
  | .take _ _ | .finish _ _ => False

/-- The node registers or keeps something of the master's that it is not to have. -/
def Lapses (r : Reception) : Move → Prop
  | .meanwhile a => r.node.Lapses a
  | .take _ _ | .finish _ _ => False

/-- Either the node stays on its footing or it does something that changes it. -/
theorem guarded_step_iff (hr : r.node.Orderly) (hm : m.KeepsRegistrations) (h : r.node.Guarded) :
    (r.step m).node.Guarded ↔ ¬ r.Lapses m := by
  cases m with
  | take e now => exact iff_of_true (h.congr (r.footing_take e now)) id
  | finish i result => exact iff_of_true (h.congr (r.footing_finish i result)) id
  | meanwhile a => exact Node.guarded_perform_iff hr hm h

/-- What is settled about a node stays so, and the node stays in order. -/
structure Sound (n : Node) (r : Reception) : Prop where
  setup : r.node.setup = n.setup
  orderly : r.node.Orderly

/-- Whatever happens next, the setup is still that of the first node, and the node is in order. -/
theorem Sound.step (h : Sound n r) (hm : m.KeepsRegistrations) : Sound n (r.step m) := by
  rcases r.footing_step m with ⟨a, rfl⟩ | hfooting
  · have hbecomes := Node.becomes_perform h.orderly hm
    exact ⟨hbecomes.setup.trans h.setup, hbecomes.orderly h.orderly⟩
  · exact ⟨(congrArg (·.setup) hfooting).trans h.setup, h.orderly.settled.congr hfooting,
      h.orderly.inStep.congr (congrArg (·.registrations) hfooting)⟩

/-- If its host registers nothing of the master, a node that holds only its own still does after a
step. -/
theorem holdsOwn_step (hr : r.node.Orderly) (hm : m.KeepsRegistrations) (hadds : ¬ m.AddsRestricted)
    (hown : r.node.HoldsOwn) : (r.step m).node.HoldsOwn := by
  rcases r.footing_step m with ⟨a, rfl⟩ | hfooting
  · exact (Node.becomes_perform hr hm).holdsOwn hr hadds hown
  · exact hown.of_le (congrArg (·.setup) hfooting) (congrArg (·.candidate.isActive) hfooting)
      (le_of_eq (congrArg (Route.restricted ·.routes) hfooting))

/-- A node that holds only its own does not lapse, if none of the jobs that it was built with is
restricted to the master and its host does not register anything of the master. -/
theorem not_lapses_of_holdsOwn (hown : r.node.HoldsOwn) (hadds : ¬ m.AddsRestricted)
    (hjobs : ∀ job ∈ r.node.setup.jobs, job.masterOnly = false) : ¬ r.Lapses m := by
  cases m with
  | take e now => exact id
  | finish i result => exact id
  | meanwhile a => exact hown.not_lapses hadds hjobs

/-- Throughout a run a node keeps its setup and stays in order. -/
theorem sound_run (hn : n.Orderly) {ms : List Move} (hms : ∀ m ∈ ms, m.KeepsRegistrations) :
    Sound n (run { node := n } ms) := by
  induction ms using List.reverseRecOn with
  | nil => exact ⟨rfl, hn⟩
  | append_singleton ms m ih =>
    rw [List.forall_mem_append, List.forall_mem_singleton] at hms
    rw [run_append_singleton]
    exact (ih hms.1).step hms.2

/-- A node whose host registers nothing of the master holds only its own throughout a run. -/
theorem holdsOwn_run (hn : n.Orderly) {ms : List Move} (hms : ∀ m ∈ ms, m.KeepsRegistrations)
    (hadds : ∀ m ∈ ms, ¬ m.AddsRestricted) (hown : n.HoldsOwn) :
    (run { node := n } ms).node.HoldsOwn := by
  induction ms using List.reverseRecOn with
  | nil => exact hown
  | append_singleton ms m ih =>
    rw [List.forall_mem_append, List.forall_mem_singleton] at hms hadds
    rw [run_append_singleton]
    exact holdsOwn_step (sound_run hn hms.1).orderly hms.2 hadds.2 (ih hms.1 hadds.1)

/-- A node that is guarded at first is guarded throughout a run exactly if no step of it lapses. -/
theorem guarded_run_iff (hn : n.Orderly) (h : n.Guarded) {ms : List Move}
    (hms : ∀ m ∈ ms, m.KeepsRegistrations) :
    (∀ before, before <+: ms → (run { node := n } before).node.Guarded) ↔
      ∀ before m, before ++ [m] <+: ms → ¬ (run { node := n } before).Lapses m := by
  have hkeeps {before : List Move} (hbefore : before <+: ms) : ∀ m ∈ before, m.KeepsRegistrations :=
    fun m hm => hms m (hbefore.subset hm)
  have hstep {before : List Move} {m : Move} (hbefore : before ++ [m] <+: ms)
      (hguarded : (run { node := n } before).node.Guarded) :
      (run { node := n } (before ++ [m])).node.Guarded ↔ ¬ (run { node := n } before).Lapses m := by
    obtain ⟨hfirst, hlast⟩ := List.forall_mem_append.mp (hkeeps hbefore)
    rw [run_append_singleton]
    exact guarded_step_iff (sound_run hn hfirst).orderly (hlast m (List.mem_singleton_self m))
      hguarded
  have hshorter {before : List Move} {m : Move} (hbefore : before ++ [m] <+: ms) : before <+: ms :=
    (List.prefix_append before [m]).trans hbefore
  -- The node cannot lapse while it stays guarded, and if it never lapses the guard passes from each
  -- moment to the next.
  constructor
  · intro hguarded before m hbefore
    exact (hstep hbefore (hguarded before (hshorter hbefore))).mp (hguarded _ hbefore)
  · intro hnone before hbefore
    induction before using List.reverseRecOn with
    | nil => exact h
    | append_singleton before m ih =>
      exact (hstep hbefore (ih (hshorter hbefore))).mpr (hnone before m hbefore)

/-- Whatever is done to a node that was just built, at every moment the routes and jobs that are
restricted to the master are there only while it is master, exactly if no step lapses: it is not
started, while it is not master, with a job of the master among those of its host; its host
registers no route and no job of the master while it is not; and it does not lose mastership with
more routes of the master than it puts in place itself. So the node is guarded if its host leaves
all that is the master's to it. -/
theorem guarded_iff_none_lapses {b : Blueprint} {supply : Supply} {now : Instant}
    (hbuilt : b.build supply now = .ok n) {ms : List Move}
    (hms : ∀ m ∈ ms, m.KeepsRegistrations) :
    ((∀ before, before <+: ms → (run { node := n } before).node.Guarded) ↔
      ∀ before m, before ++ [m] <+: ms → ¬ (run { node := n } before).Lapses m) ∧
    ((∀ job ∈ b.jobs, job.masterOnly = false) → (∀ m ∈ ms, ¬ m.AddsRestricted) →
      ∀ before, before <+: ms → (run { node := n } before).node.Guarded) := by
  obtain ⟨hnew, -, hjobs, -⟩ := Blueprint.isNew_of_build hbuilt
  have hn : n.Orderly := ⟨hnew.settled, hnew.inStep⟩
  have hiff := guarded_run_iff hn hnew.guarded hms
  refine ⟨hiff, fun hcommon hadds => hiff.mpr fun before m hbefore => ?_⟩
  have hmem {x : Move} (hx : x ∈ before ++ [m]) : x ∈ ms := hbefore.subset hx
  have hfirst {x : Move} (hx : x ∈ before) : x ∈ ms := hmem (List.mem_append_left _ hx)
  have hown := holdsOwn_run hn (fun x hx => hms x (hfirst hx)) (fun x hx => hadds x (hfirst hx))
    hnew.holdsOwn
  refine not_lapses_of_holdsOwn hown (hadds m (hmem (by simp))) ?_
  rw [(sound_run hn fun x hx => hms x (hfirst hx)).setup, hjobs]
  exact hcommon

/-- A command with a handler of the master and a job, which its host hands over with those that are
for every node. -/
def guardSample (masterOnly : Bool) : Blueprint where
  name := "billing"
  service := some "a"
  link := some .bus
  masterHandlers := [⟨.of (some "jobs") none none,
    .host ⟨0, none, false, fun _ => false, fun _ _ => ⟨0, pure (.ok [])⟩⟩⟩]
  jobs := [{ name := "report", timer := .every 1000, body := .sweep, masterOnly }]

/-- If the job is not restricted to the master, the command is guarded while it starts, becomes
master and stops. -/
theorem guarded_while_master_comes_and_goes :
    ∃ n, (guardSample false).build { scope := 0 } 0 = .ok n ∧
      (∀ before, before <+: [.meanwhile .start, .meanwhile (.startMaster 1), .meanwhile (.stop 2)] →
        (run { node := n } before).node.Guarded) ∧
      let r := run { node := n } [.meanwhile .start, .meanwhile (.startMaster 1)]
      r.node.isMaster = true ∧ Route.restricted r.node.roster.router.routes ≠ 0 := by
  have hmaster : ((guardSample false).build { scope := 0 } 0).toOption.any (fun n =>
      let r := run { node := n } [.meanwhile .start, .meanwhile (.startMaster 1)]
      r.node.isMaster && r.node.roster.router.routes.any (·.masterOnly)) = true := by
    decide +kernel
  simp only [Option.any_eq_true, Bool.and_eq_true, List.any_eq_true] at hmaster
  obtain ⟨n, hbuilt, hactive, route, hroute, hrestricted⟩ := hmaster
  have hbuilt := ok_of_toOption hbuilt
  refine ⟨n, hbuilt, ?_, hactive, fun hnone => ?_⟩
  · refine (guarded_iff_none_lapses hbuilt ?_).2 (by simp [guardSample]) ?_
    · simp [Move.KeepsRegistrations, Activity.KeepsRegistrations]
    · simp [Move.AddsRestricted, Activity.AddsRestricted]
  · rw [Route.restricted_eq_zero_iff.mp hnone route hroute] at hrestricted
    cases hrestricted

/-- If the job is restricted to the master, the command has it once it is started, and it is not
master. -/
theorem unguarded_after_start :
    ∃ n, (guardSample true).build { scope := 0 } 0 = .ok n ∧
      let r := run { node := n } [.meanwhile .start]
      r.node.isMaster = false ∧ r.node.roster.timetable.masterJobs.map (·.name) = ["report"] ∧
        ¬ r.node.Guarded := by
  have hstarted : ((guardSample true).build { scope := 0 } 0).toOption.any (fun n =>
      let r := run { node := n } [.meanwhile .start]
      !r.node.isMaster &&
        r.node.roster.timetable.masterJobs.map (·.name) == ["report"]) = true := by
    decide +kernel
  simp only [Option.any_eq_true, Bool.and_eq_true, Bool.not_eq_true', beq_iff_eq] at hstarted
  obtain ⟨n, hbuilt, hmaster, hjobs⟩ := hstarted
  refine ⟨n, ok_of_toOption hbuilt, hmaster, hjobs, fun hguarded => ?_⟩
  rw [(hguarded.bare hmaster).2] at hjobs
  simp at hjobs

end Reception

end CommandMesh
