import CommandMesh.Proofs.Node.Holdings

/-!
# `CommandMesh.Proofs.Node.Restart`: what a stop undoes

A node is started, does whatever it does, and is stopped again. `Node.IsIdle` says that nothing is
in place then but routes, and `Node.bearing` is how a node stands whatever its routes and schedules
are numbered. The routes that the node had registered for itself are removed by their patterns, so a
route of the host that has such a pattern is removed in their place.

The node is one that was just built. Between start and stop anything may happen to it but that its
host registers or removes something (`IsQuiet`): elections are won and lost, messages handled,
requests sent and answered, schedules run. What the host registers in between would stay, and
whether it should is its own affair.

Numbers of routes and schedules are never given out twice, and whenever a node is started it polls
at another time. So two starts cannot lead to the same node, and `Bearing` leaves these out;
everything else is compared, the routes in their order with handlers, names and restrictions, the
jobs that are tracked and driven, the part in the election and the requests that wait.

The argument is about lists of routes. Those of the host come first and those of the node's own
last, all of them for every node; a removal takes the first route with a pattern. If the host has
none of these patterns each removal takes the route that was meant. Otherwise there are fewer
removals left than routes of the node's own, and one of these stays. The theorems:

* `Route.withdrawAll_append`, `Route.exists_left_of_clash`: routes that are removed by their
  patterns are those that came last exactly if no earlier one has one of these patterns.
* `Node.bearing_of_start`: how a node stands once it is started.
* `Reception.Runs.step`: what is kept while it runs.
* `Reception.stop_undoes_start_iff`: a stop undoes the start, and a second start does what the first
  one did, exactly if no route of the host has a pattern of the node's own.
* `Reception.host_route_lost`: a host that listens to the answers as well.
-/

set_option autoImplicit false

namespace CommandMesh

/-! ### Routes -/

namespace Route

variable {H : Type} {host own : List (Route H)} {p : RoutePattern}

/-- If no route before it has the pattern, a removal takes the route that was meant. -/
theorem withdraw_of_not_mem (hp : ∀ r ∈ host, r.pattern ≠ p) {r : Route H} (hr : r.pattern = p)
    (hcommon : r.masterOnly = false) (rest : List (Route H)) :
    withdraw (host ++ r :: rest) p false = host ++ rest := by
  rw [withdraw, List.eraseP_append_right _ (fun x hx => by simp [hp x hx]),
    List.eraseP_cons_of_pos (by simp [hr, hcommon])]

/-- What came last is removed, if nothing before it has one of the patterns. -/
theorem withdrawAll_append (hown : ∀ r ∈ own, r.masterOnly = false)
    (h : ∀ r ∈ host, r.pattern ∉ own.map (·.pattern)) :
    withdrawAll (host ++ own) (own.map (·.pattern)) false = host := by
  induction own with
  | nil => exact List.append_nil host
  | cons r own ih =>
    rw [List.forall_mem_cons] at hown
    simp only [List.map_cons, List.mem_cons, not_or] at h
    rw [List.map_cons, withdrawAll_cons,
      withdraw_of_not_mem (fun x hx => (h x hx).1) rfl hown.1]
    exact ih hown.2 fun x hx => (h x hx).2

/-- A removal takes one route at most. -/
theorem countP_withdraw (q : Route H → Bool) (rs : List (Route H)) (p : RoutePattern)
    (masterOnly : Bool) : rs.countP q ≤ (withdraw rs p masterOnly).countP q + 1 := by
  rcases List.exists_or_eq_self_of_eraseP
    (fun r : Route H => r.pattern == p && r.masterOnly == masterOnly) rs with
    hsame | ⟨removed, before, after, -, -, hroutes, herased⟩
  · rw [withdraw, hsame]
    exact Nat.le_succ _
  · rw [withdraw, herased, hroutes, List.countP_append, List.countP_append, List.countP_cons]
    split <;> omega

/-- Removals take one route each at most. -/
theorem countP_withdrawAll (q : Route H → Bool) (rs : List (Route H)) (ps : List RoutePattern)
    (masterOnly : Bool) : rs.countP q ≤ (withdrawAll rs ps masterOnly).countP q + ps.length := by
  induction ps generalizing rs with
  | nil => exact Nat.le_refl _
  | cons p ps ih =>
    have hfirst := countP_withdraw q rs p masterOnly
    have hrest := ih (withdraw rs p masterOnly)
    rw [withdrawAll_cons, List.length_cons]
    omega

/-- If something before it has one of the patterns, that is removed first, and something of what
came last is left. -/
theorem exists_left_of_clash {q : Route H → Bool} (hhost : ∀ r ∈ host, r.masterOnly = false)
    (hown : ∀ r ∈ own, r.masterOnly = false ∧ q r = true)
    (h : ∃ r ∈ host, r.pattern ∈ own.map (·.pattern)) :
    ∃ r ∈ withdrawAll (host ++ own) (own.map (·.pattern)) false, q r = true := by
  rw [← List.countP_pos_iff]
  induction own with
  | nil => simp at h
  | cons r own ih =>
    rw [List.map_cons, withdrawAll_cons]
    by_cases hclash : ∃ x ∈ host, x.pattern = r.pattern
    · -- There are fewer removals to come than routes that came last.
      obtain ⟨x, hx, hpattern⟩ := hclash
      have hfirst : withdraw (host ++ r :: own) r.pattern false =
          withdraw host r.pattern false ++ r :: own :=
        List.eraseP_append_left (by simp [hpattern, hhost x hx]) _ hx
      have hcount := countP_withdrawAll q (withdraw host r.pattern false ++ r :: own)
        (own.map (·.pattern)) false
      have hall : (r :: own).countP q = own.length + 1 :=
        List.countP_eq_length.mpr fun y hy => (hown y hy).2
      rw [List.countP_append, hall, List.length_map] at hcount
      rw [hfirst]
      omega
    · obtain ⟨x, hx, hpattern⟩ := h
      have hother : ∀ y ∈ host, y.pattern ≠ r.pattern := fun y hy heq => hclash ⟨y, hy, heq⟩
      rw [List.forall_mem_cons] at hown
      rw [withdraw_of_not_mem hother rfl hown.1.1]
      refine ih hown.2 ⟨x, hx, ?_⟩
      simpa [hother x hx] using hpattern

end Route

/-! ### Bearings -/

namespace Timetable

variable {t : Timetable}

/-- The jobs of these schedules. -/
def jobsOf (t : Timetable) (ns : List Nat) : List Job :=
  ns.filterMap fun k => (t.find? k).map (·.job)

/-- What is added in turn is tracked in that order. -/
theorem Sound.jobsOf_tracked_addAll (h : t.Sound) (jobs : List Job) :
    (jobs.foldl Timetable.add t).jobsOf (jobs.foldl Timetable.add t).tracked =
      t.jobsOf t.tracked ++ jobs := by
  induction jobs generalizing t with
  | nil => exact (List.append_nil _).symm
  | cons job jobs ih =>
    have hfirst : (t.add job).jobsOf (t.add job).tracked = t.jobsOf t.tracked ++ [job] := by
      unfold jobsOf
      rw [tracked_add, List.filterMap_append]
      congr 1
      · exact List.filterMap_congr fun k hk => by rw [find?_add (h.made k hk)]
      · simp
    rw [List.foldl_cons, ih (h.add job), hfirst, List.append_assoc, List.singleton_append]

end Timetable

/-- How a node stands, whatever its routes and schedules are numbered and whenever it polls next. -/
structure Bearing where
  setup : Setup
  running : Bool
  pumping : Bool
  held : Bool
  candidate : Candidate
  ownRoutes : List RoutePattern
  routes : List (RoutePattern × Handler × Option String × Bool)
  scheduler : Scheduler
  tracked : List Job
  driven : List Job
  pending : List Waiting

namespace Node

variable {n n' m : Node} {now : Instant}

/-- How the node stands. -/
def bearing (n : Node) : Bearing where
  setup := n.setup
  running := n.running
  pumping := n.pumping
  held := n.mastersHeld
  candidate := { n.candidate with nextPoll := 0 }
  ownRoutes := n.ownRoutes
  routes := n.roster.router.routes.map Route.entry
  scheduler := n.roster.timetable.scheduler
  tracked := n.roster.timetable.jobsOf n.roster.timetable.tracked
  driven := n.roster.timetable.jobsOf n.roster.timetable.registered
  pending := n.waitlist.pending

/-- How an idle node stands once it is started. -/
theorem bearing_of_start (h : n.IsIdle now)
    (hn' : Installs { n with running := true, pumping := true } n.ownEntries n.startJobs n') :
    n'.bearing = {
      setup := n.setup
      running := true
      pumping := true
      held := false
      candidate := { Candidate.create n.setup.name n.setup.service n.setup.policy.election 0 with
        nextPoll := 0 }
      ownRoutes := n.ownPatterns
      routes := n.roster.router.routes.map Route.entry ++ n.ownEntries
      scheduler := n.roster.timetable.scheduler
      tracked := n.startJobs
      driven := if n.roster.timetable.scheduler = .forgetful then [] else n.startJobs
      pending := [] } := by
  obtain ⟨own, hroutes, hown⟩ := hn'.routes
  have htracked : n'.roster.timetable.jobsOf n'.roster.timetable.tracked = n.startJobs := by
    rw [hn'.timetable, h.inStep.sound.jobsOf_tracked_addAll, h.tracked]
    rfl
  have hscheduler : n'.roster.timetable.scheduler = n.roster.timetable.scheduler := by
    rw [hn'.timetable, Timetable.scheduler_addAll]
  have hdriven : n'.roster.timetable.jobsOf n'.roster.timetable.registered =
      if n.roster.timetable.scheduler = .forgetful then [] else n.startJobs := by
    have hinStep : n'.roster.timetable.InStep := hn'.timetable ▸ h.inStep.addAll _
    rw [hinStep.registered, hscheduler]
    split
    · rfl
    · exact htracked
  unfold bearing
  rw [hn'.setup, hn'.running, hn'.pumping, hn'.held, hn'.candidate, hn'.ownRoutes, hroutes,
    htracked, hscheduler, hdriven, hn'.waitlist, List.map_append, hown]
  dsimp only
  rw [h.held, h.ownRoutes, h.pending, h.candidate]
  rfl

end Node

/-! ### Runs -/

namespace Reception

variable {n n' n₁ : Node} {r : Reception} {m : Move} {now built : Instant}

/-- What is kept while a node runs and nothing is registered or removed by its host. -/
structure Runs (n : Node) (r : Reception) : Prop where
  retains : n.Retains r.node
  settled : r.node.Settled
  holdsOwn : r.node.HoldsOwn

/-- Whatever happens but for the host, the node keeps on running as before. -/
theorem Runs.step (hn : n.roster.timetable.InStep) (h : Runs n r) (hm : m.IsQuiet) :
    Runs n (r.step m) := by
  -- What happens is a course of the node, and courses keep all of it.
  have hcourse := course_step h.settled hm
  exact ⟨h.retains.trans hcourse.retains, hcourse.settled h.settled,
    hcourse.holdsOwn (h.retains.timetable hn).1 h.holdsOwn⟩

/-- Throughout a run the node keeps on running as before. -/
theorem runs_run (hn : n.roster.timetable.InStep) (hsettled : n.Settled) (hown : n.HoldsOwn)
    {ms : List Move} (hms : ∀ m ∈ ms, m.IsQuiet) : Runs n (run { node := n } ms) := by
  induction ms using List.reverseRecOn with
  | nil => exact ⟨.refl n, hsettled, hown⟩
  | append_singleton ms m ih =>
    rw [List.forall_mem_append, List.forall_mem_singleton] at hms
    rw [run_append_singleton]
    exact (ih hms.1).step hn hms.2

/-- A new node that was started runs. -/
theorem runs_of_start (hnew : n.IsNew built)
    (hn₁ : Node.Installs { n with running := true, pumping := true } n.ownEntries n.startJobs n₁)
    {ms : List Move} (hms : ∀ m ∈ ms, m.IsQuiet) : Runs n₁ (run { node := n₁ } ms) := by
  have hmaster : n₁.isMaster = n.isMaster := congrArg Candidate.isActive hn₁.candidate
  refine runs_run ?_ ?_ ?_ hms
  · rw [hn₁.timetable]
    exact hnew.inStep.addAll _
  · rw [Node.Settled, hn₁.held, hmaster]
    exact hnew.settled
  · rw [Node.HoldsOwn, hn₁.restricted n.masterOnly_ownEntries]
    dsimp only
    rw [hnew.restricted]
    exact Multiset.zero_le _

/-- What is left of the routes when a node that was started is stopped: its own ones were removed by
their patterns. -/
theorem routes_of_stop (hnew : n.IsNew built)
    (hn₁ : Node.Installs { n with running := true, pumping := true } n.ownEntries n.startJobs n₁)
    (hr : Runs n₁ r) (hn' : r.node.Stops n' now) :
    ∃ own : List (Route Handler), own.map Route.entry = n.ownEntries ∧
      n'.roster.router.routes =
        Route.withdrawAll (n.roster.router.routes ++ own) (own.map (·.pattern)) false := by
  obtain ⟨own, hroutes, hown⟩ := hn₁.routes
  refine ⟨own, hown, ?_⟩
  have hpatterns : r.node.ownRoutes = own.map (·.pattern) := by
    rw [hr.retains.ownRoutes, hn₁.ownRoutes]
    dsimp only
    rw [hnew.ownRoutes, List.nil_append, ← hown, List.map_map]
    rfl
  have hstarted : Route.restricted n₁.roster.router.routes = 0 :=
    (hn₁.restricted n.masterOnly_ownEntries).trans hnew.restricted
  -- A master has removed its own routes by then, and there were no others of the master.
  have hnone : Route.restricted n'.roster.router.routes = 0 := by
    have hload := hr.holdsOwn
    unfold Node.HoldsOwn at hload
    rw [hn'.restricted]
    split <;> rename_i hmaster
    · rw [if_pos hmaster] at hload
      exact tsub_eq_zero_of_le hload
    · rw [if_neg hmaster] at hload
      exact Multiset.le_zero.mp hload
  rw [← Route.common_eq_self hnone, hn'.common, hpatterns, hr.retains.common,
    Route.common_eq_self hstarted, hroutes]

/-- Exactly if no route of the host has a pattern of the node's own, these routes are those of the
host, and otherwise one of the node's own is left. -/
theorem routes_eq_iff (hnew : n.IsNew built)
    (hn₁ : Node.Installs { n with running := true, pumping := true } n.ownEntries n.startJobs n₁)
    (hr : Runs n₁ r) (hn' : r.node.Stops n' now) :
    (n'.roster.router.routes = n.roster.router.routes ↔
      ∀ x ∈ n.roster.router.routes, x.pattern ∉ n.ownPatterns) ∧
    (n'.roster.router.routes.map Route.entry = n.roster.router.routes.map Route.entry ↔
      ∀ x ∈ n.roster.router.routes, x.pattern ∉ n.ownPatterns) := by
  obtain ⟨own, hown, hroutes⟩ := routes_of_stop hnew hn₁ hr hn'
  have hpatterns : own.map (·.pattern) = n.ownPatterns := by
    rw [Node.ownPatterns, ← hown, List.map_map]
    rfl
  have hentry {x : Route Handler} (hx : x ∈ own) : x.entry ∈ n.ownEntries :=
    hown ▸ List.mem_map_of_mem hx
  -- Without a clash each removal takes the route that was meant.
  have hclear (h : ∀ x ∈ n.roster.router.routes, x.pattern ∉ n.ownPatterns) :
      n'.roster.router.routes = n.roster.router.routes := by
    rw [hroutes]
    exact Route.withdrawAll_append (fun x hx => n.masterOnly_ownEntries _ (hentry hx))
      (hpatterns ▸ h)
  -- With one a route of the node is left, and it has a name, as no route of the host has.
  have hclash (h : n'.roster.router.routes.map Route.entry =
      n.roster.router.routes.map Route.entry) :
      ∀ x ∈ n.roster.router.routes, x.pattern ∉ n.ownPatterns := by
    by_contra hnot
    push Not at hnot
    rw [← hpatterns] at hnot
    obtain ⟨x, hx, hreferenced⟩ := Route.exists_left_of_clash (q := fun x => x.reference.isSome)
      (fun x hx => (hnew.routes x hx).2) (fun x hx =>
        ⟨n.masterOnly_ownEntries _ (hentry hx), n.reference_ownEntries _ (hentry hx)⟩) hnot
    rw [← hroutes] at hx
    obtain ⟨y, hy, hsame⟩ := List.mem_map.mp (h ▸ List.mem_map_of_mem (f := Route.entry) hx)
    have hreference : y.reference = x.reference := congrArg (·.2.2.1) hsame
    rw [← hreference, (hnew.routes y hy).1] at hreferenced
    cases hreferenced
  exact ⟨⟨fun h => hclash (congrArg _ h), hclear⟩, ⟨hclash, fun h => congrArg _ (hclear h)⟩⟩

/-- A new node is started, then anything happens to it but that its host registers or removes
something, and then it is stopped. That succeeds, and nothing is in place then but routes. They are
those of the host, the same ones in the same order, exactly if none of them has a pattern of the
node's own; and exactly then a second start leads to where the first one did. -/
theorem stop_undoes_start_iff {b : Blueprint} {supply : Supply}
    (hbuilt : b.build supply built = .ok n) :
    ∃ n₁, n.start = .ok n₁ ∧ ∀ ms : List Move, (∀ m ∈ ms, m.IsQuiet) → ∀ now : Instant,
      ∃ n' n₂, (run { node := n₁ } ms).node.stop now = .ok n' ∧ n'.start = .ok n₂ ∧
        n'.IsIdle now ∧ n'.setup = n.setup ∧
        (n'.roster.router.routes = n.roster.router.routes ↔
          ∀ d ∈ b.handlers, d.pattern ∉ n.ownPatterns) ∧
        (n₂.bearing = n₁.bearing ↔ ∀ d ∈ b.handlers, d.pattern ∉ n.ownPatterns) := by
  obtain ⟨hnew, hpatterns, -, -⟩ := Blueprint.isNew_of_build hbuilt
  obtain ⟨n₁, hstart, hn₁⟩ := Node.exists_start hnew.running
  refine ⟨n₁, hstart, fun ms hms now => ?_⟩
  have hruns := runs_of_start hnew hn₁ hms
  have hjobs : n₁.roster.timetable.InStep := hn₁.timetable ▸ hnew.inStep.addAll _
  obtain ⟨hinStep, hscheduler⟩ := hruns.retains.timetable hjobs
  -- It has been running all the time, so there is something to stop.
  have hrunning : (run { node := n₁ } ms).node.running = true :=
    hruns.retains.running.trans hn₁.running
  have htidy : (run { node := n₁ } ms).node.waitlist.Tidy :=
    hruns.retains.tidy (hn₁.waitlist ▸ hnew.tidy)
  obtain ⟨n', hstop, hn'⟩ := Node.exists_stop hruns.settled hinStep hrunning now
  have hidle := hn'.isIdle htidy
  obtain ⟨n₂, hrestart, hn₂⟩ := Node.exists_start hidle.running
  have hsetup : n'.setup = n.setup := hn'.setup.trans (hruns.retains.setup.trans hn₁.setup)
  have hhandlers : (∀ x ∈ n.roster.router.routes, x.pattern ∉ n.ownPatterns) ↔
      ∀ d ∈ b.handlers, d.pattern ∉ n.ownPatterns := by
    have hmapped : (∀ p ∈ n.roster.router.routes.map (·.pattern), p ∉ n.ownPatterns) ↔
        ∀ p ∈ b.handlers.map (·.pattern), p ∉ n.ownPatterns := by rw [hpatterns]
    simpa only [List.forall_mem_map] using hmapped
  obtain ⟨hroutes, hentries⟩ := routes_eq_iff hnew hn₁ hruns hn'
  refine ⟨n', n₂, hstop, hrestart, hidle, hsetup, hroutes.trans hhandlers, ?_⟩
  have hsame : n'.roster.timetable.scheduler = n.roster.timetable.scheduler := by
    rw [hn'.scheduler, hscheduler, hn₁.timetable, Timetable.scheduler_addAll]
  rw [Node.bearing_of_start hidle hn₂, Node.bearing_of_start hnew.toIsIdle hn₁, ← hhandlers,
    ← hentries, hsame, hsetup, Node.ownPatterns, Node.ownEntries_congr hsetup,
    Node.startJobs_congr hsetup, ← Node.ownPatterns]
  simp

/-- A command whose host listens to that. -/
def restartSample (pattern : RoutePattern) : Blueprint :=
  let handler := .host ⟨0, none, false, fun _ => false, fun _ _ => ⟨0, pure (.ok [])⟩⟩
  { name := "billing"
    service := some "a"
    link := some .bus
    handlers := [⟨pattern, handler⟩]
    masterHandlers := [⟨.of (some "jobs") none none, handler⟩]
    jobs := [{ name := "report", timer := .every 1000, body := .sweep }] }

/-- It is started, becomes master and is stopped. If its host listens to something of its own, the
stop has undone all of that. -/
theorem restarts_after_mastership :
    ∃ n n₁ n' n₂, (restartSample (.of (some "jobs") none none)).build { scope := 0 } 0 = .ok n ∧
      n.start = .ok n₁ ∧
      (run { node := n₁ } [.meanwhile (.startMaster 1)]).node.roster.router.routes.length = 3 ∧
      (run { node := n₁ } [.meanwhile (.startMaster 1)]).node.stop 2 = .ok n' ∧
      n'.roster.router.routes = n.roster.router.routes ∧ n'.start = .ok n₂ ∧
      n₂.bearing = n₁.bearing := by
  have hsample : ((restartSample (.of (some "jobs") none none)).build { scope := 0 } 0).toOption.any
      (fun n => n.start.toOption.any fun n₁ =>
        (run { node := n₁ } [.meanwhile (.startMaster 1)]).node.roster.router.routes.length == 3 &&
          .of (some "jobs") none none ∉ n.ownPatterns) = true := by
    decide +kernel
  simp only [Option.any_eq_true, Bool.and_eq_true, beq_iff_eq, decide_eq_true_eq] at hsample
  obtain ⟨n, hbuilt, n₁, hstart, hlength, hfree⟩ := hsample
  have hbuilt := ok_of_toOption hbuilt
  obtain ⟨m, hm, hruns⟩ := stop_undoes_start_iff hbuilt
  obtain rfl : m = n₁ := Except.ok.inj (hm.symm.trans (ok_of_toOption hstart))
  have hquiet : ∀ move ∈ [Move.meanwhile (.startMaster 1)], move.IsQuiet :=
    List.forall_mem_singleton.mpr trivial
  obtain ⟨n', n₂, hstop, hrestart, -, -, hroutes, hbearing⟩ := hruns _ hquiet 2
  have hclear : ∀ d ∈ (restartSample (.of (some "jobs") none none)).handlers,
      d.pattern ∉ n.ownPatterns := by
    simpa [restartSample] using hfree
  exact ⟨n, m, n', n₂, hbuilt, hm, hlength, hstop, hroutes.mpr hclear, hrestart,
    hbearing.mpr hclear⟩

/-- If its host listens to the answers to its requests as well, the stop removes the route of the
host and leaves the other one. -/
theorem host_route_lost :
    ∃ n n₁ n', (restartSample (.of (some "response") (some "a") none)).build { scope := 0 } 0 =
        .ok n ∧
      n.start = .ok n₁ ∧ n₁.stop 1 = .ok n' ∧
      n.roster.router.routes.map (·.reference) = [none] ∧
      n'.roster.router.routes.map (·.reference) = [some "outgoing-response"] := by
  have hsample : ((restartSample (.of (some "response") (some "a") none)).build
      { scope := 0 } 0).toOption.any (fun n => n.start.toOption.any fun n₁ =>
        (n₁.stop 1).toOption.any fun n' =>
          n.roster.router.routes.map (·.reference) == [none] &&
            n'.roster.router.routes.map (·.reference) == [some "outgoing-response"]) = true := by
    decide +kernel
  simp only [Option.any_eq_true, Bool.and_eq_true, beq_iff_eq] at hsample
  obtain ⟨n, hbuilt, n₁, hstart, n', hstop, hsample⟩ := hsample
  exact ⟨n, n₁, n', ok_of_toOption hbuilt, ok_of_toOption hstart, ok_of_toOption hstop, hsample⟩

end Reception

end CommandMesh
