import CommandMesh.Proofs.Node.Footing
import Mathlib.Algebra.Order.Sub.Basic
import Mathlib.Data.Multiset.OrderedMonoid

/-!
# `CommandMesh.Proofs.Node.Holdings`: the routes and jobs that a node holds

Routes are removed by their pattern and by whether they exist on the master only, so what counts
about those of the master is how many of each pattern there are (`Route.restricted`), and about the
others which of them there are and in what order (`Route.common`). `Node.HoldsOwn` says that a node
holds no route of the master but those that it puts in place itself, and only as master.

The routes of the master are a multiset and the others a list, and that is on purpose. A removal
takes the first route of its pattern, whoever registered it; for the master's own routes it does not
matter which of two equal patterns goes, as long as the numbers are right, while for the routes of
the host it is the very point which one is gone. Both follow from one description of a removal,
`Route.withdraw`.

Each of the four changes of a node has a structure that says all of it: `Retains` for what any quiet
course keeps, `Installs` for what a start adds, `Stops` for what a stop does, and `IsIdle` and
`IsNew` for what a node is like before it was ever started, and after it has stopped. A start and a
stop are proved to succeed (`exists_start`, `exists_stop`), under the hypothesis that the node is
not running, or is; otherwise they are refused.

What is assumed of a node that stops is that it is settled and that its scheduler is in step. Both
hold of every node that was built and then did what nodes do; these modules do not ask how the node
came to be so. The host may have any routes and jobs besides.

* `Route.restricted_withdraw`, `Route.common_withdraw`: what a removal does to either.
* `Node.restricted_holdMasters`, `Node.restricted_releaseMasters`: what mastership adds and takes.
* `Node.Course.retains`, `Node.Course.holdsOwn`: what is kept by whatever a settled node does, short
  of starting, stopping and what its host registers or removes.
* `Node.exists_start`, `Node.exists_stop`: all that a start and a stop do, and that they succeed.
* `Blueprint.isNew_of_build`: a node that was just built is new.
-/

set_option autoImplicit false

namespace CommandMesh

/-- What gives something has succeeded with it. -/
theorem ok_of_toOption {ε α : Type} {x : Except ε α} {a : α} (h : x.toOption = some a) :
    x = .ok a := by
  cases x with
  | error e => simp [Except.toOption] at h
  | ok b => exact congrArg Except.ok (Option.some.inj h)

/-! ### Routes -/

/-- What is removed for a reason that excludes it from the filter makes no difference to it. -/
theorem filter_eraseP_of_excluded {α : Type} {p q : α → Bool} (h : ∀ a, p a = true → q a = false)
    (l : List α) : (l.eraseP p).filter q = l.filter q := by
  rcases List.exists_or_eq_self_of_eraseP p l with
    hsame | ⟨removed, before, after, -, hremoved, hlist, herased⟩
  · rw [hsame]
  · have hout : ¬ q removed = true := by simp [h removed hremoved]
    rw [herased, hlist, List.filter_append, List.filter_append, List.filter_cons_of_neg hout]

namespace Route

variable {H : Type} {rs : List (Route H)} {pattern : RoutePattern}

/-- The patterns of the routes that exist on the master only. -/
def restricted (rs : List (Route H)) : Multiset RoutePattern :=
  ↑((rs.filter (·.masterOnly)).map (·.pattern))

/-- The routes that exist on every node. -/
def common (rs : List (Route H)) : List (Route H) := rs.filter fun r => !r.masterOnly

/-- The routes without the first one of that pattern and that restriction to the master. -/
def withdraw (rs : List (Route H)) (pattern : RoutePattern) (masterOnly : Bool) :
    List (Route H) :=
  rs.eraseP fun r => r.pattern == pattern && r.masterOnly == masterOnly

/-- What a route is, whatever its number. -/
def entry (r : Route H) : RoutePattern × H × Option String × Bool :=
  (r.pattern, r.handler, r.reference, r.masterOnly)

/-- The routes of the master in two lists are those of the one and those of the other. -/
theorem restricted_append (rs rs' : List (Route H)) :
    restricted (rs ++ rs') = restricted rs + restricted rs' := by
  simp [restricted]

/-- The routes of every node in two lists are those of the one and then those of the other. -/
theorem common_append (rs rs' : List (Route H)) : common (rs ++ rs') = common rs ++ common rs' :=
  List.filter_append _ _

/-- There is no route of the master exactly if no route is restricted to it. -/
theorem restricted_eq_zero_iff : restricted rs = 0 ↔ ∀ r ∈ rs, r.masterOnly = false := by
  simp [restricted]

/-- Without routes of the master all routes are common. -/
theorem common_eq_self (h : restricted rs = 0) : common rs = rs := by
  refine List.filter_eq_self.mpr fun r hr => ?_
  rw [restricted_eq_zero_iff.mp h r hr]
  rfl

/-- If all routes are the master's, all their patterns count. -/
theorem restricted_of_forall (h : ∀ r ∈ rs, r.masterOnly = true) :
    restricted rs = ↑(rs.map (·.pattern)) := by
  rw [restricted, List.filter_eq_self.mpr h]

/-- If all routes are the master's, none is common. -/
theorem common_of_forall (h : ∀ r ∈ rs, r.masterOnly = true) : common rs = [] :=
  List.filter_eq_nil_iff.mpr fun r hr => by simp [h r hr]

/-- Of the routes of the master one is gone, if that is what was removed. -/
theorem restricted_withdraw (rs : List (Route H)) (pattern : RoutePattern) (masterOnly : Bool) :
    restricted (withdraw rs pattern masterOnly) =
      if masterOnly then (restricted rs).erase pattern else restricted rs := by
  cases masterOnly with
  | true =>
    -- The first route to go among all is the first one of its pattern among those of the master.
    have hfilter : (withdraw rs pattern true).filter (·.masterOnly) =
        (rs.filter (·.masterOnly)).eraseP fun r => r.pattern == pattern := by
      rw [withdraw, List.eraseP_filter]
      simp
    rw [restricted, hfilter, if_pos rfl, restricted, Multiset.coe_erase, List.erase_eq_eraseP,
      List.eraseP_map]
    congr 3
    funext r
    exact BEq.comm
  | false =>
    have hfilter : (withdraw rs pattern false).filter (·.masterOnly) = rs.filter (·.masterOnly) :=
      filter_eraseP_of_excluded (by simp) rs
    rw [restricted, hfilter, if_neg Bool.false_ne_true, restricted]

/-- Of the other routes the first one of the pattern is gone, if that is what was removed. -/
theorem common_withdraw (rs : List (Route H)) (pattern : RoutePattern) (masterOnly : Bool) :
    common (withdraw rs pattern masterOnly) =
      if masterOnly then common rs else withdraw (common rs) pattern false := by
  cases masterOnly with
  | true => exact filter_eraseP_of_excluded (by simp) rs
  | false =>
    rw [if_neg Bool.false_ne_true, withdraw, common, common, withdraw, List.eraseP_filter]
    congr 2
    funext r
    cases r.masterOnly <;> simp

/-- The routes without the first one of each of these patterns, in turn. -/
def withdrawAll (rs : List (Route H)) (ps : List RoutePattern) (masterOnly : Bool) :
    List (Route H) :=
  ps.foldl (fun rs p => withdraw rs p masterOnly) rs

/-- Routes are withdrawn one after the other. -/
theorem withdrawAll_cons (rs : List (Route H)) (p : RoutePattern) (ps : List RoutePattern)
    (masterOnly : Bool) :
    withdrawAll rs (p :: ps) masterOnly = withdrawAll (withdraw rs p masterOnly) ps masterOnly :=
  rfl

/-- Of the routes of the master one for each pattern is gone, if that is what was removed. -/
theorem restricted_withdrawAll (rs : List (Route H)) (ps : List RoutePattern) (masterOnly : Bool) :
    restricted (withdrawAll rs ps masterOnly) =
      if masterOnly then restricted rs - ↑ps else restricted rs := by
  -- Pattern by pattern: to take one away for each is to subtract them all.
  induction ps generalizing rs with
  | nil => cases masterOnly <;> simp [withdrawAll]
  | cons p ps ih =>
    rw [withdrawAll_cons, ih, restricted_withdraw]
    cases masterOnly with
    | true => simp only [if_true, ← Multiset.cons_coe, Multiset.sub_cons]
    | false => rfl

/-- Of the other routes the first of each pattern is gone, if that is what was removed. -/
theorem common_withdrawAll (rs : List (Route H)) (ps : List RoutePattern) (masterOnly : Bool) :
    common (withdrawAll rs ps masterOnly) =
      if masterOnly then common rs else withdrawAll (common rs) ps false := by
  induction ps generalizing rs with
  | nil => cases masterOnly <;> rfl
  | cons p ps ih =>
    rw [withdrawAll_cons, ih, common_withdraw]
    cases masterOnly <;> rfl

end Route

/-! ### Jobs -/

namespace Timetable

variable {t t' : Timetable}

/-- All that is tracked is listed unless only the master's is asked for. -/
@[simp] theorem list_false (t : Timetable) : t.list false = t.tracked := by
  simp [list]

/-- The master has no jobs exactly if nothing that is tracked is restricted to it. -/
theorem masterJobs_eq_nil_iff :
    t.masterJobs = [] ↔ ∀ k ∈ t.tracked, t.isMasterOnly k = false := by
  have hmade {k : Nat} (hk : t.isMasterOnly k = true) : t.find? k ≠ none := by
    rintro hnone
    simp [isMasterOnly, hnone] at hk
  constructor
  · intro h k hk
    cases hmaster : t.isMasterOnly k with
    | false => rfl
    | true =>
      have hlisted : k ∈ t.list true := List.mem_filter.mpr ⟨hk, by simpa using hmaster⟩
      have hnone := List.filterMap_eq_nil_iff.mp h k hlisted
      exact absurd (Option.map_eq_none_iff.mp hnone) (hmade hmaster)
  · intro h
    have hnil : t.list true = [] := List.filter_eq_nil_iff.mpr fun k hk => by simp [h k hk]
    rw [masterJobs, hnil, List.filterMap_nil]

/-- To forget a schedule brings the master no job. -/
theorem masterJobs_drop_eq_nil (h : t.masterJobs = []) (n : Nat) :
    (t.drop n).masterJobs = [] := by
  rw [masterJobs_eq_nil_iff] at h ⊢
  intro k hk
  rw [tracked_drop] at hk
  rw [isMasterOnly_drop, h k (List.mem_of_mem_erase hk)]

/-- What is registered alike has the same jobs of the master. -/
theorem masterJobs_congr (h : t'.registrations = t.registrations) :
    t'.masterJobs = t.masterJobs := by
  have hlist : t'.list true = t.list true := by
    unfold list
    rw [show t'.tracked = t.tracked from congrArg (·.tracked) h]
    exact List.filter_congr fun k _ => by rw [isMasterOnly_congr h]
  unfold masterJobs
  rw [hlist]
  refine List.filterMap_congr fun k _ => ?_
  have hjob := congrArg (Option.map (·.1)) (find?_congr h k)
  rwa [Option.map_map, Option.map_map] at hjob

/-- To add jobs in turn keeps the scheduler in step. -/
theorem InStep.addAll (h : t.InStep) (jobs : List Job) : (jobs.foldl Timetable.add t).InStep := by
  induction jobs generalizing t with
  | nil => exact h
  | cons job jobs ih => exact ih (h.add job)

/-- To forget schedules in turn keeps the scheduler in step. -/
theorem InStep.dropAll (h : t.InStep) (ns : List Nat) : (t.dropAll ns).InStep := by
  induction ns generalizing t with
  | nil => exact h
  | cons n ns ih => exact ih (h.drop n)

/-- To add jobs does not change the kind of scheduler. -/
@[simp] theorem scheduler_addAll (t : Timetable) (jobs : List Job) :
    (jobs.foldl Timetable.add t).scheduler = t.scheduler := by
  induction jobs generalizing t with
  | nil => rfl
  | cons job jobs ih => exact ih (t.add job)

/-- To forget schedules does not change the kind of scheduler. -/
@[simp] theorem scheduler_dropAll (t : Timetable) (ns : List Nat) :
    (t.dropAll ns).scheduler = t.scheduler := by
  induction ns generalizing t with
  | nil => rfl
  | cons n ns ih => exact (ih (t.drop n)).trans (scheduler_drop t n)

/-- No job of the master is left once those that are listed are removed. -/
theorem masterJobs_dropAll (t : Timetable) : (t.dropAll (t.list true)).masterJobs = [] := by
  rw [masterJobs, list_dropAll, List.filterMap_nil]

/-- What tracks nothing has nothing registered with the scheduler. -/
theorem InStep.driven_eq_nil (h : t.InStep) (htracked : t.tracked = []) : t.driven = [] := by
  have hregistered := h.registered
  rw [htracked, ite_self] at hregistered
  exact List.map_eq_nil_iff.mp hregistered

end Timetable

namespace Roster

variable {H : Type} {r : Roster H}

/-- A route that is added counts as the master's if it is restricted to it. -/
theorem restricted_addRoute (r : Roster H) (pattern : RoutePattern) (handler : H)
    (reference : Option String) (masterOnly : Bool) :
    Route.restricted (r.addRoute pattern handler reference masterOnly).1.router.routes =
      Route.restricted r.router.routes + if masterOnly then {pattern} else 0 := by
  rw [router_addRoute, Router.register, Route.restricted_append]
  cases masterOnly <;> rfl

/-- To remove a route withdraws the first one of its pattern and its restriction. -/
theorem routes_removeRoute (r : Roster H) (pattern : RoutePattern) (masterOnly : Bool) :
    ((r.removeRoute pattern masterOnly).getD r).router.routes =
      Route.withdraw r.router.routes pattern masterOnly := by
  rw [router_removeRoute, Router.routes_unregister]
  rfl

/-- Routes for what is defined come last, in the order of the definitions. -/
theorem routes_addRoutes (r : Roster Handler) (ds : List Definition) (masterOnly : Bool) :
    ∃ added : List (Route Handler),
      (ds.foldl (fun r d => (r.addRoute d.pattern d.handler none masterOnly).1) r).router.routes =
        r.router.routes ++ added ∧
      added.map (·.pattern) = ds.map (·.pattern) ∧
      ∀ x ∈ added, x.reference = none ∧ x.masterOnly = masterOnly := by
  -- Definition by definition, each behind those that are there; the numbers of the routes do not
  -- matter here.
  induction ds generalizing r with
  | nil => exact ⟨[], (List.append_nil _).symm, rfl, by simp⟩
  | cons d ds ih =>
    obtain ⟨added, hroutes, hpatterns, hadded⟩ :=
      ih (r.addRoute d.pattern d.handler none masterOnly).1
    refine ⟨⟨r.router.next, d.pattern, d.handler, none, masterOnly⟩ :: added, ?_, ?_, ?_⟩
    · rw [List.foldl_cons, hroutes, router_addRoute, Router.register, List.append_assoc,
        List.singleton_append]
    · rw [List.map_cons, hpatterns, List.map_cons]
    · exact List.forall_mem_cons.mpr ⟨⟨rfl, rfl⟩, hadded⟩

/-- Routes are removed in turn. -/
theorem routes_removeRoutes (r : Roster H) (ps : List RoutePattern) (masterOnly : Bool) :
    (ps.foldl (fun r p => (r.removeRoute p masterOnly).getD r) r).router.routes =
      Route.withdrawAll r.router.routes ps masterOnly := by
  induction ps generalizing r with
  | nil => rfl
  | cons p ps ih => rw [List.foldl_cons, ih, routes_removeRoute, Route.withdrawAll_cons]

/-- To remove routes leaves the jobs alone. -/
theorem timetable_removeRoutes_of_patterns (r : Roster H) (ps : List RoutePattern)
    (masterOnly : Bool) :
    (ps.foldl (fun r p => (r.removeRoute p masterOnly).getD r) r).timetable = r.timetable := by
  induction ps generalizing r with
  | nil => rfl
  | cons p ps ih => rw [List.foldl_cons, ih, timetable_removeRoute]

end Roster

/-! ### What mastership adds and takes -/

namespace Node

variable {n n' m : Node}

/-- The routes of a node that puts what is the master's in place. -/
theorem routes_holdMasters (n : Node) : ∃ added : List (Route Handler),
    n.holdMasters.roster.router.routes = n.roster.router.routes ++ added ∧
      added.map (·.pattern) = n.masterPatterns ∧ ∀ x ∈ added, x.masterOnly = true := by
  obtain ⟨added, hroutes, hpatterns, hadded⟩ :=
    n.roster.routes_addRoutes n.setup.masterHandlers true
  refine ⟨added, ?_, hpatterns, fun x hx => (hadded x hx).2⟩
  rw [← hroutes]
  exact congrArg Router.routes (Roster.router_startMasterJobs _ _)

/-- What the node is set up for decides which patterns are the master's. -/
theorem masterPatterns_congr (h : n'.setup = n.setup) : n'.masterPatterns = n.masterPatterns := by
  rw [masterPatterns, h, masterPatterns]

/-- A node that puts what is the master's in place adds one route for each of its patterns. -/
theorem restricted_holdMasters (n : Node) :
    Route.restricted n.holdMasters.roster.router.routes =
      Route.restricted n.roster.router.routes + ↑n.masterPatterns := by
  obtain ⟨added, hroutes, hpatterns, hadded⟩ := n.routes_holdMasters
  rw [hroutes, Route.restricted_append, Route.restricted_of_forall hadded, hpatterns]

/-- A node that puts what is the master's in place leaves the other routes as they are. -/
theorem common_holdMasters (n : Node) :
    Route.common n.holdMasters.roster.router.routes = Route.common n.roster.router.routes := by
  obtain ⟨added, hroutes, -, hadded⟩ := n.routes_holdMasters
  rw [hroutes, Route.common_append, Route.common_of_forall hadded, List.append_nil]

/-- A node that puts what is the master's in place adds the jobs of the master in turn. -/
theorem timetable_holdMasters (n : Node) : n.holdMasters.roster.timetable =
    (n.setup.masterJobs.map fun job => { job with masterOnly := true }).foldl Timetable.add
      n.roster.timetable := by
  show (Roster.startMasterJobs _ _).1.timetable = _
  rw [Roster.timetable_startMasterJobs, Roster.timetable_addRoutes]

/-- The routes of a node that removes what is the master's. -/
theorem routes_releaseMasters (n : Node) : n.releaseMasters.roster.router.routes =
    Route.withdrawAll n.roster.router.routes n.masterPatterns true := by
  rw [← Roster.routes_removeRoutes, masterPatterns, List.foldl_map]
  exact congrArg Router.routes (Roster.router_stopMasterJobs _)

/-- A node that removes what is the master's takes one route for each of its patterns, if there are
as many. -/
theorem restricted_releaseMasters (n : Node) :
    Route.restricted n.releaseMasters.roster.router.routes =
      Route.restricted n.roster.router.routes - ↑n.masterPatterns := by
  rw [routes_releaseMasters, Route.restricted_withdrawAll, if_pos rfl]

/-- A node that removes what is the master's leaves the other routes as they are. -/
theorem common_releaseMasters (n : Node) :
    Route.common n.releaseMasters.roster.router.routes = Route.common n.roster.router.routes := by
  rw [routes_releaseMasters, Route.common_withdrawAll, if_pos rfl]

/-- A node that removes what is the master's forgets all jobs that are restricted to it. -/
theorem timetable_releaseMasters (h : n.roster.timetable.Sound) :
    n.releaseMasters.roster.timetable =
      n.roster.timetable.dropAll (n.roster.timetable.list true) := by
  have hkept : (n.setup.masterHandlers.foldl
      (fun r d => (r.removeRoute d.pattern true).getD r) n.roster).timetable =
        n.roster.timetable := Roster.timetable_removeRoutes _ _
  show (Roster.removeJobs _ _).1.timetable = _
  rw [Roster.timetable_removeJobs (hkept.symm ▸ h), hkept]

/-! ### What a course keeps -/

/-- What is settled about the node, its own routes and those that exist on every node are the same,
and its jobs and requests are kept in order. -/
structure Retains (n n' : Node) : Prop where
  setup : n'.setup = n.setup
  running : n'.running = n.running
  pumping : n'.pumping = n.pumping
  ownRoutes : n'.ownRoutes = n.ownRoutes
  common : Route.common n'.roster.router.routes = Route.common n.roster.router.routes
  timetable : n.roster.timetable.InStep → n'.roster.timetable.InStep ∧
    n'.roster.timetable.scheduler = n.roster.timetable.scheduler
  tidy : n.waitlist.Tidy → n'.waitlist.Tidy

/-- A node that nothing happens to retains all of this. -/
theorem Retains.refl (n : Node) : n.Retains n :=
  ⟨rfl, rfl, rfl, rfl, rfl, fun h => ⟨h, rfl⟩, id⟩

/-- What is retained in two steps is retained. -/
theorem Retains.trans (h : n.Retains m) (h' : m.Retains n') : n.Retains n' where
  setup := h'.setup.trans h.setup
  running := h'.running.trans h.running
  pumping := h'.pumping.trans h.pumping
  ownRoutes := h'.ownRoutes.trans h.ownRoutes
  common := h'.common.trans h.common
  timetable := fun hinStep => by
    obtain ⟨hkept, hscheduler⟩ := h.timetable hinStep
    obtain ⟨hkept', hscheduler'⟩ := h'.timetable hkept
    exact ⟨hkept', hscheduler'.trans hscheduler⟩
  tidy := fun htidy => h'.tidy (h.tidy htidy)

/-- A node that stays on its footing, but for requests and its part in the election, retains all of
this. -/
theorem Retains.of_footing {w : Waitlist} {c : Candidate}
    (h : n'.footing = { n.footing with waitlist := w, candidate := c })
    (hw : n.waitlist.Tidy → w.Tidy) : n.Retains n' where
  setup := congrArg (·.setup) h
  running := congrArg (·.running) h
  pumping := congrArg (·.pumping) h
  ownRoutes := congrArg (·.ownRoutes) h
  common := congrArg (Route.common ·.routes) h
  timetable := fun hinStep =>
    ⟨hinStep.congr (congrArg (·.registrations) h), congrArg (·.registrations.scheduler) h⟩
  tidy := fun htidy => by
    have hlist : n'.waitlist = w := congrArg (·.waitlist) h
    exact hlist ▸ hw htidy

/-- A node that puts what is the master's in place retains all of this. -/
theorem retains_holdMasters (n : Node) : n.Retains n.holdMasters :=
  ⟨rfl, rfl, rfl, rfl, n.common_holdMasters, fun h => by
    rw [timetable_holdMasters]
    exact ⟨h.addAll _, Timetable.scheduler_addAll _ _⟩, id⟩

/-- A node that removes what is the master's retains all of this. -/
theorem retains_releaseMasters (n : Node) : n.Retains n.releaseMasters :=
  ⟨rfl, rfl, rfl, rfl, n.common_releaseMasters, fun h => by
    rw [timetable_releaseMasters h.sound]
    exact ⟨h.dropAll _, Timetable.scheduler_dropAll _ _⟩, id⟩

/-- Whatever course a node takes, it retains all of this. -/
theorem Course.retains (h : n.Course n') : n.Retains n' := by
  cases h with
  | rests hfooting hw _ => exact .of_footing hfooting hw
  | takes hm _ _ hfooting =>
    exact ((Retains.of_footing (w := n.waitlist) hm id).trans (retains_holdMasters _)).trans
      (.of_footing (w := Node.waitlist _) (c := Node.candidate _) hfooting id)
  | yields hm _ _ hfooting =>
    exact ((Retains.of_footing (w := n.waitlist) hm id).trans (retains_releaseMasters _)).trans
      (.of_footing (w := Node.waitlist _) (c := Node.candidate _) hfooting id)

/-- What a course does to mastership, and with it to the routes and jobs of the master. -/
theorem Course.masters (h : n.Course n') (hn : n.roster.timetable.InStep) :
    n'.isMaster = n.isMaster ∧
        Route.restricted n'.roster.router.routes = Route.restricted n.roster.router.routes ∧
        n'.roster.timetable.masterJobs = n.roster.timetable.masterJobs ∨
      n.isMaster = false ∧ n'.isMaster = true ∧
        Route.restricted n'.roster.router.routes =
          Route.restricted n.roster.router.routes + ↑n.masterPatterns ∨
      n.isMaster = true ∧ n'.isMaster = false ∧
        Route.restricted n'.roster.router.routes =
          Route.restricted n.roster.router.routes - ↑n.masterPatterns ∧
        n'.roster.timetable.masterJobs = [] := by
  -- A course rests on the footing, takes mastership or yields it; only the latter two touch what is
  -- the master's.
  cases h with
  | rests hfooting _ hc =>
    refine Or.inl ⟨(congrArg (·.candidate.isActive) hfooting).trans hc, ?_, ?_⟩
    · exact congrArg (Route.restricted ·.routes) hfooting
    · exact Timetable.masterJobs_congr (congrArg (·.registrations) hfooting)
  | @takes m c hm hbefore hc hfooting =>
    have hroutes : m.roster.router.routes = n.roster.router.routes := congrArg (·.routes) hm
    have hsetup : m.setup = n.setup := congrArg (·.setup) hm
    have hmaster : n'.isMaster = m.isMaster := congrArg (·.candidate.isActive) hfooting
    refine Or.inr (Or.inl ⟨hbefore, ?_, ?_⟩)
    · rw [hmaster, ← hc]
      exact congrArg (·.candidate.isActive) hm
    · rw [show n'.roster.router.routes = m.holdMasters.roster.router.routes from
        congrArg (·.routes) hfooting, restricted_holdMasters, hroutes,
        masterPatterns_congr hsetup]
  | @yields m c hm hbefore hc hfooting =>
    have hroutes : m.roster.router.routes = n.roster.router.routes := congrArg (·.routes) hm
    have hsetup : m.setup = n.setup := congrArg (·.setup) hm
    have hmaster : n'.isMaster = m.isMaster := congrArg (·.candidate.isActive) hfooting
    have hinStep := hn.congr (congrArg (·.registrations) hm)
    refine Or.inr (Or.inr ⟨hbefore, ?_, ?_, ?_⟩)
    · rw [hmaster, ← hc]
      exact congrArg (·.candidate.isActive) hm
    · rw [show n'.roster.router.routes = m.releaseMasters.roster.router.routes from
        congrArg (·.routes) hfooting, restricted_releaseMasters, hroutes,
        masterPatterns_congr hsetup]
    · rw [Timetable.masterJobs_congr (congrArg (·.registrations) hfooting),
        timetable_releaseMasters hinStep.sound]
      exact m.roster.timetable.masterJobs_dropAll

/-- The node holds no route of the master but those that it puts in place itself, and only as
master. -/
def HoldsOwn (n : Node) : Prop :=
  Route.restricted n.roster.router.routes ≤ if n.isMaster then ↑n.masterPatterns else 0

/-- Whatever course a settled node takes, it holds no route of the master but its own, and only as
master. -/
theorem Course.holdsOwn (h : n.Course n') (hn : n.roster.timetable.InStep) (hown : n.HoldsOwn) :
    n'.HoldsOwn := by
  unfold HoldsOwn at hown ⊢
  rw [masterPatterns_congr h.retains.setup]
  rcases h.masters hn with ⟨hmaster, hroutes, -⟩ | ⟨hbefore, hmaster, hroutes⟩ |
    ⟨hbefore, hmaster, hroutes, -⟩
  · rw [hmaster, hroutes]
    exact hown
  · -- It held none of them before.
    rw [hbefore, if_neg Bool.false_ne_true, Multiset.le_zero] at hown
    rw [hmaster, hroutes, hown, zero_add, if_pos rfl]
  · rw [hbefore, if_pos rfl] at hown
    rw [hmaster, hroutes, tsub_eq_zero_of_le hown]
    exact Multiset.zero_le _

/-! ### Starting -/

/-- The routes that the node needs for the election, whatever their numbers. -/
def electionEntries (n : Node) : List (RoutePattern × Handler × Option String × Bool) :=
  if n.setup.policy.election.enabled then
    [(n.electionPattern, .election, some "master-job-negotiation", false)]
  else []

/-- The routes that the node needs for itself. -/
def ownEntries (n : Node) : List (RoutePattern × Handler × Option String × Bool) :=
  (n.answerPattern, .answers, some "outgoing-response", false) :: n.electionEntries

/-- Their patterns. -/
def ownPatterns (n : Node) : List RoutePattern := n.ownEntries.map (·.1)

/-- The jobs that the node needs for the election. -/
def electionJobs (n : Node) : List Job :=
  if n.setup.policy.election.enabled then
    [{ name := n.pollJobName, timer := .every n.setup.policy.election.tickSpan, body := .poll }]
  else []

/-- The job that sweeps the waitlist. -/
def sweepJob (n : Node) : Job :=
  { name := n.sweepJobName, timer := .every n.setup.policy.sweepSpan, body := .sweep }

/-- The jobs that the node registers when it starts: its own, then those of its host. -/
def startJobs (n : Node) : List Job := n.electionJobs ++ n.sweepJob :: n.setup.jobs

/-- What the node is set up for decides which routes it needs for itself. -/
theorem ownEntries_congr (h : n'.setup = n.setup) : n'.ownEntries = n.ownEntries := by
  unfold ownEntries electionEntries answerPattern electionPattern electionKind
  rw [h]

/-- What the node is set up for decides which jobs it registers when it starts. -/
theorem startJobs_congr (h : n'.setup = n.setup) : n'.startJobs = n.startJobs := by
  unfold startJobs electionJobs sweepJob pollJobName sweepJobName
  rw [h]

/-- The second node is the first one with these routes of its own and these jobs added. -/
structure Installs (n : Node) (entries : List (RoutePattern × Handler × Option String × Bool))
    (jobs : List Job) (n' : Node) : Prop where
  setup : n'.setup = n.setup
  running : n'.running = n.running
  pumping : n'.pumping = n.pumping
  held : n'.mastersHeld = n.mastersHeld
  candidate : n'.candidate = n.candidate
  waitlist : n'.waitlist = n.waitlist
  ownRoutes : n'.ownRoutes = n.ownRoutes ++ entries.map (·.1)
  routes : ∃ own, n'.roster.router.routes = n.roster.router.routes ++ own ∧
    own.map Route.entry = entries
  timetable : n'.roster.timetable = jobs.foldl Timetable.add n.roster.timetable

/-- A node that nothing happens to has nothing added. -/
theorem Installs.refl (n : Node) : n.Installs [] [] n :=
  ⟨rfl, rfl, rfl, rfl, rfl, rfl, (List.append_nil _).symm, ⟨[], (List.append_nil _).symm, rfl⟩, rfl⟩

/-- What is added in two steps is added in turn. -/
theorem Installs.trans {entries entries' : List (RoutePattern × Handler × Option String × Bool)}
    {jobs jobs' : List Job} (h : n.Installs entries jobs m) (h' : m.Installs entries' jobs' n') :
    n.Installs (entries ++ entries') (jobs ++ jobs') n' where
  setup := h'.setup.trans h.setup
  running := h'.running.trans h.running
  pumping := h'.pumping.trans h.pumping
  held := h'.held.trans h.held
  candidate := h'.candidate.trans h.candidate
  waitlist := h'.waitlist.trans h.waitlist
  ownRoutes := by rw [h'.ownRoutes, h.ownRoutes, List.append_assoc, List.map_append]
  routes := by
    obtain ⟨own, hroutes, hentries⟩ := h.routes
    obtain ⟨own', hroutes', hentries'⟩ := h'.routes
    exact ⟨own ++ own', by rw [hroutes', hroutes, List.append_assoc],
      by rw [List.map_append, hentries, hentries']⟩
  timetable := by rw [h'.timetable, h.timetable, List.foldl_append]

/-- A route that the node adds for itself is added, and noted as its own. -/
theorem installs_addOwnRoute (n : Node) (pattern : RoutePattern) (handler : Handler)
    (reference : String) : n.Installs [(pattern, handler, some reference, false)] []
      (n.addOwnRoute pattern handler reference) :=
  ⟨rfl, rfl, rfl, rfl, rfl, rfl, rfl, ⟨_, rfl, rfl⟩, rfl⟩

/-- A job that the node adds is added. -/
theorem installs_addJob (n : Node) (job : Job) : n.Installs [] [job] (n.addJob job) where
  setup := rfl
  running := rfl
  pumping := rfl
  held := rfl
  candidate := rfl
  waitlist := rfl
  ownRoutes := (List.append_nil _).symm
  routes := ⟨[], by rw [addJob, Roster.router_addJob, List.append_nil], rfl⟩
  timetable := Roster.timetable_addJob _ _

/-- Jobs that the node adds in turn are added. -/
theorem installs_addJobs (n : Node) (jobs : List Job) :
    n.Installs [] jobs (jobs.foldl addJob n) := by
  induction jobs generalizing n with
  | nil => exact Installs.refl n
  | cons job jobs ih => exact (n.installs_addJob job).trans (ih _)

/-- The routes of the election and its job, if the node takes part. -/
theorem installs_startElection (n : Node) :
    n.Installs n.electionEntries n.electionJobs n.startElection := by
  unfold startElection electionEntries electionJobs
  dsimp only
  split
  · exact (n.installs_addOwnRoute _ _ _).trans (installs_addJob _ _)
  · exact Installs.refl n

/-- A node that is not running can be started. It is running then, with its own routes and all its
jobs added. -/
theorem exists_start (h : n.running = false) : ∃ n', n.start = .ok n' ∧
    Installs { n with running := true, pumping := true } n.ownEntries n.startJobs n' := by
  unfold start
  rw [if_neg (by simp [h])]
  refine ⟨_, rfl, ?_⟩
  let answering := addOwnRoute { n with running := true, pumping := true } n.answerPattern .answers
    "outgoing-response"
  have hanswers : Installs { n with running := true, pumping := true } _ _ answering :=
    installs_addOwnRoute _ _ _ _
  have helection := hanswers.trans answering.installs_startElection
  have hsweep := helection.trans (installs_addJob _ answering.startElection.sweepJob)
  have hjobs := hsweep.trans (installs_addJobs _ answering.startElection.setup.jobs)
  -- What the node is called and what its policy says is the same all along.
  have hsetup : answering.startElection.setup = n.setup := helection.setup
  have hregistered : [] ++ answering.electionJobs ++ [answering.startElection.sweepJob] ++
      answering.startElection.setup.jobs = n.startJobs := by
    rw [sweepJob, sweepJobName, hsetup, List.nil_append, List.append_assoc, List.singleton_append]
    rfl
  rwa [hregistered, List.append_nil, List.append_nil] at hjobs

/-- No route that the node needs for itself is restricted to the master. -/
theorem masterOnly_ownEntries (n : Node) : ∀ e ∈ n.ownEntries, e.2.2.2 = false := by
  rw [ownEntries, electionEntries]
  split <;> simp

/-- The node's own routes have a name, by which they are told from those of the host. -/
theorem reference_ownEntries (n : Node) : ∀ e ∈ n.ownEntries, e.2.2.1.isSome = true := by
  rw [ownEntries, electionEntries]
  split <;> simp

/-- None of the jobs that the node needs for itself is restricted to the master. -/
theorem filter_startJobs (n : Node) :
    n.startJobs.filter (·.masterOnly) = n.setup.jobs.filter (·.masterOnly) := by
  rw [startJobs, electionJobs, sweepJob]
  split <;> simp

/-- What is added for every node adds nothing to what is the master's. -/
theorem Installs.restricted {entries : List (RoutePattern × Handler × Option String × Bool)}
    {jobs : List Job} (h : n.Installs entries jobs n') (hentries : ∀ e ∈ entries, e.2.2.2 = false) :
    Route.restricted n'.roster.router.routes = Route.restricted n.roster.router.routes := by
  obtain ⟨own, hroutes, hown⟩ := h.routes
  have hnone : Route.restricted own = 0 := Route.restricted_eq_zero_iff.mpr fun r hr =>
    hentries r.entry (hown ▸ List.mem_map_of_mem hr)
  rw [hroutes, Route.restricted_append, hnone, add_zero]

/-! ### Stopping -/

/-- All that a stop does. -/
structure Stops (n n' : Node) (now : Instant) : Prop where
  setup : n'.setup = n.setup
  running : n'.running = false
  pumping : n'.pumping = n.pumping
  held : n'.mastersHeld = false
  ownRoutes : n'.ownRoutes = []
  candidate : n'.candidate = .create n.setup.name n.setup.service n.setup.policy.election now
  common : Route.common n'.roster.router.routes =
    Route.withdrawAll (Route.common n.roster.router.routes) n.ownRoutes false
  restricted : Route.restricted n'.roster.router.routes =
    if n.isMaster then Route.restricted n.roster.router.routes - ↑n.masterPatterns
    else Route.restricted n.roster.router.routes
  inStep : n'.roster.timetable.InStep
  scheduler : n'.roster.timetable.scheduler = n.roster.timetable.scheduler
  tracked : n'.roster.timetable.tracked = []
  pending : n.waitlist.Tidy → n'.waitlist.pending = []

/-- Nobody is master at first. -/
theorem isActive_create (name service : String) (policy : ElectionPolicy) (now : Instant) :
    (Candidate.create name service policy now).isActive = false := by
  simp only [Candidate.isActive, Candidate.create]
  split <;> rfl

/-- Whoever resigns is not master then. -/
theorem isMaster_stopMaster (n : Node) (now : Instant) :
    ((n.stopMaster now).getD n).isMaster = false := by
  unfold stopMaster Candidate.deactivate
  -- A node that is not active has nothing to resign from.
  split
  · next hactive =>
    show (Node.syncMasters _).isMaster = false
    rw [isMaster, (announces_syncMasters _).candidate, (announces_broadcast _ _).candidate]
    simp [Candidate.isActive, Candidate.transition, hactive]
  · next hactive => simpa [isMaster, Candidate.isActive] using hactive

/-- A node that has stopped is not master. -/
theorem Stops.isMaster {now : Instant} (h : n.Stops n' now) : n'.isMaster = false := by
  rw [Node.isMaster, h.candidate]
  exact isActive_create _ _ _ _

/-- What a node does to stop once it has resigned. -/
def clear (n : Node) (now : Instant) : Node :=
  { ({ n with roster := n.roster.tearDown.1 } : Node).removeOwnRoutes with
    waitlist := n.waitlist.shutdown.1
    candidate := .create n.setup.name n.setup.service n.setup.policy.election now }

/-- A node that runs stops by resigning first and clearing everything then. -/
theorem stop_of_running (h : n.running = true) (now : Instant) : n.stop now =
    .ok (((stopMaster { n with running := false } now).getD { n with running := false }).clear
      now) := by
  unfold stop
  rw [h]
  rfl

/-- To clear removes the routes that the node has noted as its own. -/
theorem routes_clear (n : Node) (now : Instant) : (n.clear now).roster.router.routes =
    Route.withdrawAll n.roster.router.routes n.ownRoutes false := by
  rw [← n.roster.router_removeJobs (n.roster.timetable.list false)]
  exact Roster.routes_removeRoutes _ _ _

/-- To clear forgets every schedule that is tracked. -/
theorem timetable_clear (h : n.roster.timetable.Sound) (now : Instant) :
    (n.clear now).roster.timetable =
      n.roster.timetable.dropAll (n.roster.timetable.list false) := by
  rw [← Roster.timetable_removeJobs h]
  exact Roster.timetable_removeRoutes_of_patterns _ _ _

/-- To clear leaves no request waiting. -/
theorem pending_clear (h : n.waitlist.Tidy) (now : Instant) :
    (n.clear now).waitlist.pending = [] := by
  show n.waitlist.shutdown.1.pending = []
  rw [(Waitlist.settles_shutdown h 0).pending]
  exact List.filter_eq_nil_iff.mpr fun r _ => by simp [WaitlistOp.outcomeFor]

/-- A node that is running can be stopped. -/
theorem exists_stop (hn : n.Settled) (hinStep : n.roster.timetable.InStep) (h : n.running = true)
    (now : Instant) : ∃ n', n.stop now = .ok n' ∧ n.Stops n' now := by
  refine ⟨_, stop_of_running h now, ?_⟩
  -- To resign is a course of its own.
  have hcourse : Course { n with running := false }
      ((stopMaster { n with running := false } now).getD { n with running := false }) :=
    course_turn (n := { n with running := false }) hn (n.candidate.deactivate now) .resyncMaster
  have hmaster := isMaster_stopMaster { n with running := false } now
  generalize (stopMaster { n with running := false } now).getD { n with running := false } = m
    at hcourse hmaster
  have hkept := hcourse.retains
  obtain ⟨hjobs, hscheduler⟩ := hkept.timetable hinStep
  have htimetable := timetable_clear hjobs.sound now
  exact {
    setup := hkept.setup
    running := hkept.running
    pumping := hkept.pumping
    held := (hcourse.settled hn).trans hmaster
    ownRoutes := rfl
    candidate := by
      show Candidate.create m.setup.name m.setup.service m.setup.policy.election now = _
      rw [hkept.setup]
    common := by
      rw [routes_clear, hkept.ownRoutes, Route.common_withdrawAll, if_neg Bool.false_ne_true,
        hkept.common]
    restricted := by
      -- To clear leaves the routes of the master alone, so it is all up to how the node resigned.
      rw [routes_clear, Route.restricted_withdrawAll, if_neg Bool.false_ne_true]
      rcases hcourse.masters hinStep with ⟨hsame, hrestricted, -⟩ | ⟨-, htaken, -⟩ |
        ⟨hbefore, -, hrestricted, -⟩
      · have hbefore : n.isMaster = false := hsame.symm.trans hmaster
        rw [hrestricted, hbefore, if_neg Bool.false_ne_true]
      · rw [hmaster] at htaken
        cases htaken
      · have hbefore : n.isMaster = true := hbefore
        rw [hrestricted, hbefore, if_pos rfl]
        rfl
    inStep := htimetable ▸ hjobs.dropAll _
    scheduler := by rw [htimetable, Timetable.scheduler_dropAll, hscheduler]
    tracked := by
      rw [htimetable, ← Timetable.list_false]
      exact m.roster.timetable.list_dropAll false
    pending := fun htidy => pending_clear (hkept.tidy htidy) now }

/-! ### A new node -/

/-- The node is not running, and nothing is in place but routes. -/
structure IsIdle (n : Node) (now : Instant) : Prop where
  running : n.running = false
  held : n.mastersHeld = false
  ownRoutes : n.ownRoutes = []
  tracked : n.roster.timetable.tracked = []
  driven : n.roster.timetable.driven = []
  inStep : n.roster.timetable.InStep
  pending : n.waitlist.pending = []
  candidate : n.candidate = .create n.setup.name n.setup.service n.setup.policy.election now

/-- Nothing has happened to the node yet. -/
structure IsNew (n : Node) (now : Instant) : Prop extends IsIdle n now where
  routes : ∀ r ∈ n.roster.router.routes, r.reference = none ∧ r.masterOnly = false

variable {now : Instant}

/-- A node that has stopped is idle. -/
theorem Stops.isIdle (h : n.Stops n' now) (htidy : n.waitlist.Tidy) : n'.IsIdle now where
  running := h.running
  held := h.held
  ownRoutes := h.ownRoutes
  tracked := h.tracked
  driven := h.inStep.driven_eq_nil h.tracked
  inStep := h.inStep
  pending := h.pending htidy
  candidate := by rw [h.setup, h.candidate]

/-- An idle node is not master. -/
theorem IsIdle.isMaster (h : n.IsIdle now) : n.isMaster = false := by
  rw [Node.isMaster, h.candidate]
  exact isActive_create _ _ _ _

/-- An idle node is settled: it is not master, and nothing of the master is in place. -/
theorem IsIdle.settled (h : n.IsIdle now) : n.Settled := h.held.trans h.isMaster.symm

/-- The empty waitlist of an idle node is tidy. -/
theorem IsIdle.tidy (h : n.IsIdle now) : n.waitlist.Tidy := by
  constructor <;> simp [h.pending]

/-- A new node holds no route of the master. -/
theorem IsNew.restricted (h : n.IsNew now) : Route.restricted n.roster.router.routes = 0 :=
  Route.restricted_eq_zero_iff.mpr fun r hr => (h.routes r hr).2

/-- A new node holds no route of the master but its own, since it holds none. -/
theorem IsNew.holdsOwn (h : n.IsNew now) : n.HoldsOwn := by
  rw [HoldsOwn, h.restricted]
  exact Multiset.zero_le _

end Node

/-- A node that was just built is new. It has the routes that its host has put together. -/
theorem Blueprint.isNew_of_build {b : Blueprint} {supply : Supply} {now : Instant} {n : Node}
    (h : b.build supply now = .ok n) :
    n.IsNew now ∧ n.roster.router.routes.map (·.pattern) = b.handlers.map (·.pattern) ∧
      n.setup.jobs = b.jobs ∧ n.setup.masterHandlers = b.masterHandlers := by
  unfold build at h
  dsimp only at h
  split at h
  · simp at h
  · split at h
    · simp at h
    · rw [← Except.ok.inj h]
      -- The routes of the host are added to an empty roster, and jobs only when the node starts.
      let empty : Roster Handler :=
        .create b.policy.routeCacheCapacity.toNat (b.scheduler.getD .timed) b.observers
      obtain ⟨added, hroutes, hpatterns, hadded⟩ := empty.routes_addRoutes b.handlers false
      have htimetable := empty.timetable_addRoutes b.handlers false
      refine ⟨⟨⟨rfl, rfl, rfl, ?_, ?_, ?_, rfl, rfl⟩, ?_⟩, ?_, rfl, rfl⟩
      · exact congrArg Timetable.tracked htimetable
      · exact congrArg Timetable.driven htimetable
      · dsimp only
        rw [htimetable]
        exact ⟨⟨List.nodup_nil, by simp [empty, Roster.create]⟩, (ite_self _).symm, by
          simp [empty, Roster.create], List.nodup_nil, by simp [empty, Roster.create]⟩
      · dsimp only
        rw [hroutes]
        exact hadded
      · dsimp only
        rw [hroutes]
        exact hpatterns

end CommandMesh
