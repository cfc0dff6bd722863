import CommandMesh.Roster.Basic
import Mathlib.Data.List.Nodup

/-!
# `CommandMesh.Proofs.Roster.Registration`: what stays on a roster when routes and jobs come and go

A roster holds routes and jobs of the master beside those of everybody else. The lemmas here say
what a registration or a removal does to the part that is the master's: the routes with patterns
that the master reserves (`Router.reserved`), and the tracked jobs that are restricted to it
(`Timetable.masterJobs`).

Both parts are lists, in the order of registration, and not only sets: a route comes before or after
another one, and the first that matches is taken. So a registration appends, a removal erases the
first entry of its kind, and the theorems say exactly that. Two routes may have the same pattern and
the same restriction; then a removal takes the older one, whoever registered it.

`Timetable.Sound` is the invariant of the jobs: a schedule that is tracked exists, and it is tracked
once. Without it a removal could leave a second entry behind, and the number of a schedule that is
not there would be tracked for good. Observers and hooks are called on every change; they are told,
and what they answer is not asked for, so nothing here depends on them.

* `Router.reserved_register`, `Router.reserved_unregister`: a registration appends, a removal erases
  the first route of its pattern, and neither touches the reserved routes if it is not the master's.
* `Timetable.Sound.add`, `Timetable.Sound.drop`: every tracked schedule exists and is tracked once.
* `Timetable.Sound.masterJobs_add`, `Timetable.list_dropAll`: the same for jobs; what is listed can
  be removed in turn, and nothing of it is left.
* `Roster.timetable_addJob`, `Roster.timetable_removeJob`, `Roster.timetable_removeJobs`: a roster
  changes its timetable in these ways, whatever its observers and hooks do.
-/

set_option autoImplicit false

namespace CommandMesh

namespace Router

variable {H : Type} {keys : List RoutePattern} {pattern : RoutePattern} {masterOnly : Bool}

/-- Whether a route is restricted to the master and has one of these patterns. -/
def isReserved (keys : List RoutePattern) (r : Route H) : Bool :=
  r.masterOnly && decide (r.pattern ∈ keys)

/-- The routes of the master with these patterns. -/
def reserved (t : Router H) (keys : List RoutePattern) : List (Route H) :=
  t.routes.filter (isReserved keys)

/-- A registration appends its route to the reserved ones if it is the master's and has a reserved
pattern, and otherwise leaves them. -/
theorem reserved_register (t : Router H) (keys : List RoutePattern) (pattern : RoutePattern)
    (handler : H) (reference : Option String) (masterOnly : Bool) :
    (t.register pattern handler reference masterOnly).1.reserved keys =
      t.reserved keys ++ if masterOnly = true ∧ pattern ∈ keys then
        [⟨t.next, pattern, handler, reference, masterOnly⟩] else [] := by
  simp [register, reserved, isReserved, List.filter_append, List.filter_cons]

/-- Whether or not there is such a route, the first one is gone. -/
theorem routes_unregister (t : Router H) (pattern : RoutePattern) (masterOnly : Bool) :
    ((t.unregister pattern masterOnly).getD t).routes =
      t.routes.eraseP fun r => r.pattern == pattern && r.masterOnly == masterOnly := by
  unfold unregister
  cases hfound : t.find? pattern masterOnly with
  | some r => rfl
  | none =>
    have hnone := List.find?_eq_none.mp hfound
    exact (List.eraseP_of_forall_not hnone).symm

/-- The removal of a reserved route erases the first one of its pattern. -/
theorem reserved_unregister (t : Router H) (h : pattern ∈ keys) :
    ((t.unregister pattern true).getD t).reserved keys =
      (t.reserved keys).eraseP fun r => r.pattern == pattern && r.masterOnly == true := by
  unfold reserved
  rw [routes_unregister, List.eraseP_filter]
  -- What has this pattern and is the master's is reserved.
  congr 2
  funext r
  by_cases hr : r.pattern = pattern
  · simp [isReserved, hr, h]
  · simp [hr]

/-- The removal of any other route erases no reserved one. -/
theorem reserved_unregister_of_other (t : Router H) (h : ¬ (masterOnly = true ∧ pattern ∈ keys)) :
    ((t.unregister pattern masterOnly).getD t).reserved keys = t.reserved keys := by
  unfold reserved
  rw [routes_unregister]
  rcases List.exists_or_eq_self_of_eraseP
    (fun r : Route H => r.pattern == pattern && r.masterOnly == masterOnly) t.routes with
    hsame | ⟨removed, before, after, -, hremoved, hroutes, herased⟩
  · -- No route is found, or the one that is removed is not among the reserved ones.
    rw [hsame]
  · have hother : isReserved keys removed = false := by
      simp only [Bool.and_eq_true, beq_iff_eq] at hremoved
      simpa [isReserved, hremoved] using h
    rw [herased, hroutes, List.filter_append, List.filter_append,
      List.filter_cons_of_neg (by simp [hother])]

end Router

namespace Timetable

variable {t : Timetable} {n : Nat} {job : Job}

/-- Every tracked schedule exists, and is tracked once. -/
structure Sound (t : Timetable) : Prop where
  once : t.tracked.Nodup
  made : ∀ n ∈ t.tracked, n < t.schedules.length

/-- The tracked jobs that are restricted to the master, in the order of their registration. -/
def masterJobs (t : Timetable) : List Job :=
  (t.list true).filterMap fun n => (t.find? n).map (·.job)

/-- Makes a schedule and tracks it. -/
def add (t : Timetable) (job : Job) : Timetable := (t.make job).1.track (t.make job).2

/-- Forgets a schedule, if it is tracked. -/
def drop (t : Timetable) (n : Nat) : Timetable := (t.untrack n).getD t

/-- Forgets schedules in turn. -/
def dropAll (t : Timetable) (ns : List Nat) : Timetable := ns.foldl drop t

/-! ### What is added -/

/-- A schedule that is added comes last, and has the next handle. -/
@[simp] theorem schedules_add (t : Timetable) (job : Job) :
    (t.add job).schedules = t.schedules ++ [{ job := job, handle := some t.nextHandle }] := by
  show (t.schedules ++ [({ job } : Schedule)]).modify t.schedules.length _ = _
  -- The schedule is made without a handle first and gets one when it is tracked.
  rw [List.modify_eq_take_cons_drop (by simp)]
  simp [make]

/-- The schedule that is added is tracked. -/
@[simp] theorem tracked_add (t : Timetable) (job : Job) :
    (t.add job).tracked = t.tracked ++ [t.schedules.length] := rfl

/-- To add a job keeps a timetable sound: the new schedule has a number that no other one has. -/
theorem Sound.add (h : t.Sound) (job : Job) : (t.add job).Sound := by
  constructor
  · rw [tracked_add]
    refine List.nodup_append.mpr ⟨h.once, List.nodup_singleton _, ?_⟩
    rintro n hn m hm rfl
    obtain rfl := List.mem_singleton.mp hm
    exact Nat.lt_irrefl _ (h.made _ hn)
  · intro n hn
    rw [schedules_add, List.length_append, List.length_singleton]
    rcases List.mem_append.mp hn with hn | hn
    · exact Nat.lt_succ_of_lt (h.made n hn)
    · obtain rfl := List.mem_singleton.mp hn
      exact Nat.lt_succ_self _

/-- The schedules that were there before are found as before. -/
theorem find?_add (h : n < t.schedules.length) (job : Job) : (t.add job).find? n = t.find? n := by
  rw [find?, schedules_add, List.getElem?_append_left h]
  rfl

/-- The schedule that was just added is found under the next number. -/
@[simp] theorem find?_add_self (t : Timetable) (job : Job) :
    (t.add job).find? t.schedules.length =
      some { job := job, handle := some t.nextHandle } := by
  rw [find?, schedules_add, List.getElem?_append_right (Nat.le_refl _), Nat.sub_self]
  rfl

/-- A job that is added comes last among those of the master, if it is restricted to it. -/
theorem Sound.masterJobs_add (h : t.Sound) (job : Job) :
    (t.add job).masterJobs = t.masterJobs ++ if job.masterOnly then [job] else [] := by
  have hlist : (t.add job).list true =
      t.list true ++ if job.masterOnly then [t.schedules.length] else [] := by
    unfold list
    rw [tracked_add, List.filter_append]
    congr 1
    · refine List.filter_congr fun n hn => ?_
      rw [isMasterOnly, isMasterOnly, find?_add (h.made n hn)]
    · simp [isMasterOnly, List.filter_cons]
  -- The jobs that were listed before are looked up as before, and the new one comes last.
  unfold masterJobs
  rw [hlist, List.filterMap_append]
  congr 1
  · refine List.filterMap_congr fun n hn => ?_
    rw [find?_add (h.made n (List.mem_of_mem_filter hn))]
  · split <;> simp

/-- To add jobs in turn keeps a timetable sound. -/
theorem Sound.addAll (h : t.Sound) (jobs : List Job) : (jobs.foldl Timetable.add t).Sound := by
  induction jobs generalizing t with
  | nil => exact h
  | cons job jobs ih => exact ih (h.add job)

/-- Of the jobs that are added in turn, those that are restricted to the master come last among
its. -/
theorem Sound.masterJobs_addAll (h : t.Sound) (jobs : List Job) :
    (jobs.foldl Timetable.add t).masterJobs = t.masterJobs ++ jobs.filter (·.masterOnly) := by
  induction jobs generalizing t with
  | nil => exact (List.append_nil _).symm
  | cons job jobs ih =>
    rw [List.foldl_cons, ih (h.add job), h.masterJobs_add, List.append_assoc]
    cases hmaster : job.masterOnly <;> simp [hmaster]

/-! ### What is removed -/

/-- A schedule that is removed loses its handle, and the scheduler what it has under it. -/
theorem drop_of_mem (h : n ∈ t.tracked) :
    t.drop n = { t with
      schedules := t.schedules.modify n fun s => { s with handle := none }
      tracked := t.tracked.erase n
      driven := t.driven.filter fun d => some d.1 != (t.find? n).bind (·.handle) } := by
  have hkeep (d : Nat × Nat) : (some d.1 != none) = true := rfl
  unfold drop untrack
  rw [if_pos h]
  cases hhandle : (t.find? n).bind (·.handle) with
  | none => simp [update, hkeep]
  | some handle =>
    have hsame (d : Nat × Nat) : (some d.1 != some handle) = (d.1 != handle) := rfl
    simp only [Option.elim_some, release, update, Option.getD_some, hsame]

/-- What is not tracked cannot be forgotten. -/
theorem drop_of_not_mem (h : n ∉ t.tracked) : t.drop n = t := by
  unfold drop untrack
  rw [if_neg h]
  rfl

/-- A schedule that is forgotten is still there; only its handle is gone. -/
@[simp] theorem length_schedules_drop (t : Timetable) (n : Nat) :
    (t.drop n).schedules.length = t.schedules.length := by
  by_cases h : n ∈ t.tracked
  · rw [drop_of_mem h]
    exact List.length_modify _ _ _
  · rw [drop_of_not_mem h]

/-- A schedule that is forgotten is not tracked any more. -/
@[simp] theorem tracked_drop (t : Timetable) (n : Nat) :
    (t.drop n).tracked = t.tracked.erase n := by
  by_cases h : n ∈ t.tracked
  · rw [drop_of_mem h]
  · rw [drop_of_not_mem h, List.erase_of_not_mem h]

/-- What a schedule does is not changed when one is removed. -/
@[simp] theorem job_drop (t : Timetable) (n m : Nat) :
    ((t.drop n).find? m).map (·.job) = (t.find? m).map (·.job) := by
  by_cases h : n ∈ t.tracked
  · rw [drop_of_mem h]
    simp only [find?, List.getElem?_modify]
    -- Whether or not this is the schedule that loses its handle, its job is what it was.
    cases t.schedules[m]? <;> split <;> rfl
  · rw [drop_of_not_mem h]

/-- To forget a schedule does not change which ones are restricted to the master. -/
@[simp] theorem isMasterOnly_drop (t : Timetable) (n m : Nat) :
    (t.drop n).isMasterOnly m = t.isMasterOnly m := by
  have hjob := congrArg (Option.any (·.masterOnly)) (t.job_drop n m)
  rwa [Option.any_map, Option.any_map] at hjob

/-- To forget a schedule keeps a timetable sound. -/
theorem Sound.drop (h : t.Sound) (n : Nat) : (t.drop n).Sound := by
  constructor
  · rw [tracked_drop]
    exact h.once.erase n
  · intro m hm
    rw [tracked_drop] at hm
    rw [length_schedules_drop]
    exact h.made m (List.mem_of_mem_erase hm)

/-- To forget schedules in turn keeps a timetable sound. -/
theorem Sound.dropAll (h : t.Sound) (ns : List Nat) : (t.dropAll ns).Sound := by
  induction ns generalizing t with
  | nil => exact h
  | cons n ns ih => exact ih (h.drop n)

/-- A schedule that is forgotten is not listed any more, and the other ones are. -/
theorem list_drop (t : Timetable) (n : Nat) (masterOnly : Bool) :
    (t.drop n).list masterOnly = (t.list masterOnly).erase n := by
  unfold list
  simp only [tracked_drop, isMasterOnly_drop]
  exact List.erase_filter.symm

/-- What is listed can be removed in turn, and then nothing is listed. -/
theorem list_dropAll (t : Timetable) (masterOnly : Bool) :
    (t.dropAll (t.list masterOnly)).list masterOnly = [] := by
  generalize hlist : t.list masterOnly = ns
  -- By induction on what is listed: each removal takes the first entry of what is left.
  induction ns generalizing t with
  | nil => exact hlist
  | cons n ns ih =>
    refine ih (t.drop n) ?_
    rw [list_drop, hlist, List.erase_cons_head]

/-- A job that is not restricted to the master is removed, and those of the master stay. -/
theorem masterJobs_drop_of_other (h : t.isMasterOnly n = false) :
    (t.drop n).masterJobs = t.masterJobs := by
  have hnot : n ∉ t.list true := by
    intro hmem
    simpa [h] using List.of_mem_filter hmem
  unfold masterJobs
  rw [list_drop, List.erase_of_not_mem hnot]
  simp only [job_drop]

end Timetable

namespace Roster

variable {H : Type} {r : Roster H}

/-! ### Routes and jobs keep apart -/

/-- The router registers the route that the roster adds. -/
@[simp] theorem router_addRoute (r : Roster H) (pattern : RoutePattern) (handler : H)
    (reference : Option String) (masterOnly : Bool) :
    (r.addRoute pattern handler reference masterOnly).1.router =
      (r.router.register pattern handler reference masterOnly).1 := rfl

/-- To add a route leaves the jobs alone. -/
@[simp] theorem timetable_addRoute (r : Roster H) (pattern : RoutePattern) (handler : H)
    (reference : Option String) (masterOnly : Bool) :
    (r.addRoute pattern handler reference masterOnly).1.timetable = r.timetable := rfl

/-- The router removes the route that the roster removes, if there is one. -/
@[simp] theorem router_removeRoute (r : Roster H) (pattern : RoutePattern) (masterOnly : Bool) :
    ((r.removeRoute pattern masterOnly).getD r).router =
      (r.router.unregister pattern masterOnly).getD r.router := by
  unfold removeRoute
  cases r.router.unregister pattern masterOnly <;> rfl

/-- To remove a route leaves the jobs alone. -/
@[simp] theorem timetable_removeRoute (r : Roster H) (pattern : RoutePattern) (masterOnly : Bool) :
    ((r.removeRoute pattern masterOnly).getD r).timetable = r.timetable := by
  unfold removeRoute
  cases r.router.unregister pattern masterOnly <;> rfl

/-- A hook does not touch the routes. -/
@[simp] theorem router_callHook (r : Roster H) (time : HookTime) (n : Nat) (job : Job) :
    (r.callHook time n job).router = r.router := by
  unfold callHook
  split <;> rfl

/-- A hook does not touch the jobs. -/
@[simp] theorem timetable_callHook (r : Roster H) (time : HookTime) (n : Nat) (job : Job) :
    (r.callHook time n job).timetable = r.timetable := by
  unfold callHook
  split <;> rfl

/-- To add a job leaves the routes alone. -/
@[simp] theorem router_addJob (r : Roster H) (job : Job) :
    (r.addJob job).1.router = r.router :=
  router_callHook _ _ _ _

/-- A job is added to the timetable, whatever its hook does. -/
@[simp] theorem timetable_addJob (r : Roster H) (job : Job) :
    (r.addJob job).1.timetable = r.timetable.add job := by
  show ((r.makeJob job).1.callHook .tearUp _ job).timetable.track _ = _
  rw [timetable_callHook]
  rfl

/-- To remove a job leaves the routes alone. -/
@[simp] theorem router_removeJob (r : Roster H) (n : Nat) :
    ((r.removeJob n).getD r).router = r.router := by
  unfold removeJob
  split
  · exact router_callHook _ _ _ _
  · rfl

/-- A job is removed from a sound timetable, whatever its hook does, if it is there. -/
theorem timetable_removeJob (h : r.timetable.Sound) (n : Nat) :
    ((r.removeJob n).getD r).timetable = r.timetable.drop n := by
  unfold removeJob Timetable.drop
  cases huntrack : r.timetable.untrack n with
  | none => simp
  | some t =>
    -- What is tracked exists.
    have hmem : n ∈ r.timetable.tracked := by
      by_contra hnot
      simp [Timetable.untrack, hnot] at huntrack
    have hfound : r.timetable.find? n = some _ := List.getElem?_eq_getElem (h.made n hmem)
    rw [hfound]
    exact timetable_callHook _ _ _ _

/-- To remove schedules in turn is to remove one after the other, whether or not it is tracked. -/
theorem fst_removeJobs (r : Roster H) (ns : List Nat) :
    (r.removeJobs ns).1 = ns.foldl (fun r n => (r.removeJob n).getD r) r := by
  unfold removeJobs
  -- The count that goes along does not influence what is removed.
  refine (List.foldl_hom Prod.fst fun p n => ?_).symm
  obtain ⟨r, count⟩ := p
  cases hremoved : r.removeJob n with
  | some r' => simp [hremoved]
  | none => simp [hremoved]

/-- To remove jobs leaves the routes alone. -/
theorem router_removeJobs (r : Roster H) (ns : List Nat) :
    (r.removeJobs ns).1.router = r.router := by
  rw [fst_removeJobs]
  induction ns generalizing r with
  | nil => rfl
  | cons n ns ih => rw [List.foldl_cons, ih, router_removeJob]

/-- Jobs are removed in turn, each from what is left of a sound timetable. -/
theorem timetable_removeJobs (h : r.timetable.Sound) (ns : List Nat) :
    (r.removeJobs ns).1.timetable = r.timetable.dropAll ns := by
  rw [fst_removeJobs]
  induction ns generalizing r with
  | nil => rfl
  | cons n ns ih =>
    have hfirst := timetable_removeJob h n
    rw [List.foldl_cons, ih (hfirst ▸ h.drop n), hfirst]
    rfl

/-! ### Jobs of the master -/

/-- To start the jobs of the master leaves the routes alone. -/
theorem router_startMasterJobs (r : Roster H) (jobs : List Job) :
    (r.startMasterJobs jobs).1.router = r.router := by
  unfold startMasterJobs
  induction jobs generalizing r with
  | nil => rfl
  | cons job jobs ih => rw [List.foldl_cons, ih, router_addJob]

/-- The jobs of the master are added in turn, restricted to it whatever their definition says. -/
theorem timetable_startMasterJobs (r : Roster H) (jobs : List Job) :
    (r.startMasterJobs jobs).1.timetable =
      (jobs.map fun job => { job with masterOnly := true }).foldl Timetable.add r.timetable := by
  unfold startMasterJobs
  -- One job after the other, each added to what the ones before it left.
  induction jobs generalizing r with
  | nil => rfl
  | cons job jobs ih => rw [List.foldl_cons, ih, timetable_addJob, List.map_cons, List.foldl_cons]

/-- To stop the jobs of the master leaves the routes alone. -/
theorem router_stopMasterJobs (r : Roster H) : r.stopMasterJobs.1.router = r.router :=
  r.router_removeJobs _

/-- No job of the master is left. -/
theorem masterJobs_stopMasterJobs (h : r.timetable.Sound) :
    r.stopMasterJobs.1.timetable.Sound ∧ r.stopMasterJobs.1.timetable.masterJobs = [] := by
  unfold stopMasterJobs
  rw [timetable_removeJobs h]
  refine ⟨h.dropAll _, ?_⟩
  rw [Timetable.masterJobs, Timetable.list_dropAll, List.filterMap_nil]

end Roster

end CommandMesh
