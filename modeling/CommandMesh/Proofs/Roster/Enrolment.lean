import CommandMesh.Proofs.Roster.Registration

/-!
# `CommandMesh.Proofs.Roster.Enrolment`: tracked, driven, and told so once

A roster keeps its jobs in two places. It tracks schedules, told apart by number, and the scheduler
drives schedules that it knows by handles of its own. A `Roll` is what one would write down of the
requests: which schedules joined and which of them have left. `Roster.jobs_kept_in_step` compares
the two after any requests, whatever hooks the jobs have and however these end.

What the model takes for granted:

* Schedules are numbered in the order in which they are made, and a number is never used again. A
  schedule that was removed keeps its number and its counts, but it cannot be registered once more.
* The scheduler is one of three kinds. A manual one and one with a clock keep a list of what they
  drive and differ in nothing that matters here; a forgetful one keeps none and knows no schedule
  when it is asked to stop it. Handles are handed out in order.
* A hook that fails is logged and nothing else, and so is a handle that the scheduler does not know.
  Neither is an input of the model: the call of a hook is an event of the journal, and its result
  leads nowhere. That is why the theorem holds however hooks end.
* Requests come one after the other. A request about several schedules removes them in turn and is
  not interrupted.

There are two invariants. `Timetable.InStep` is about the timetable alone: what is driven is
tracked, under the handle that the schedule keeps, and no handle is used twice; without the last
part a removal could stop a second schedule. `Roster.Mirrors` compares the roster with the roll,
hooks included; it carries `InStep` along. Every request keeps it (`Mirrors.performJob`), and so
does a run (`Mirrors.runJobs`).

* `Timetable.InStep.add`, `Timetable.InStep.drop`: the scheduler drives what is tracked, each
  schedule under the handle that it keeps, and no handle twice.
* `Roster.addJob_eq`, `Roster.removeJob_of_mem`, `Roster.removeJob_of_not_mem`: all that a
  registration and a removal do.
* `Roster.Mirrors.performJob`: one request keeps the roster and the roll alike, hooks included.
* `Roster.runJobs_forget`: a scheduler that knows none of its schedules when asked to stop them
  makes no difference to what is tracked, to the hooks and to the replies.
* `Roster.jobs_kept_in_step`: all of this after any requests to a new roster.

When the schedules run is not covered here, nor what observers are told besides the hooks; the
latter is the matter of the narration.
-/

set_option autoImplicit false

namespace CommandMesh

/-! ### The scheduler -/

namespace Timetable

variable {t : Timetable} {n m : Nat}

/-- The handle that a schedule keeps. -/
def handleOf (t : Timetable) (n : Nat) : Option Nat := (t.find? n).bind (·.handle)

/-- The scheduler drives what is tracked, each schedule under the handle that it keeps. -/
structure InStep (t : Timetable) : Prop where
  sound : t.Sound
  /-- A forgetful scheduler keeps no list. -/
  registered : t.registered = if t.scheduler = .forgetful then [] else t.tracked
  kept : ∀ d ∈ t.driven, t.handleOf d.2 = some d.1
  distinct : (t.driven.map (·.1)).Nodup
  fresh : ∀ d ∈ t.driven, d.1 < t.nextHandle

/-- What is driven is tracked. -/
theorem InStep.mem_tracked (h : t.InStep) {d : Nat × Nat} (hd : d ∈ t.driven) :
    d.2 ∈ t.tracked := by
  have hmem : d.2 ∈ t.registered := List.mem_map_of_mem hd
  rw [h.registered] at hmem
  split at hmem
  · cases hmem
  · exact hmem

/-- The schedules that were there before keep their handles. -/
theorem handleOf_add (h : n < t.schedules.length) (job : Job) :
    (t.add job).handleOf n = t.handleOf n := by
  rw [handleOf, find?_add h]
  rfl

/-- The new schedule gets the next handle. -/
@[simp] theorem handleOf_add_self (t : Timetable) (job : Job) :
    (t.add job).handleOf t.schedules.length = some t.nextHandle := by
  rw [handleOf, find?_add_self]
  rfl

/-- A scheduler that keeps a list has the new schedule last on it, under the next handle. -/
theorem driven_add (t : Timetable) (job : Job) :
    (t.add job).driven = if t.scheduler = .forgetful then t.driven else
      t.driven ++ [(t.nextHandle, t.schedules.length)] := rfl

/-- What is driven was driven before, or is the new schedule under the new handle. -/
theorem mem_driven_add {d : Nat × Nat} {job : Job} (h : d ∈ (t.add job).driven) :
    d ∈ t.driven ∨ d = (t.nextHandle, t.schedules.length) := by
  rw [driven_add] at h
  split at h
  · exact Or.inl h
  · exact (List.mem_append.mp h).imp_right List.mem_singleton.mp

/-- To add a job keeps the scheduler in step. -/
theorem InStep.add (h : t.InStep) (job : Job) : (t.add job).InStep where
  sound := h.sound.add job
  registered := by
    have hregistered := h.registered
    unfold Timetable.registered at hregistered ⊢
    rw [driven_add, tracked_add, show (t.add job).scheduler = t.scheduler from rfl]
    -- A forgetful scheduler has an empty list before and after; any other appends the new schedule
    -- to both.
    split at hregistered <;> rename_i hforgetful
    · rw [if_pos hforgetful, if_pos hforgetful, hregistered]
    · rw [if_neg hforgetful, if_neg hforgetful, List.map_append, hregistered]
      rfl
  kept := by
    intro d hd
    rcases mem_driven_add hd with hd | rfl
    · rw [handleOf_add (h.sound.made _ (h.mem_tracked hd)), h.kept d hd]
    · exact handleOf_add_self t job
  distinct := by
    rw [driven_add]
    split
    · exact h.distinct
    · rw [List.map_append]
      refine List.nodup_append.mpr ⟨h.distinct, List.nodup_singleton _, ?_⟩
      rintro a ha b hb rfl
      -- The handles given out so far are below the next one.
      obtain ⟨d, hd, hda⟩ := List.mem_map.mp ha
      have hlt := h.fresh d hd
      rw [hda, List.mem_singleton.mp hb] at hlt
      exact Nat.lt_irrefl _ hlt
  fresh := by
    intro d hd
    rcases mem_driven_add hd with hd | rfl
    · exact Nat.lt_succ_of_lt (h.fresh d hd)
    · exact Nat.lt_succ_self _

/-- To make a schedule that is registered nowhere keeps the scheduler in step. -/
theorem InStep.make (h : t.InStep) (job : Job) : (t.make job).1.InStep where
  sound := ⟨h.sound.once, fun n hn => by
    rw [Timetable.make, List.length_append]
    exact Nat.lt_add_right _ (h.sound.made n hn)⟩
  registered := h.registered
  kept := by
    intro d hd
    -- What is driven has been made before, so it is found where it was.
    rw [← h.kept d hd, handleOf, find?, Timetable.make,
      List.getElem?_append_left (h.sound.made _ (h.mem_tracked hd))]
    rfl
  distinct := h.distinct
  fresh := h.fresh

/-- To remove a schedule does not change the kind of scheduler. -/
@[simp] theorem scheduler_drop (t : Timetable) (n : Nat) :
    (t.drop n).scheduler = t.scheduler := by
  by_cases hn : n ∈ t.tracked
  · rw [drop_of_mem hn]
  · rw [drop_of_not_mem hn]

/-- To remove one schedule leaves the other ones their handles. -/
theorem handleOf_drop (h : m ≠ n) : (t.drop n).handleOf m = t.handleOf m := by
  by_cases hn : n ∈ t.tracked
  · rw [drop_of_mem hn, handleOf, find?]
    simp only [List.getElem?_modify, if_neg (Ne.symm h), id_map']
    rfl
  · rw [drop_of_not_mem hn]

/-- The handle of a tracked schedule is that of no other one that is driven. -/
theorem InStep.eq_of_handleOf (h : t.InStep) (hn : n ∈ t.tracked) {d : Nat × Nat}
    (hd : d ∈ t.driven) (hhandle : t.handleOf n = some d.1) : d.2 = n := by
  have hregistered := h.registered
  -- With an empty list there is nothing that could be driven; otherwise both are on the list under
  -- one handle, so they are the same entry.
  split at hregistered
  · rw [List.map_eq_nil_iff.mp hregistered] at hd
    cases hd
  · obtain ⟨d', hd', rfl⟩ := List.mem_map.mp (hregistered ▸ hn)
    have heq : d'.1 = d.1 := Option.some.inj ((h.kept d' hd').symm.trans hhandle)
    exact congrArg Prod.snd (List.inj_on_of_nodup_map h.distinct hd' hd heq).symm

/-- Only the schedule that is removed is driven no more. -/
theorem InStep.driven_drop (h : t.InStep) (hn : n ∈ t.tracked) :
    (t.drop n).driven = t.driven.filter fun d => d.2 != n := by
  rw [drop_of_mem hn]
  refine List.filter_congr fun d hd => ?_
  show (some d.1 != t.handleOf n) = (d.2 != n)
  by_cases hsame : d.2 = n
  · simp [← hsame, h.kept d hd]
  · have hhandle : some d.1 ≠ t.handleOf n := fun heq =>
      hsame (h.eq_of_handleOf hn hd heq.symm)
    rw [bne_iff_ne.mpr hhandle, bne_iff_ne.mpr hsame]

/-- To remove a schedule keeps the scheduler in step, whether or not the schedule is tracked. -/
theorem InStep.drop (h : t.InStep) (n : Nat) : (t.drop n).InStep := by
  by_cases hn : n ∈ t.tracked
  · have hdriven := h.driven_drop hn
    have hnext : (t.drop n).nextHandle = t.nextHandle := by rw [drop_of_mem hn]
    refine ⟨h.sound.drop n, ?_, ?_, ?_, ?_⟩
    · -- The list of the scheduler loses the schedule just as the tracked ones do.
      have hfilter : (t.drop n).registered = t.registered.filter (· != n) := by
        rw [Timetable.registered, hdriven, Timetable.registered, List.filter_map]
        rfl
      rw [hfilter, h.registered, scheduler_drop, tracked_drop, h.sound.once.erase_eq_filter]
      split <;> rfl
    · intro d hd
      rw [hdriven] at hd
      obtain ⟨hd, hother⟩ := List.mem_filter.mp hd
      rw [handleOf_drop (by simpa using hother), h.kept d hd]
    · rw [hdriven]
      exact h.distinct.sublist (List.filter_sublist.map _)
    · intro d hd
      rw [hdriven] at hd
      rw [hnext]
      exact h.fresh d (List.mem_of_mem_filter hd)
  · rwa [drop_of_not_mem hn]

end Timetable

/-! ### What a request does -/

/-- The hook of a job that is called at that time. -/
def Job.hook (job : Job) : HookTime → Option Hook
  | .tearUp => job.tearUp
  | .tearDown => job.tearDown

/-- What is heard of a hook that is called, if the job has one. -/
def Job.hookEvents (job : Job) (time : HookTime) (n : Nat) : List Event :=
  if (job.hook time).isSome then [.hooked time n job.name job.masterOnly] else []

/-- Whether an event is the call of that hook on behalf of that schedule. -/
def Event.isHook (time : HookTime) (n : Nat) : Event → Bool
  | .hooked time' n' _ _ => time' = time && n' = n
  | _ => false

/-- The call of a hook is that of one schedule at one time, and of no other. -/
theorem filter_isHook_hookEvents (job : Job) (time time' : HookTime) (n n' : Nat) :
    (job.hookEvents time' n').filter (Event.isHook time n) =
      if time' = time ∧ n' = n then job.hookEvents time n else [] := by
  by_cases hsame : time' = time ∧ n' = n
  · obtain ⟨rfl, rfl⟩ := hsame
    rw [if_pos ⟨rfl, rfl⟩]
    refine List.filter_eq_self.mpr fun e he => ?_
    unfold Job.hookEvents at he
    split at he
    · simp [List.mem_singleton.mp he, Event.isHook]
    · cases he
  · rw [if_neg hsame]
    refine List.filter_eq_nil_iff.mpr fun e he => ?_
    unfold Job.hookEvents at he
    split at he
    · simpa [List.mem_singleton.mp he, Event.isHook] using hsame
    · cases he

/-- What observers are told is not the call of a hook. -/
theorem filter_isHook_tell (notice : Notice) (observers : List Observer) (time : HookTime)
    (n : Nat) : (notice.tell observers).filter (Event.isHook time n) = [] := by
  refine List.filter_eq_nil_iff.mpr fun e he => ?_
  obtain ⟨p, -, rfl⟩ := List.mem_map.mp he
  simp [Event.isHook]

namespace Roster

variable {H : Type} {r : Roster H} {n : Nat}

/-- To call a hook adds its event to the journal if the job has that hook, and does nothing
otherwise. -/
theorem callHook_eq (r : Roster H) (time : HookTime) (n : Nat) (job : Job) :
    r.callHook time n job = r.record (job.hookEvents time n) := by
  have hnone : r.record [] = r := by simp [record]
  unfold callHook Job.hookEvents Job.hook
  -- Each time has its own hook, and a job may have one without the other.
  cases time
  · cases job.tearUp <;> simp [hnone]
  · cases job.tearDown <;> simp [hnone]

/-- A registration tracks the schedule under its number, calls the tear-up hook once and then tells
the observers. -/
theorem addJob_eq (r : Roster H) (job : Job) :
    r.addJob job = ({ r with
      timetable := r.timetable.add job
      journal := r.journal ++ (job.hookEvents .tearUp r.timetable.schedules.length ++
        (Notice.jobAdded job.name job.masterOnly).tell r.observers) },
      r.timetable.schedules.length) := by
  unfold addJob
  simp only [callHook_eq, tell, record, List.append_assoc]
  rfl

/-- To remove a tracked schedule forgets it, calls its tear-down hook once and then tells the
observers. -/
theorem removeJob_of_mem {s : Schedule} (hn : n ∈ r.timetable.tracked)
    (hs : r.timetable.find? n = some s) :
    r.removeJob n = some { r with
      timetable := r.timetable.drop n
      journal := r.journal ++ (s.job.hookEvents .tearDown n ++
        (Notice.jobRemoved s.job.name s.job.masterOnly).tell r.observers) } := by
  obtain ⟨t, ht⟩ : ∃ t, r.timetable.untrack n = some t := ⟨_, if_pos hn⟩
  unfold removeJob Timetable.drop
  simp only [hs, ht, callHook_eq, tell, record, List.append_assoc, Option.getD_some]

/-- To remove a schedule that is not tracked does nothing at all, and says so. -/
theorem removeJob_of_not_mem (hn : n ∉ r.timetable.tracked) : r.removeJob n = none := by
  have hnone : r.timetable.untrack n = none := if_neg hn
  unfold removeJob
  rw [hnone]
  cases r.timetable.find? n <;> rfl

/-- Removes a schedule and counts it, if it is tracked. -/
def strike (p : Roster H × Nat) (n : Nat) : Roster H × Nat :=
  match p.1.removeJob n with
  | some r => (r, p.2 + 1)
  | none => p

/-- Schedules are struck one after the other, and counted from nought. -/
theorem removeJobs_eq_foldl (r : Roster H) (ns : List Nat) :
    r.removeJobs ns = ns.foldl strike (r, 0) := rfl

end Roster

/-! ### What one would write down -/

/-- A request about jobs. -/
inductive JobOp where
  /-- Makes a schedule that is registered nowhere. -/
  | make (job : Job)
  | add (job : Job)
  | remove (n : Nat)
  | startMasters (jobs : List Job)
  | stopMasters
  | tearDown

/-- What a request about jobs gives. -/
inductive JobReply where
  | made (n : Nat)
  | added (n : Nat)
  | removed (found : Bool)
  | counted (n : Nat)
deriving DecidableEq

/-- Who joined and who left. -/
structure Roll where
  /-- The jobs of all schedules that were made, by number. -/
  made : List Job := []
  /-- The schedules that were registered, in their order. -/
  joined : List Nat := []
  /-- The schedules that were registered and then removed. -/
  left : List Nat := []

namespace Roll

variable {l : Roll} {n : Nat}

/-- The schedules that were registered and not yet removed, in the order of registration. -/
def current (l : Roll) : List Nat := l.joined.filter (· ∉ l.left)

/-- Whether the job of a schedule is restricted to the master. -/
def isMasterOnly (l : Roll) (n : Nat) : Bool := l.made[n]?.any (·.masterOnly)

/-- Writes down a registration. -/
def enter (l : Roll) (job : Job) : Roll :=
  { l with made := l.made ++ [job], joined := l.joined ++ [l.made.length] }

/-- Writes down removals. -/
def dismiss (l : Roll) (ns : List Nat) : Roll := { l with left := l.left ++ ns }

/-- Writes down a request. Only what is current is removed. -/
def perform (l : Roll) : JobOp → Roll × JobReply
  | .make job => ({ l with made := l.made ++ [job] }, .made l.made.length)
  | .add job => (l.enter job, .added l.made.length)
  | .remove n =>
    if n ∈ l.current then (l.dismiss [n], .removed true) else (l, .removed false)
  | .startMasters jobs =>
    (jobs.foldl (fun l job => l.enter { job with masterOnly := true }) l, .counted jobs.length)
  | .stopMasters =>
    let masters := l.current.filter l.isMasterOnly
    (l.dismiss masters, .counted masters.length)
  | .tearDown => (l.dismiss l.current, .counted l.current.length)

/-- Writes down requests in turn, and gives their replies. -/
def run (l : Roll) : List JobOp → Roll × List JobReply
  | [] => (l, [])
  | op :: ops =>
    let (l, reply) := l.perform op
    let (l, replies) := l.run ops
    (l, reply :: replies)

/-- A run is its first request and then the others, from what the first left. -/
theorem run_cons (l : Roll) (op : JobOp) (ops : List JobOp) :
    l.run (op :: ops) = (((l.perform op).1.run ops).1,
      (l.perform op).2 :: ((l.perform op).1.run ops).2) := rfl

/-- The schedules whose hook of that time is to have been called. -/
def past (l : Roll) : HookTime → List Nat
  | .tearUp => l.joined
  | .tearDown => l.left

/-- What is to be heard of a hook of a schedule. -/
def hookEvents (l : Roll) (time : HookTime) (n : Nat) : List Event :=
  l.made[n]?.elim [] fun job => job.hookEvents time n

/-- Who is dismissed is current no more, and all others are. -/
theorem current_dismiss (l : Roll) (ns : List Nat) :
    (l.dismiss ns).current = l.current.filter (· ∉ ns) := by
  unfold current dismiss
  rw [List.filter_filter]
  refine List.filter_congr fun n _ => ?_
  simp [List.mem_append, and_comm]

end Roll

namespace Roster

variable {H : Type} {r : Roster H} {k : Scheduler} {l : Roll} {n : Nat}

/-- Performs a request about jobs. -/
def performJob (r : Roster H) : JobOp → Roster H × JobReply
  | .make job =>
    let (r, n) := r.makeJob job
    (r, .made n)
  | .add job =>
    let (r, n) := r.addJob job
    (r, .added n)
  | .remove n =>
    match r.removeJob n with
    | some r => (r, .removed true)
    | none => (r, .removed false)
  | .startMasters jobs =>
    let (r, count) := r.startMasterJobs jobs
    (r, .counted count)
  | .stopMasters =>
    let (r, count) := r.stopMasterJobs
    (r, .counted count)
  | .tearDown =>
    let (r, count) := r.tearDown
    (r, .counted count)

/-- Performs requests in turn, and gives their replies. -/
def runJobs (r : Roster H) : List JobOp → Roster H × List JobReply
  | [] => (r, [])
  | op :: ops =>
    let (r, reply) := r.performJob op
    let (r, replies) := r.runJobs ops
    (r, reply :: replies)

/-- A run is its first request and then the others, from what the first left. -/
theorem runJobs_cons (r : Roster H) (op : JobOp) (ops : List JobOp) :
    r.runJobs (op :: ops) = (((r.performJob op).1.runJobs ops).1,
      (r.performJob op).2 :: ((r.performJob op).1.runJobs ops).2) := rfl

/-- The calls of a hook on behalf of a schedule that were heard. -/
def hooksOf (r : Roster H) (time : HookTime) (n : Nat) : List Event :=
  r.journal.filter (Event.isHook time n)

/-- The roster, with a scheduler of that kind, is as the roll says. -/
structure Mirrors (r : Roster H) (k : Scheduler) (l : Roll) : Prop where
  scheduler : r.timetable.scheduler = k
  inStep : r.timetable.InStep
  made : r.timetable.schedules.map (·.job) = l.made
  tracked : r.timetable.tracked = l.current
  joined : ∀ n ∈ l.joined, n < l.made.length
  left : ∀ n ∈ l.left, n ∈ l.joined
  hooked : ∀ time n, r.hooksOf time n = if n ∈ l.past time then l.hookEvents time n else []

/-- As many schedules were made as the roll says. -/
theorem Mirrors.length (h : r.Mirrors k l) : r.timetable.schedules.length = l.made.length := by
  rw [← h.made, List.length_map]

/-- A schedule has the job that the roll says. -/
theorem Mirrors.job_find? (h : r.Mirrors k l) (n : Nat) :
    (r.timetable.find? n).map (·.job) = l.made[n]? := by
  rw [← h.made, List.getElem?_map]
  rfl

/-- A schedule is restricted to the master if the roll says so. -/
theorem Mirrors.isMasterOnly (h : r.Mirrors k l) (n : Nat) :
    r.timetable.isMasterOnly n = l.isMasterOnly n := by
  rw [Roll.isMasterOnly, ← h.job_find?, Option.any_map]
  rfl

/-- A schedule of which a hook was called has been made. -/
theorem Mirrors.lt_of_past (h : r.Mirrors k l) {time : HookTime} (hn : n ∈ l.past time) :
    n < l.made.length := by
  cases time
  · exact h.joined n hn
  · exact h.joined n (h.left n hn)

/-- What is to be heard of a schedule does not change when another one is made. -/
theorem Mirrors.past_of_made (h : r.Mirrors k l) {l' : Roll} {job : Job} {time : HookTime}
    (hmade : l'.made = l.made ++ [job]) (hpast : n ∈ l'.past time ↔ n ∈ l.past time) :
    (if n ∈ l'.past time then l'.hookEvents time n else []) =
      if n ∈ l.past time then l.hookEvents time n else [] := by
  by_cases hn : n ∈ l.past time
  · rw [if_pos hn, if_pos (hpast.mpr hn), Roll.hookEvents, hmade,
      List.getElem?_append_left (h.lt_of_past hn)]
    rfl
  · rw [if_neg hn, if_neg fun hn' => hn (hpast.mp hn')]

/-- A new roster is as an empty roll says. -/
theorem mirrors_create (capacity : Nat) (scheduler : Scheduler) (observers : List Observer) :
    (create capacity scheduler observers : Roster H).Mirrors scheduler {} where
  scheduler := rfl
  inStep := by
    refine ⟨⟨List.nodup_nil, fun n hn => absurd hn List.not_mem_nil⟩, ?_, ?_, List.nodup_nil, ?_⟩
    · show [] = ite _ _ _
      split <;> rfl
    · exact fun d hd => absurd hd List.not_mem_nil
    · exact fun d hd => absurd hd List.not_mem_nil
  made := rfl
  tracked := rfl
  joined := fun n hn => absurd hn List.not_mem_nil
  left := fun n hn => absurd hn List.not_mem_nil
  hooked := by
    intro time n
    cases time <;> rfl

/-- To make a schedule that is registered nowhere changes nothing but that it is there. -/
theorem Mirrors.makeJob (h : r.Mirrors k l) (job : Job) :
    (r.makeJob job).1.Mirrors k { l with made := l.made ++ [job] } where
  scheduler := h.scheduler
  inStep := h.inStep.make job
  made := by
    show (r.timetable.schedules ++ [_]).map _ = _
    rw [List.map_append, h.made]
    rfl
  tracked := h.tracked
  joined := by
    intro n hn
    rw [List.length_append]
    exact Nat.lt_add_right _ (h.joined n hn)
  left := h.left
  hooked := by
    intro time n
    have hmade : ({ l with made := l.made ++ [job] } : Roll).made = l.made ++ [job] := rfl
    have hpast : n ∈ ({ l with made := l.made ++ [job] } : Roll).past time ↔ n ∈ l.past time := by
      cases time <;> rfl
    exact (h.hooked time n).trans (h.past_of_made hmade hpast).symm

/-- A registration is written down as one that joined. -/
theorem Mirrors.addJob (h : r.Mirrors k l) (job : Job) :
    (r.addJob job).1.Mirrors k (l.enter job) where
  scheduler := by
    rw [timetable_addJob]
    exact h.scheduler
  inStep := by
    rw [timetable_addJob]
    exact h.inStep.add job
  made := by
    rw [timetable_addJob, Timetable.schedules_add, List.map_append, h.made]
    rfl
  tracked := by
    -- What is made now cannot have left before.
    have hfresh : l.made.length ∉ l.left := fun hmem =>
      Nat.lt_irrefl _ (h.joined _ (h.left _ hmem))
    rw [timetable_addJob, Timetable.tracked_add, h.tracked, h.length]
    show l.current ++ _ = (l.joined ++ [l.made.length]).filter (· ∉ l.left)
    rw [List.filter_append, List.filter_cons_of_pos (by simpa using hfresh)]
    rfl
  joined := by
    intro n hn
    show n < (l.made ++ [job]).length
    rw [List.length_append, List.length_singleton]
    rcases List.mem_append.mp hn with hn | hn
    · exact Nat.lt_succ_of_lt (h.joined n hn)
    · rw [List.mem_singleton.mp hn]
      exact Nat.lt_succ_self _
  left := fun n hn => List.mem_append_left _ (h.left n hn)
  hooked := by
    intro time n
    -- What is heard more is the hook of the new schedule; what observers are told does not count.
    rw [addJob_eq]
    show (r.journal ++ (_ ++ _)).filter _ = _
    rw [List.filter_append, List.filter_append, filter_isHook_hookEvents, filter_isHook_tell,
      List.append_nil, h.length, ← hooksOf, h.hooked]
    by_cases hnew : HookTime.tearUp = time ∧ l.made.length = n
    · -- Nothing was to be heard of the new schedule before.
      obtain ⟨rfl, rfl⟩ := hnew
      have hnot : l.made.length ∉ l.joined := fun hmem => Nat.lt_irrefl _ (h.joined _ hmem)
      simp [Roll.past, Roll.enter, Roll.hookEvents, hnot]
    · have hpast : n ∈ (l.enter job).past time ↔ n ∈ l.past time := by
        cases time with
        | tearUp =>
          have hother : n ≠ l.made.length := fun heq => hnew ⟨rfl, heq.symm⟩
          simp [Roll.past, Roll.enter, hother]
        | tearDown => exact Iff.rfl
      have hmade : (l.enter job).made = l.made ++ [job] := rfl
      rw [if_neg hnew, List.append_nil, h.past_of_made hmade hpast]

/-- A schedule that is current can be removed, and is written down as one that left. -/
theorem Mirrors.removeJob (h : r.Mirrors k l) (hn : n ∈ l.current) :
    ∃ r', r.removeJob n = some r' ∧ r'.Mirrors k (l.dismiss [n]) := by
  have htracked : n ∈ r.timetable.tracked := h.tracked ▸ hn
  obtain ⟨hjoined, hstay⟩ : n ∈ l.joined ∧ n ∉ l.left := by simpa [Roll.current] using hn
  obtain ⟨s, hs⟩ : ∃ s, r.timetable.find? n = some s :=
    ⟨_, List.getElem?_eq_getElem (h.inStep.sound.made n htracked)⟩
  have hjob : l.made[n]? = some s.job := by rw [← h.job_find?, hs, Option.map_some]
  refine ⟨_, removeJob_of_mem htracked hs, r.timetable.scheduler_drop n ▸ h.scheduler,
    h.inStep.drop n, ?_, ?_, h.joined, ?_, ?_⟩
  · show (r.timetable.drop n).schedules.map _ = l.made
    rw [← h.made]
    refine List.ext_getElem? fun m => ?_
    rw [List.getElem?_map, List.getElem?_map]
    exact r.timetable.job_drop n m
  · rw [Timetable.tracked_drop, h.inStep.sound.once.erase_eq_filter, h.tracked,
      Roll.current_dismiss]
    refine List.filter_congr fun m _ => ?_
    rw [Bool.eq_iff_iff]
    simp
  · intro m hm
    rcases List.mem_append.mp hm with hm | hm
    · exact h.left m hm
    · rwa [List.mem_singleton.mp hm]
  · intro time m
    show (r.journal ++ (_ ++ _)).filter _ = _
    rw [List.filter_append, List.filter_append, filter_isHook_hookEvents, filter_isHook_tell,
      List.append_nil, ← hooksOf, h.hooked]
    -- The tear-down hook of this schedule is heard now, and no other; it was not heard before,
    -- since the schedule had not left.
    by_cases hgone : HookTime.tearDown = time ∧ n = m
    · obtain ⟨rfl, rfl⟩ := hgone
      simp [Roll.past, Roll.dismiss, Roll.hookEvents, hstay, hjob]
    · rw [if_neg hgone, List.append_nil]
      cases time with
      | tearUp => rfl
      | tearDown =>
        have hother : m ∈ (l.dismiss [n]).left ↔ m ∈ l.left := by
          have hne : m ≠ n := fun heq => hgone ⟨rfl, heq.symm⟩
          simp [Roll.dismiss, hne]
        exact if_congr hother.symm rfl rfl

/-- Schedules that are removed in turn are all counted. -/
theorem Mirrors.foldl_strike (h : r.Mirrors k l) {ns : List Nat} (hns : ∀ n ∈ ns, n ∈ l.current)
    (hnodup : ns.Nodup) (count : Nat) :
    (ns.foldl strike (r, count)).1.Mirrors k (l.dismiss ns) ∧
      (ns.foldl strike (r, count)).2 = count + ns.length := by
  -- By induction on the numbers: after one is struck, the others are still current, since no number
  -- comes twice.
  induction ns generalizing r l count with
  | nil => exact ⟨by simpa [Roll.dismiss] using h, rfl⟩
  | cons n ns ih =>
    rw [List.forall_mem_cons] at hns
    rw [List.nodup_cons] at hnodup
    obtain ⟨r', hr', hmirrors⟩ := h.removeJob hns.1
    have hrest : ∀ m ∈ ns, m ∈ (l.dismiss [n]).current := by
      intro m hm
      rw [Roll.current_dismiss]
      refine List.mem_filter.mpr ⟨hns.2 m hm, ?_⟩
      simpa using fun heq : m = n => hnodup.1 (heq ▸ hm)
    have hstrike : strike (r, count) n = (r', count + 1) := by simp [strike, hr']
    obtain ⟨hlast, hcount⟩ := ih hmirrors hrest hnodup.2 (count + 1)
    rw [List.foldl_cons, hstrike]
    refine ⟨?_, ?_⟩
    · simpa [Roll.dismiss, List.append_assoc] using hlast
    · rw [hcount, List.length_cons]
      omega

/-- Of the current schedules any can be removed in turn, and the count is how many they are. -/
theorem Mirrors.removeJobs (h : r.Mirrors k l) {ns : List Nat} (hns : ns.Sublist l.current) :
    (r.removeJobs ns).1.Mirrors k (l.dismiss ns) ∧ (r.removeJobs ns).2 = ns.length := by
  have hnodup : ns.Nodup := (h.tracked ▸ h.inStep.sound.once).sublist hns
  rw [removeJobs_eq_foldl, ← Nat.zero_add ns.length]
  exact h.foldl_strike (fun n hn => hns.subset hn) hnodup 0

/-- The jobs of the master are written down in turn, each as restricted to it. -/
theorem Mirrors.startMasterJobs (h : r.Mirrors k l) (jobs : List Job) :
    (r.startMasterJobs jobs).1.Mirrors k
      (jobs.foldl (fun l job => l.enter { job with masterOnly := true }) l) := by
  unfold Roster.startMasterJobs
  induction jobs generalizing r l with
  | nil => exact h
  | cons job jobs ih => exact ih (h.addJob _)

/-- What is listed is what is current, all of it or what is restricted to the master. -/
theorem Mirrors.list (h : r.Mirrors k l) (masterOnly : Bool) :
    r.timetable.list masterOnly = l.current.filter fun n => !masterOnly || l.isMasterOnly n := by
  unfold Timetable.list
  simp only [h.tracked, h.isMasterOnly]

/-- A request does to a roster, and gives, what the roll says. -/
theorem Mirrors.performJob (h : r.Mirrors k l) (op : JobOp) :
    (r.performJob op).1.Mirrors k (l.perform op).1 ∧ (r.performJob op).2 = (l.perform op).2 := by
  cases op with
  | make job => exact ⟨h.makeJob job, congrArg JobReply.made h.length⟩
  | add job =>
    exact ⟨h.addJob job, congrArg JobReply.added h.length⟩
  | remove n =>
    by_cases hn : n ∈ l.current
    · obtain ⟨r', hr', hmirrors⟩ := h.removeJob hn
      simpa only [Roster.performJob, Roll.perform, hr', if_pos hn, and_true] using hmirrors
    · have hnone : r.removeJob n = none := removeJob_of_not_mem (h.tracked ▸ hn)
      simpa only [Roster.performJob, Roll.perform, hnone, if_neg hn, and_true] using h
  | startMasters jobs => exact ⟨h.startMasterJobs jobs, rfl⟩
  | stopMasters =>
    -- What is to be removed is listed first, and the list is a part of what is current.
    have hlist : r.timetable.list true = l.current.filter l.isMasterOnly := h.list true
    obtain ⟨hmirrors, hcount⟩ := h.removeJobs (hlist ▸ List.filter_sublist)
    rw [hlist] at hmirrors hcount
    simp only [Roster.performJob, Roll.perform, stopMasterJobs, hlist]
    exact ⟨hmirrors, congrArg JobReply.counted hcount⟩
  | tearDown =>
    have hlist : r.timetable.list false = l.current := by rw [h.list]; simp
    obtain ⟨hmirrors, hcount⟩ := h.removeJobs (List.Sublist.refl l.current)
    simp only [Roster.performJob, Roll.perform, tearDown, hlist]
    exact ⟨hmirrors, congrArg JobReply.counted hcount⟩

/-- Any requests do to a roster, and give, what the roll says. -/
theorem Mirrors.runJobs (h : r.Mirrors k l) (ops : List JobOp) :
    (r.runJobs ops).1.Mirrors k (l.run ops).1 ∧ (r.runJobs ops).2 = (l.run ops).2 := by
  -- By induction on the requests, since each of them keeps the roster and the roll alike.
  induction ops generalizing r l with
  | nil => exact ⟨h, rfl⟩
  | cons op ops ih =>
    obtain ⟨hfirst, hreply⟩ := h.performJob op
    obtain ⟨hrest, hreplies⟩ := ih hfirst
    rw [runJobs_cons, Roll.run_cons, hreply, hreplies]
    exact ⟨hrest, rfl⟩

/-- Nobody is current twice. -/
theorem Mirrors.nodup_current (h : r.Mirrors k l) : l.current.Nodup :=
  h.tracked ▸ h.inStep.sound.once

/-- The jobs of the master are removed, and all others stay as they were. -/
theorem Mirrors.tracked_stopMasterJobs (h : r.Mirrors k l) :
    r.stopMasterJobs.1.timetable.tracked = l.current.filter (fun n => !l.isMasterOnly n) ∧
      r.stopMasterJobs.2 = (l.current.filter l.isMasterOnly).length := by
  obtain ⟨hmirrors, hreply⟩ := h.performJob .stopMasters
  refine ⟨?_, JobReply.counted.inj hreply⟩
  refine hmirrors.tracked.trans ((l.current_dismiss _).trans (List.filter_congr fun n hn => ?_))
  simp [hn]

/-- A tear-down removes everything and counts it. -/
theorem Mirrors.tracked_tearDown (h : r.Mirrors k l) :
    r.tearDown.1.timetable.tracked = [] ∧ r.tearDown.2 = l.current.length := by
  obtain ⟨hmirrors, hreply⟩ := h.performJob .tearDown
  refine ⟨?_, JobReply.counted.inj hreply⟩
  refine hmirrors.tracked.trans ((l.current_dismiss _).trans ?_)
  exact List.filter_eq_nil_iff.mpr fun n hn => by simp [hn]

end Roster

/-! ### A scheduler that forgets -/

/-- The timetable if its scheduler were forgetful. -/
def Timetable.forget (t : Timetable) : Timetable :=
  { t with scheduler := .forgetful, driven := [] }

/-- To forget a schedule does not ask the scheduler what it knows. -/
theorem Timetable.untrack_forget (t : Timetable) (n : Nat) :
    t.forget.untrack n = (t.untrack n).map forget := by
  unfold untrack
  by_cases hn : n ∈ t.tracked
  · rw [if_pos hn, if_pos (by exact hn)]
    show some (((t.find? n).bind (·.handle)).elim _ _) = _
    cases (t.find? n).bind (·.handle) <;> rfl
  · rw [if_neg hn, if_neg (by exact hn)]
    rfl

namespace Roster

variable {H : Type}

/-- The roster if its scheduler were forgetful. -/
def forget (r : Roster H) : Roster H := { r with timetable := r.timetable.forget }

/-- A registration does the same, and gives the same number, with a forgetful scheduler. -/
theorem addJob_forget (r : Roster H) (job : Job) :
    r.forget.addJob job = ((r.addJob job).1.forget, (r.addJob job).2) := by
  rw [addJob_eq, addJob_eq]
  rfl

/-- A removal does the same, and succeeds alike, with a forgetful scheduler. -/
theorem removeJob_forget (r : Roster H) (n : Nat) :
    r.forget.removeJob n = (r.removeJob n).map forget := by
  have hfound : r.forget.timetable.find? n = r.timetable.find? n := rfl
  have huntracked : r.forget.timetable.untrack n = (r.timetable.untrack n).map Timetable.forget :=
    r.timetable.untrack_forget n
  unfold removeJob
  rw [hfound, huntracked]
  cases r.timetable.find? n with
  | none => rfl
  | some s =>
    cases r.timetable.untrack n with
    | none => rfl
    | some t =>
      simp only [Option.map_some, callHook_eq]
      rfl

/-- Schedules that are removed in turn are the same, and as many, with a forgetful scheduler. -/
theorem removeJobs_forget (r : Roster H) (ns : List Nat) :
    r.forget.removeJobs ns = ((r.removeJobs ns).1.forget, (r.removeJobs ns).2) := by
  have hstrike (p : Roster H × Nat) (n : Nat) :
      strike (p.1.forget, p.2) n = ((strike p n).1.forget, (strike p n).2) := by
    unfold strike
    dsimp only
    rw [removeJob_forget]
    cases p.1.removeJob n <;> rfl
  have hall (p : Roster H × Nat) : ns.foldl strike (p.1.forget, p.2) =
      ((ns.foldl strike p).1.forget, (ns.foldl strike p).2) :=
    List.foldl_hom (fun p : Roster H × Nat => (p.1.forget, p.2)) hstrike
  exact hall (r, 0)

/-- The jobs of the master are started alike with a forgetful scheduler. -/
theorem startMasterJobs_forget (r : Roster H) (jobs : List Job) :
    r.forget.startMasterJobs jobs =
      ((r.startMasterJobs jobs).1.forget, (r.startMasterJobs jobs).2) := by
  refine Prod.ext (List.foldl_hom forget fun r job => ?_) rfl
  rw [addJob_forget]

/-- Every request does the same, and gives the same reply, with a forgetful scheduler. -/
theorem performJob_forget (r : Roster H) (op : JobOp) :
    r.forget.performJob op = ((r.performJob op).1.forget, (r.performJob op).2) := by
  cases op with
  | make job => rfl
  | add job =>
    simp only [performJob, addJob_forget]
  | remove n =>
    simp only [performJob, removeJob_forget]
    cases r.removeJob n <;> rfl
  | startMasters jobs => simp only [performJob, startMasterJobs_forget]
  | stopMasters =>
    have hlist : r.forget.timetable.list true = r.timetable.list true := rfl
    simp only [performJob, stopMasterJobs, hlist, removeJobs_forget]
  | tearDown =>
    have hlist : r.forget.timetable.list false = r.timetable.list false := rfl
    simp only [performJob, tearDown, hlist, removeJobs_forget]

/-- That the scheduler knows none of its schedules changes nothing but what it drives. -/
theorem runJobs_forget (r : Roster H) (ops : List JobOp) :
    r.forget.runJobs ops = ((r.runJobs ops).1.forget, (r.runJobs ops).2) := by
  induction ops generalizing r with
  | nil => rfl
  | cons op ops ih => rw [runJobs_cons, runJobs_cons, performJob_forget, ih]

/-- What is tracked, what is driven and what is told to hooks agree. After any requests to a new
roster, whatever hooks the jobs have and whether or not these fail:

* the replies so far are those that the roll gives, and what is tracked is what is current on it:
  the schedules that were registered and not yet removed, each once, in the order of registration;
* the scheduler drives exactly these, each under a handle of its own, unless it keeps no list;
* the tear-up hook of a schedule was called once if the schedule was registered, the tear-down hook
  once if it was removed, and neither was called otherwise;
* to stop the jobs of the master removes exactly these, counts them and leaves the rest in order,
  and a tear-down removes and counts everything;
* with a scheduler that does not know what it is asked to stop, replies, tracked schedules and the
  journal, hooks included, are the same. -/
theorem jobs_kept_in_step (capacity : Nat) (scheduler : Scheduler) (observers : List Observer)
    (ops : List JobOp) :
    let r := (create capacity scheduler observers : Roster H).runJobs ops
    let l := ({} : Roll).run ops
    let f := (create capacity .forgetful observers : Roster H).runJobs ops
    (r.2 = l.2 ∧ r.1.timetable.schedules.map (·.job) = l.1.made ∧
      r.1.timetable.tracked = l.1.current ∧ l.1.current.Nodup) ∧
    (r.1.timetable.registered = (if scheduler = .forgetful then [] else l.1.current) ∧
      (r.1.timetable.driven.map (·.1)).Nodup) ∧
    (∀ n, r.1.hooksOf .tearUp n =
        (if n ∈ l.1.joined then l.1.hookEvents .tearUp n else []) ∧
      r.1.hooksOf .tearDown n =
        if n ∈ l.1.left then l.1.hookEvents .tearDown n else []) ∧
    (r.1.stopMasterJobs.1.timetable.tracked =
        l.1.current.filter (fun n => !l.1.isMasterOnly n) ∧
      r.1.stopMasterJobs.2 = (l.1.current.filter l.1.isMasterOnly).length ∧
      r.1.tearDown.1.timetable.tracked = [] ∧ r.1.tearDown.2 = l.1.current.length) ∧
    f.2 = r.2 ∧ f.1.timetable.tracked = r.1.timetable.tracked ∧ f.1.journal = r.1.journal := by
  intro r l f
  obtain ⟨h, hreplies⟩ := (mirrors_create (H := H) capacity scheduler observers).runJobs ops
  have hforget : f = (r.1.forget, r.2) :=
    runJobs_forget (create capacity scheduler observers) ops
  -- Everything but the comparison with a forgetful scheduler is read off the invariant.
  refine ⟨⟨hreplies, h.made, h.tracked, h.nodup_current⟩, ⟨?_, h.inStep.distinct⟩,
    fun n => ⟨h.hooked .tearUp n, h.hooked .tearDown n⟩, ⟨h.tracked_stopMasterJobs.1,
    h.tracked_stopMasterJobs.2, h.tracked_tearDown.1, h.tracked_tearDown.2⟩, ?_⟩
  · rw [h.inStep.registered, h.scheduler, h.tracked]
  · rw [hforget]
    exact ⟨rfl, rfl, rfl⟩

end Roster

end CommandMesh
