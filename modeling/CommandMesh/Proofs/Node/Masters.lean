import CommandMesh.Node.Lifecycle
import CommandMesh.Proofs.Node.Backlog
import CommandMesh.Proofs.Roster.Registration

/-!
# `CommandMesh.Proofs.Node.Masters`: the handlers and jobs of the master on the roster of a node

A node has handlers and jobs that it puts in place as master, and `Node.mastersHeld` is its note
that it has. `Node.MastersNoted` says that this note is true: all of them are in place, each once
and in their order, or none is.

What is in place is read off the two tables: the reserved routes of the router, and the tracked jobs
that are restricted to the master. The note alone would not do, since a node acts on its note and
never looks at the tables. So the invariant ties the note to the tables, and each operation is shown
to keep the tie: `holdMasters` and `releaseMasters` change both sides, and everything else changes
neither (`SameMasters`).

The hypotheses on routes and jobs of others are one and the same throughout: whatever is added or
removed besides is not restricted to the master, or has a pattern that is not reserved. A host that
registers routes restricted to the master under the same patterns takes part in the game, and then a
removal may take its route instead. In the same way the jobs that a node starts with are assumed not
to be restricted to the master.

* `Node.MastersNoted.syncMasters`: a node that brings them in line with its standing keeps its note
  true, and by `Node.mastersHeld_syncMasters` it then says whether the node is master.
* `Node.SameMasters.noted`: so does everything that leaves alone what is the master's, such as the
  announcements of a node, its start, and routes and jobs that are not the master's.
* `Node.MastersNoted.hear`: a message leaves the note as it is, and nothing makes a master without a
  consequence that tells of it.
* `Blueprint.noted_of_build`: the note of a node that was just built is true.
-/

set_option autoImplicit false

namespace CommandMesh

namespace Roster

variable {r : Roster Handler} {keys : List RoutePattern} {ds : List Definition}

/-- What the routes of the master with these patterns do, in order. -/
def reserved (r : Roster Handler) (keys : List RoutePattern) : List Definition :=
  (r.router.reserved keys).map fun route => ⟨route.pattern, route.handler⟩

/-- To add routes leaves the jobs alone. -/
theorem timetable_addRoutes (r : Roster Handler) (ds : List Definition) (masterOnly : Bool) :
    (ds.foldl (fun r d => (r.addRoute d.pattern d.handler none masterOnly).1) r).timetable =
      r.timetable := by
  induction ds generalizing r with
  | nil => rfl
  | cons d ds ih => rw [List.foldl_cons, ih, timetable_addRoute]

/-- To remove routes leaves the jobs alone. -/
theorem timetable_removeRoutes (r : Roster Handler) (ds : List Definition) :
    (ds.foldl (fun r d => (r.removeRoute d.pattern true).getD r) r).timetable = r.timetable := by
  induction ds generalizing r with
  | nil => rfl
  | cons d ds ih => rw [List.foldl_cons, ih, timetable_removeRoute]

/-- Handlers of the master that are added come last. -/
theorem reserved_addRoutes (h : ∀ d ∈ ds, d.pattern ∈ keys) :
    (ds.foldl (fun r d => (r.addRoute d.pattern d.handler none true).1) r).reserved keys =
      r.reserved keys ++ ds := by
  -- One handler after the other, each behind those that are there already.
  induction ds generalizing r with
  | nil => exact (List.append_nil _).symm
  | cons d ds ih =>
    rw [List.forall_mem_cons] at h
    have hfirst : (r.addRoute d.pattern d.handler none true).1.reserved keys =
        r.reserved keys ++ [d] := by
      rw [reserved, router_addRoute, Router.reserved_register, if_pos ⟨rfl, h.1⟩, List.map_append]
      rfl
    rw [List.foldl_cons, ih h.2, hfirst, List.append_assoc, List.singleton_append]

/-- Handlers of the master that are in place can be removed in turn, and none is left. -/
theorem reserved_removeRoutes (h : r.reserved keys = ds) (hkeys : ∀ d ∈ ds, d.pattern ∈ keys) :
    (ds.foldl (fun r d => (r.removeRoute d.pattern true).getD r) r).reserved keys = [] := by
  -- The induction is on what is still in place: the handler to be removed next is its first one.
  induction ds generalizing r with
  | nil => exact h
  | cons d ds ih =>
    rw [List.forall_mem_cons] at hkeys
    obtain ⟨route, routes, hroutes, hroute, hrest⟩ := List.map_eq_cons_iff.mp h
    have hmem : route ∈ r.router.reserved keys := by
      rw [hroutes]
      exact List.mem_cons_self
    have hmaster : route.masterOnly = true := by
      have hreserved := List.of_mem_filter hmem
      simp only [Router.isReserved, Bool.and_eq_true] at hreserved
      exact hreserved.1
    -- A later route may have the same pattern. Only the first one is erased.
    have hfirst : ((r.removeRoute d.pattern true).getD r).reserved keys = ds := by
      rw [reserved, router_removeRoute, Router.reserved_unregister _ hkeys.1, hroutes,
        List.eraseP_cons_of_pos (by simp [← hroute, hmaster])]
      exact hrest
    exact ih hfirst hkeys.2

/-- What is reserved for the master depends on the routes alone. -/
theorem reserved_congr {r' : Roster Handler} (h : r'.router = r.router) :
    r'.reserved keys = r.reserved keys := by
  rw [reserved, h, reserved]

/-- A route that is not the master's, or has a pattern of its own, takes none of its places. -/
theorem reserved_addRoute_of_other {pattern : RoutePattern} {masterOnly : Bool}
    (h : ¬ (masterOnly = true ∧ pattern ∈ keys)) (handler : Handler) (reference : Option String) :
    (r.addRoute pattern handler reference masterOnly).1.reserved keys = r.reserved keys := by
  rw [reserved, router_addRoute, Router.reserved_register, if_neg h, List.append_nil, reserved]

/-- Handlers that are not for the master take none of its places. -/
theorem reserved_addRoutes_of_other (r : Roster Handler) (ds : List Definition)
    (keys : List RoutePattern) :
    (ds.foldl (fun r d => (r.addRoute d.pattern d.handler none false).1) r).reserved keys =
      r.reserved keys := by
  induction ds generalizing r with
  | nil => rfl
  | cons d ds ih =>
    rw [List.foldl_cons, ih, reserved_addRoute_of_other fun h => Bool.false_ne_true h.1]

/-- To remove a route that is not the master's, or has a pattern of its own, leaves the master's in
place. -/
theorem reserved_removeRoute_of_other {pattern : RoutePattern} {masterOnly : Bool}
    (h : ¬ (masterOnly = true ∧ pattern ∈ keys)) :
    ((r.removeRoute pattern masterOnly).getD r).reserved keys = r.reserved keys := by
  rw [reserved, router_removeRoute, Router.reserved_unregister_of_other _ h, reserved]

end Roster

namespace Node

variable {n n' n'' : Node}

/-! ### What is in place -/

/-- The patterns of the handlers of the master. -/
def masterPatterns (n : Node) : List RoutePattern := n.setup.masterHandlers.map (·.pattern)

/-- The handlers and jobs of the master are in place once, or not at all, as the node has noted. -/
structure MastersNoted (n : Node) : Prop where
  sound : n.roster.timetable.Sound
  restricted : ∀ job ∈ n.setup.masterJobs, job.masterOnly = true
  handlers : n.roster.reserved n.masterPatterns =
    if n.mastersHeld then n.setup.masterHandlers else []
  jobs : n.roster.timetable.masterJobs = if n.mastersHeld then n.setup.masterJobs else []

/-- Every handler of the master has one of the patterns that are reserved for it. -/
theorem pattern_mem_masterPatterns (n : Node) :
    ∀ d ∈ n.setup.masterHandlers, d.pattern ∈ n.masterPatterns :=
  fun _ hd => List.mem_map_of_mem hd

/-- A node that has nothing of the master in place puts all of it there, once. -/
theorem MastersNoted.holdMasters (h : n.MastersNoted) (hheld : n.mastersHeld = false) :
    n.holdMasters.MastersNoted := by
  -- The jobs are restricted to the master when they are added, and they were so before.
  have hjobs : (n.setup.masterJobs.map fun job => { job with masterOnly := true }) =
      n.setup.masterJobs := by
    refine (List.map_congr_left ?_).trans (List.map_id _)
    intro job hjob
    rw [← h.restricted job hjob, id]
  have hsound := h.sound.addAll n.setup.masterJobs
  have hadded := h.sound.masterJobs_addAll n.setup.masterJobs
  rw [List.filter_eq_self.mpr h.restricted] at hadded
  have hhandlers := h.handlers
  have hold := h.jobs
  rw [hheld, if_neg Bool.false_ne_true] at hhandlers hold
  have htimetable : n.holdMasters.roster.timetable =
      n.setup.masterJobs.foldl Timetable.add n.roster.timetable := by
    show (Roster.startMasterJobs _ _).1.timetable = _
    rw [Roster.timetable_startMasterJobs, Roster.timetable_addRoutes, hjobs]
  refine ⟨htimetable ▸ hsound, h.restricted, ?_, ?_⟩
  · show (Roster.startMasterJobs _ _).1.reserved n.masterPatterns = n.setup.masterHandlers
    rw [Roster.reserved_congr (Roster.router_startMasterJobs _ _),
      Roster.reserved_addRoutes n.pattern_mem_masterPatterns, hhandlers, List.nil_append]
  · rw [htimetable, hadded, hold, List.nil_append]
    rfl

/-- A node that has all of the master in place removes all of it. -/
theorem MastersNoted.releaseMasters (h : n.MastersNoted) (hheld : n.mastersHeld = true) :
    n.releaseMasters.MastersNoted := by
  have hhandlers := h.handlers
  rw [hheld, if_pos rfl] at hhandlers
  have hkept : (n.setup.masterHandlers.foldl
      (fun r d => (r.removeRoute d.pattern true).getD r) n.roster).timetable =
        n.roster.timetable := Roster.timetable_removeRoutes _ _
  obtain ⟨hsound, hnone⟩ := Roster.masterJobs_stopMasterJobs (hkept.symm ▸ h.sound)
  -- The jobs are gone; of the routes it has to be seen that all were found.
  refine ⟨hsound, h.restricted, ?_, hnone⟩
  show (Roster.stopMasterJobs _).1.reserved _ = []
  rw [Roster.reserved_congr (Roster.router_stopMasterJobs _)]
  exact Roster.reserved_removeRoutes hhandlers n.pattern_mem_masterPatterns

/-- To bring the handlers and jobs of the master in line keeps them in place as a whole or not at
all. -/
theorem MastersNoted.syncMasters (h : n.MastersNoted) : n.syncMasters.MastersNoted := by
  unfold Node.syncMasters
  split
  · exact h
  · next hne =>
    cases hmaster : n.isMaster with
    | true =>
      have hheld : n.mastersHeld = false := by simpa [hmaster] using hne
      exact h.holdMasters hheld
    | false =>
      have hheld : n.mastersHeld = true := by simpa [hmaster] using hne
      exact h.releaseMasters hheld

/-- Then the node has noted how it stands, whatever it had noted before. -/
theorem mastersHeld_syncMasters (n : Node) :
    n.syncMasters.mastersHeld = n.syncMasters.isMaster := by
  have hkept : n.syncMasters.isMaster = n.isMaster := by
    rw [isMaster, n.announces_syncMasters.candidate, isMaster]
  rw [hkept]
  unfold syncMasters
  split
  · -- Nothing is done if the note agrees with the standing already.
    assumption
  · cases hmaster : n.isMaster <;> rfl

/-! ### What leaves it so -/

/-- What is the master's on the roster is the same, and so is what the node has noted of it and
whether it is master. -/
structure SameMasters (n n' : Node) : Prop where
  setup : n'.setup = n.setup
  candidate : n'.candidate = n.candidate
  held : n'.mastersHeld = n.mastersHeld
  handlers : n'.roster.reserved n.masterPatterns = n.roster.reserved n.masterPatterns
  jobs : n.roster.timetable.Sound →
    n'.roster.timetable.Sound ∧ n'.roster.timetable.masterJobs = n.roster.timetable.masterJobs

namespace SameMasters

/-- What leaves the roster alone leaves alone what is the master's on it. -/
theorem of_roster (hsetup : n'.setup = n.setup) (hcandidate : n'.candidate = n.candidate)
    (hheld : n'.mastersHeld = n.mastersHeld) (hroster : n'.roster = n.roster) :
    SameMasters n n' where
  setup := hsetup
  candidate := hcandidate
  held := hheld
  handlers := by rw [hroster]
  jobs := fun hsound => by rw [hroster]; exact ⟨hsound, rfl⟩

/-- A node keeps what is the master's. -/
theorem refl (n : Node) : SameMasters n n := of_roster rfl rfl rfl rfl

/-- The patterns that are reserved stay the same. -/
theorem masterPatterns (h : SameMasters n n') : n'.masterPatterns = n.masterPatterns := by
  rw [Node.masterPatterns, h.setup, Node.masterPatterns]

/-- What is left alone in two steps is left alone. -/
theorem trans (h : SameMasters n n') (h' : SameMasters n' n'') : SameMasters n n'' where
  setup := h'.setup.trans h.setup
  candidate := h'.candidate.trans h.candidate
  held := h'.held.trans h.held
  handlers := by
    have hlater := h'.handlers
    rw [h.masterPatterns] at hlater
    exact hlater.trans h.handlers
  jobs := by
    intro hsound
    obtain ⟨hsound', hjobs⟩ := h.jobs hsound
    obtain ⟨hsound'', hjobs'⟩ := h'.jobs hsound'
    exact ⟨hsound'', hjobs'.trans hjobs⟩

/-- Whether the node is master stays the same. -/
theorem isMaster (h : SameMasters n n') : n'.isMaster = n.isMaster :=
  congrArg Candidate.isActive h.candidate

/-- So a note that was true still is. -/
theorem noted (h : SameMasters n n') (hn : n.MastersNoted) : n'.MastersNoted := by
  obtain ⟨hsound, hjobs⟩ := h.jobs hn.sound
  refine ⟨hsound, ?_, ?_, ?_⟩
  · rw [h.setup]
    exact hn.restricted
  · rw [h.masterPatterns, h.handlers, h.setup, h.held]
    exact hn.handlers
  · rw [hjobs, h.setup, h.held]
    exact hn.jobs

end SameMasters

/-- What is written into the log leaves alone what is the master's. -/
theorem sameMasters_report (n : Node) (entry : LogEntry) : SameMasters n (n.report entry) := by
  unfold report
  split <;> exact SameMasters.of_roster rfl rfl rfl rfl

/-- An announcement leaves alone what is the master's, whether it is sent or not. -/
theorem sameMasters_broadcast (n : Node) (a : Announcement) : SameMasters n (n.broadcast a) := by
  rw [broadcast_eq]
  unfold submit
  dsimp only
  -- The message is submitted, or the failure is logged; the key for it was drawn before.
  split
  · next hsubmit =>
    split at hsubmit
    · rw [← Except.ok.inj hsubmit]
      exact SameMasters.of_roster rfl rfl rfl rfl
    · simp at hsubmit
  · have hdrawn : SameMasters n
        { n with supply := { n.supply with next := n.supply.next + 1 } } :=
      SameMasters.of_roster rfl rfl rfl rfl
    exact hdrawn.trans (sameMasters_report _ _)

/-- To add a route that is not reserved for the master leaves alone what is the master's. -/
theorem sameMasters_addRoute {pattern : RoutePattern} {masterOnly : Bool}
    (h : ¬ (masterOnly = true ∧ pattern ∈ n.masterPatterns)) (handler : Handler)
    (reference : Option String) :
    SameMasters n
      { n with roster := (n.roster.addRoute pattern handler reference masterOnly).1 } where
  setup := rfl
  candidate := rfl
  held := rfl
  handlers := Roster.reserved_addRoute_of_other h handler reference
  jobs := fun hsound => ⟨hsound, rfl⟩

/-- To remove a route that is not reserved for the master leaves alone what is the master's. -/
theorem sameMasters_removeRoute {pattern : RoutePattern} {masterOnly : Bool}
    (h : ¬ (masterOnly = true ∧ pattern ∈ n.masterPatterns)) :
    SameMasters n
      { n with roster := (n.roster.removeRoute pattern masterOnly).getD n.roster } where
  setup := rfl
  candidate := rfl
  held := rfl
  handlers := Roster.reserved_removeRoute_of_other h
  jobs := fun hsound => by
    dsimp only
    rw [Roster.timetable_removeRoute]
    exact ⟨hsound, rfl⟩

/-- To add a job that is not restricted to the master leaves alone what is the master's. -/
theorem sameMasters_addJob {job : Job} (h : job.masterOnly = false) :
    SameMasters n (n.addJob job) where
  setup := rfl
  candidate := rfl
  held := rfl
  handlers := Roster.reserved_congr (Roster.router_addJob _ _)
  jobs := fun hsound => by
    unfold addJob
    dsimp only
    rw [Roster.timetable_addJob, hsound.masterJobs_add, h, if_neg Bool.false_ne_true,
      List.append_nil]
    exact ⟨hsound.add job, rfl⟩

/-- To remove a job that is not restricted to the master leaves alone what is the master's. -/
theorem sameMasters_removeJob {k : Nat} (h : n.roster.timetable.isMasterOnly k = false) :
    SameMasters n { n with roster := (n.roster.removeJob k).getD n.roster } where
  setup := rfl
  candidate := rfl
  held := rfl
  handlers := Roster.reserved_congr (Roster.router_removeJob _ _)
  jobs := fun hsound => by
    dsimp only
    rw [Roster.timetable_removeJob hsound]
    exact ⟨hsound.drop k, Timetable.masterJobs_drop_of_other h⟩

/-- The routes of the node itself are not the master's. -/
theorem sameMasters_addOwnRoute (n : Node) (pattern : RoutePattern) (handler : Handler)
    (reference : String) : SameMasters n (n.addOwnRoute pattern handler reference) :=
  (sameMasters_addRoute (fun h => Bool.false_ne_true h.1) handler (some reference)).trans
    (SameMasters.of_roster rfl rfl rfl rfl)

/-- To add jobs that are not restricted to the master leaves alone what is the master's. -/
theorem sameMasters_addJobs {jobs : List Job} (h : ∀ job ∈ jobs, job.masterOnly = false) :
    SameMasters n (jobs.foldl addJob n) := by
  induction jobs generalizing n with
  | nil => exact SameMasters.refl n
  | cons job jobs ih =>
    rw [List.forall_mem_cons] at h
    exact (sameMasters_addJob h.1).trans (ih h.2)

/-- To take part in the election leaves alone what is the master's. -/
theorem sameMasters_startElection (n : Node) : SameMasters n n.startElection := by
  unfold startElection
  dsimp only
  split
  · exact (n.sameMasters_addOwnRoute _ _ _).trans (sameMasters_addJob rfl)
  · exact SameMasters.refl n

/-- The start adds routes and jobs, none of them for the master. -/
theorem sameMasters_start (hjobs : ∀ job ∈ n.setup.jobs, job.masterOnly = false)
    (h : n.start = .ok n') : SameMasters n n' := by
  unfold start at h
  split at h
  · simp at h
  · rw [← Except.ok.inj h]
    have hruns : SameMasters n { n with running := true, pumping := true } :=
      SameMasters.of_roster rfl rfl rfl rfl
    have hanswers := hruns.trans
      (sameMasters_addOwnRoute _ n.answerPattern .answers "outgoing-response")
    have helection := hanswers.trans (sameMasters_startElection _)
    -- The sweep is the node's own job, and the jobs of the host are not the master's by assumption.
    refine (helection.trans (sameMasters_addJob ?_)).trans (sameMasters_addJobs ?_)
    · rfl
    · exact helection.setup.symm ▸ hjobs

/-! ### Mastership changes -/

/-- The note does not depend on how the election stands. -/
theorem MastersNoted.withCandidate (h : n.MastersNoted) (c : Candidate) :
    MastersNoted { n with candidate := c } :=
  ⟨h.sound, h.restricted, h.handlers, h.jobs⟩

/-- A message of the election touches no handlers or jobs, and if it makes the node master or
unmakes it, there is a consequence that tells so. -/
theorem MastersNoted.hear (h : n.MastersNoted) (e : Envelope) (now : Instant) :
    (n.hear e now).1.MastersNoted ∧ (n.hear e now).1.setup = n.setup ∧
      (n.hear e now).1.mastersHeld = n.mastersHeld ∧
        ((n.hear e now).1.isMaster = n.isMaster ∨
          ∃ c ∈ (n.hear e now).2, Candidate.tellsOfMastership c = true) := by
  unfold Node.hear Candidate.process
  cases Announcement.ofText e.action with
  | error f =>
    -- What cannot be read is only logged.
    have hsame := n.sameMasters_report (.line .warning (f.message ++ " from " ++ e.sender)
      "negotiation")
    exact ⟨hsame.noted h, hsame.setup, hsame.held, Or.inl hsame.isMaster⟩
  | ok a =>
    exact ⟨h.withCandidate _, rfl, rfl, n.candidate.isActive_hear _ _ a now⟩

end Node

/-- A node that has just been built has noted that nothing of the master is in place, and it is not
master. -/
theorem Blueprint.noted_of_build {b : Blueprint} {supply : Supply} {now : Instant} {n : Node}
    (h : b.build supply now = .ok n) :
    n.MastersNoted ∧ n.mastersHeld = false ∧ n.isMaster = false ∧
      n.setup.masterHandlers = b.masterHandlers ∧
        n.setup.masterJobs = b.masterJobs.map fun job => { job with masterOnly := true } := by
  unfold build at h
  dsimp only at h
  split at h
  · simp at h
  · split at h
    · simp at h
    · rw [← Except.ok.inj h]
      -- The timetable is empty, and the routes so far are not the master's.
      refine ⟨⟨?_, ?_, ?_, ?_⟩, rfl, ?_, rfl, rfl⟩
      · dsimp only
        rw [Roster.timetable_addRoutes]
        exact ⟨List.nodup_nil, by simp [Roster.create]⟩
      · intro job hjob
        obtain ⟨_, -, rfl⟩ := List.mem_map.mp hjob
        rfl
      · exact Roster.reserved_addRoutes_of_other _ _ _
      · dsimp only
        rw [Roster.timetable_addRoutes]
        rfl
      · simp only [Node.isMaster, Candidate.isActive, Candidate.create]
        split <;> rfl

end CommandMesh
