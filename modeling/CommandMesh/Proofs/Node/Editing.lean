import CommandMesh.Proofs.Node.Activity
import CommandMesh.Proofs.Node.Masters
import CommandMesh.Proofs.Roster.Edits

/-!
# `CommandMesh.Proofs.Node.Editing`: what a node does to its roster

Most of what a node does leaves its roster alone. Where it does not, it changes the roster by edits:
it looks routes up and counts them, adds and removes what is its own or the master's, and notes what
its host sees. `Node.Edits` says so of two states of a node.

The lemmas go through the functions of the node once, in the order in which they call each other,
and each says how its function is made of edits or that it leaves the roster alone. Whoever wants to
know that some property of routes and jobs survives what a node does proves it of one edit and has
it of all. Nothing is assumed of the node: its roster may hold anything, it may or may not run, and
its link may be down.

An activity is ordinary unless schedules run in it or the host takes its notes. These two are left
out because they change what edits leave alone, the counts of the schedules and the journal.

* `edits_accept`, `edits_handle`, `edits_conclude`: a message on its way through a node.
* `edits_syncMasters`, `edits_carryOutAll`, `edits_turn`: mastership.
* `edits_start`, `edits_stop`: the beginning and the end.
* `roster_beginSend`, `roster_continueSend`: requests change nothing.
* `edits_perform`: everything that a node does of itself or for its host, but for running schedules
  and for what the host takes note of.
-/

set_option autoImplicit false

namespace CommandMesh

/-- The host takes no note of what it has seen, and no schedule runs. -/
def Activity.IsOrdinary : Activity → Prop
  | .drive _ | .inspect => False
  | _ => True

namespace Node

variable {n n' m : Node} {α : Type}

/-- The roster changes by edits. -/
def Edits (n n' : Node) : Prop := n.roster.Edits n'.roster

/-- A node that does nothing makes no edits. -/
theorem Edits.refl (n : Node) : n.Edits n := Roster.Edits.refl _

/-- What a node does to its roster in two steps by edits, it does by edits. -/
theorem Edits.trans (h : n.Edits m) (h' : m.Edits n') : n.Edits n' := Roster.Edits.trans h h'

/-- What leaves the roster alone makes no edits. -/
theorem Edits.of_roster (h : n'.roster = n.roster) : n.Edits n' := Roster.Edits.of_eq h

/-- What a node does for each member of a list in turn is done by edits if each part is. -/
theorem edits_foldl {f : Node → α → Node} (h : ∀ n a, Edits n (f n a)) (n : Node) (as : List α) :
    n.Edits (as.foldl f n) := by
  induction as generalizing n with
  | nil => exact .refl n
  | cons a as ih => exact (h n a).trans (ih (f n a))

/-! ### Messages -/

/-- An announcement leaves routes and jobs alone. -/
theorem roster_broadcast (n : Node) (a : Announcement) : (n.broadcast a).roster = n.roster := by
  rw [broadcast_eq]
  unfold submit
  cases hlink : n.setup.link with
  | bus => simp only [hlink]
  -- A link that is down leads to a line in the log.
  | dead reason => simp only [hlink, reportException, roster_report]

/-- To take a message up looks a route up and counts its call, or looks in vain. -/
theorem edits_accept (n : Node) (e : Envelope) (now : Instant) : n.Edits (n.accept e now).1 := by
  have hroutes := n.roster.router.routes_resolve e.header
  -- The look-up may fill the cache of the router, whether or not it finds a route.
  cases hfound : (n.roster.router.resolve e.header).2 with
  | none =>
    rw [accept_of_none hfound, Edits, roster_report]
    exact (Roster.Edit.consult _ hroutes).edits
  | some route =>
    rw [accept_of_some hfound]
    have hcalled := Roster.Edit.consult (r := n.roster)
      ((n.roster.router.resolve e.header).1.count route.number (·.invoked now)) hroutes
    exact hcalled.edits

/-- To run a handler of the host notes its tag, if it has one. -/
theorem edits_startRun (n : Node) (h : HostHandler) (r : Request) : n.Edits (n.startRun h r).1 := by
  unfold startRun
  cases h.tag with
  | none => exact .refl n
  | some tag => exact (Roster.Edit.note _ (by simp [Event.isNotice])).edits

/-- To deal with what a handler gave counts a failure and may tell the host of it, or leaves the
roster alone. -/
theorem edits_conclude (n : Node) (route : Route Handler) (e : Envelope)
    (result : Except Fault (List Envelope)) : n.Edits (n.conclude route e result).1 := by
  cases result with
  | ok responses => exact .of_roster (n.roster_emitAll e responses)
  | error f =>
    -- The failure is counted and the host may be told. What follows leaves the roster alone.
    have hnoted : n.Edits (n.noted route e f) := by
      have hcounted := (Roster.Edit.consult (r := n.roster)
        (n.roster.router.count route.number Tally.failed) rfl).edits
      refine Roster.Edits.trans hcounted (Roster.Edit.note
        (if route.handler.isWatched then [.faulted e.key f.text] else []) ?_).edits
      split <;> simp [Event.isNotice]
    rw [conclude_error]
    cases n.faultReply e with
    | none => exact hnoted
    | some reply => exact hnoted.trans (.of_roster (roster_emitOrReport ..))

/-! ### Mastership -/

/-- To put the routes and jobs of the master in place adds them in turn. -/
theorem edits_holdMasters (n : Node) : n.Edits n.holdMasters :=
  (Roster.edits_addRoutes n.roster (·.pattern) (·.handler) true n.setup.masterHandlers).trans
    (Roster.edits_startMasterJobs _ _)

/-- To take the routes and jobs of the master away removes them in turn. -/
theorem edits_releaseMasters (n : Node) : n.Edits n.releaseMasters := by
  have hroutes :=
    Roster.edits_removeRoutes n.roster (·.pattern) true n.setup.masterHandlers
  exact hroutes.trans (Roster.edits_stopMasterJobs _)

/-- To bring what is the master's in line is done by edits. -/
theorem edits_syncMasters (n : Node) : n.Edits n.syncMasters := by
  unfold syncMasters
  split
  · exact .refl n
  · split
    · exact n.edits_holdMasters
    · exact n.edits_releaseMasters

/-- To carry out consequences of the election is done by edits. -/
theorem edits_carryOutAll (n : Node) (cs : List Consequence) : n.Edits (n.carryOutAll cs) := by
  -- What is the master's is brought in line with the part that the node has by then, so the same
  -- edit serves both turns.
  refine edits_foldl (fun n c => ?_) n cs
  cases c with
  | broadcast a => exact .of_roster (n.roster_broadcast a)
  | promoted =>
    refine Edits.trans (m := if n.isMaster then n.broadcast .iAmMaster else n) (.of_roster ?_)
      (edits_syncMasters _)
    split
    · exact n.roster_broadcast .iAmMaster
    · rfl
  | demoted => exact n.edits_syncMasters

/-- To hear an announcement leaves routes and jobs alone. -/
theorem roster_hear (n : Node) (e : Envelope) (now : Instant) :
    (n.hear e now).1.roster = n.roster := by
  unfold hear
  split
  · rfl
  · exact n.roster_report _

/-- To poll leaves routes and jobs alone. -/
theorem roster_poll (n : Node) (now : Instant) (draw : Nat) :
    (n.poll now draw).1.roster = n.roster := by
  unfold poll tick
  rcases n.candidate.poll now draw with ⟨c, _ | a⟩
  · rfl
  · exact roster_broadcast _ a

/-- A node that becomes master or resigns, if it can, changes its roster by edits. -/
theorem edits_turn (n : Node) (next : Option Candidate) (a : Announcement) :
    n.Edits ((next.map fun candidate =>
      ({ n with candidate }.broadcast a).syncMasters).getD n) := by
  cases next with
  -- Who is master already cannot become it, and who is not cannot resign.
  | none => exact .refl n
  | some candidate =>
    exact Edits.trans (m := { n with candidate }.broadcast a)
      (.of_roster (roster_broadcast { n with candidate } a)) (edits_syncMasters _)

/-- To run a handler, whichever it is, changes the roster by edits. -/
theorem edits_handle (n : Node) (h : Handler) (r : Request) (now : Instant) :
    n.Edits (n.handle h r now).1 := by
  cases h with
  | answers =>
    refine .of_roster ?_
    unfold handle takeAnswer
    cases r.message.inReplyTo <;> rfl
  | election =>
    have hheard := n.roster_hear r.message now
    unfold handle
    generalize n.hear r.message now = heard at hheard ⊢
    exact (Edits.of_roster hheard).trans (edits_carryOutAll _ heard.2)
  | host h => exact n.edits_startRun h r

/-! ### The beginning and the end -/

/-- The node adds its own routes by edits. -/
theorem edits_addOwnRoute (n : Node) (pattern : RoutePattern) (handler : Handler)
    (reference : String) : n.Edits (n.addOwnRoute pattern handler reference) :=
  (Roster.Edit.addRoute ..).edits

/-- The node adds jobs by edits. -/
theorem edits_addJob (n : Node) (job : Job) : n.Edits (n.addJob job) :=
  (Roster.Edit.addJob job).edits

/-- To take part in the election adds a route and a job. -/
theorem edits_startElection (n : Node) : n.Edits n.startElection := by
  unfold startElection
  dsimp only
  split
  · -- The route takes announcements, the job polls.
    exact (n.edits_addOwnRoute _ _ _).trans (edits_addJob _ _)
  · exact .refl n

/-- A start adds the routes and jobs of the node and the jobs of its host. -/
theorem edits_start (n : Node) : n.Edits (n.start.toOption.getD n) := by
  unfold start
  split
  · exact .refl n
  · have hanswers := edits_addOwnRoute { n with running := true, pumping := true }
      n.answerPattern .answers "outgoing-response"
    exact ((hanswers.trans (edits_startElection _)).trans (edits_addJob _ _)).trans
      (edits_foldl edits_addJob _ _)

/-- A stop removes what is the master's, all jobs and the routes of the node. -/
theorem edits_stop (n : Node) (now : Instant) : n.Edits ((n.stop now).toOption.getD n) := by
  unfold stop
  split
  · exact .refl n
  · -- The node does not run any more when it resigns, and it resigns before its jobs are removed.
    let halted : Node := { n with running := false }
    have hresigned : n.Edits ((halted.stopMaster now).getD halted) :=
      edits_turn halted (halted.candidate.deactivate now) .resyncMaster
    have hjobs := Roster.edits_removeJobs ((halted.stopMaster now).getD halted).roster
      (((halted.stopMaster now).getD halted).roster.timetable.list false)
    exact (Roster.Edits.trans hresigned hjobs).trans
      (Roster.edits_removeRoutes _ id false _)

/-! ### Requests -/

/-- To begin a request leaves routes and jobs alone. -/
theorem roster_beginSend (n : Node) (l : Letter) (now : Instant) :
    (n.beginSend (α := α) l now).1.roster = n.roster := by
  unfold beginSend
  split
  · rfl
  · cases l.body with
    | error f => rfl
    | ok body => exact roster_dispatch _ l.options _ now

/-- To go on with a request leaves routes and jobs alone. -/
theorem roster_continueSend (n : Node) (read : List UInt8 → Except Failure α) (p : Pending)
    (cancelled : Bool) (first : Glance) :
    (n.continueSend read p cancelled first).1.roster = n.roster := by
  have hresumed := n.roster_resumeSend p cancelled first
  cases h : n.resumeSend p cancelled first with
  | mk m o =>
    rw [h] at hresumed
    cases o with
    | none => rw [continueSend_of_none h, hresumed]
    | some o => rw [continueSend_of_some h, roster_settleSend, hresumed]

/-! ### Everything -/

/-- Whatever a node does changes its roster by edits, unless a schedule runs or the host takes note
of what it has seen. -/
theorem edits_perform (n : Node) {a : Activity} (ha : a.IsOrdinary) : n.Edits (n.perform a).1 := by
  cases a with
  | handle h r now => exact n.edits_handle h r now
  | poll now draw => exact .of_roster (n.roster_poll now draw)
  | startMaster now => exact n.edits_turn (n.candidate.activate now) .iAmMaster
  | stopMaster now => exact n.edits_turn (n.candidate.deactivate now) .resyncMaster
  | start => exact n.edits_start
  | stop now => exact n.edits_stop now
  | addRoute pattern handler reference masterOnly => exact (Roster.Edit.addRoute ..).edits
  | removeRoute pattern masterOnly => exact (Roster.Edit.removeRoute ..).edits
  | addJob job => exact n.edits_addJob job
  | removeJob k => exact (Roster.Edit.removeJob k).edits
  | send l now => exact .of_roster (n.roster_beginSend l now)
  | resume read p cancelled first => exact .of_roster (n.roster_continueSend read p cancelled first)
  | draw | sweep | flush | pump => exact .of_roster rfl
  | drive | inspect => exact ha.elim

end Node

end CommandMesh
