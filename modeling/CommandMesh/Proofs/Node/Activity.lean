import CommandMesh.Node.Lifecycle
import CommandMesh.Proofs.Node.Discretion
import CommandMesh.Proofs.Roster.Registration

/-!
# `CommandMesh.Proofs.Node.Activity`: whatever else a node does

Between the moment at which a node takes a message up and the end of its handler the node may do
anything else. An `Activity` is one of these things, and `Node.perform` does it. `Node.Incidental`
says of something that a node does that it is discreet and counts nothing about routes.

There is a constructor of `Activity` for everything that can happen to a node while a message is
being dealt with: other handlers run, the election goes on, the node is started or stopped, routes
and jobs come and go, requests are begun and go on, and the host reads the log. The clocks of the
schedules are an arbitrary function of the timetable (`drive`), so nothing is assumed about when
they fire. Left out are the two halves of dealing with a message, which are not incidental and have
theorems of their own.

The two halves of `Incidental` are needed together. That a step is discreet says what others learn
of it; that it counts nothing says that calls and failures are those of the message in question.
Both pass through sequences, choices and loops, so each function of the node is taken apart once
into what it reads and what it does to one field, and its lemma follows the way it is written.

* `Incidental.bind`, `Incidental.andThen`, `incidental_foldl`: what is made of incidental steps is
  incidental.
* `incidental_broadcast`, `incidental_syncMasters`, `incidental_start`, `incidental_stop` and the
  others: so is each thing that a node does.
* `incidental_perform`: so is every activity.
-/

set_option autoImplicit false

namespace CommandMesh

namespace Roster

variable {H : Type} {α : Type}

/-- The roster without what its host has seen. -/
def silent (r : Roster H) : Roster H := { r with journal := [] }

/-- What is done to a roster counts nothing about routes, and does not depend on what its host has
seen. -/
structure Incidental (op : Roster H → Roster H) : Prop where
  silent : ∀ ⦃r r' : Roster H⦄, r.silent = r'.silent → (op r).silent = (op r').silent
  tallies : ∀ r, (op r).router.tallies = r.router.tallies

/-- What is done to a roster in two incidental steps is incidental. -/
theorem Incidental.andThen {f g : Roster H → Roster H} (hf : Incidental f) (hg : Incidental g) :
    Incidental fun r => g (f r) where
  silent := fun _ _ hr => hg.silent (hf.silent hr)
  tallies := fun r => (hg.tallies (f r)).trans (hf.tallies r)

/-- What is done to a roster for each member of a list in turn is incidental if each part is. -/
theorem incidental_foldl {f : Roster H → α → Roster H} (h : ∀ a, Incidental (f · a))
    (as : List α) : Incidental fun r => as.foldl f r := by
  induction as with
  | nil => exact ⟨fun _ _ hr => hr, fun _ => rfl⟩
  | cons a as ih => exact (h a).andThen ih

/-- To change the timetable by itself is incidental. -/
theorem incidental_timetable (f : Timetable → Timetable) :
    Incidental fun r : Roster H => { r with timetable := f r.timetable } where
  silent := fun _ _ hr => congrArg (fun r => { r with timetable := f r.timetable }) hr
  tallies := fun _ => rfl

/-- To add a route counts nothing, and does not depend on what the host has seen. -/
theorem incidental_addRoute (pattern : RoutePattern) (handler : H) (reference : Option String)
    (masterOnly : Bool) :
    Incidental fun r : Roster H => (r.addRoute pattern handler reference masterOnly).1 where
  silent := fun _ _ hr => congrArg
    (fun r => (r.addRoute pattern handler reference masterOnly).1.silent) hr
  tallies := fun _ => rfl

/-- To remove a route counts nothing, and does not depend on what the host has seen. -/
theorem incidental_removeRoute (pattern : RoutePattern) (masterOnly : Bool) :
    Incidental fun r : Roster H => (r.removeRoute pattern masterOnly).getD r where
  silent := by
    intro r r' hr
    have hrouter : r.router = r'.router := congrArg (·.router) hr
    unfold removeRoute
    rw [hrouter]
    cases r'.router.unregister pattern masterOnly with
    | none => exact hr
    | some router => exact congrArg (fun r => { r with router }) hr
  tallies := by
    intro r
    rw [router_removeRoute]
    unfold Router.unregister
    cases r.router.find? pattern masterOnly <;> rfl

/-- What a hook does is seen by the host alone. -/
theorem silent_callHook (r : Roster H) (time : HookTime) (n : Nat) (job : Job) :
    (r.callHook time n job).silent = r.silent := by
  unfold callHook
  split <;> rfl

/-- To add a job changes the timetable, and what the host sees of it. -/
theorem silent_addJob (r : Roster H) (job : Job) :
    (r.addJob job).1.silent = { r.silent with timetable := r.timetable.add job } := by
  -- A schedule is made, its hook is called, and only then is it tracked.
  let made := r.makeJob job
  have hhook : (made.1.callHook .tearUp made.2 job).silent = made.1.silent :=
    silent_callHook made.1 .tearUp made.2 job
  exact congrArg (fun r : Roster H => { r with timetable := r.timetable.track made.2 }) hhook

/-- To add a job to a roster is incidental. -/
theorem incidental_addJob (job : Job) : Incidental fun r : Roster H => (r.addJob job).1 where
  silent := by
    intro r r' hr
    rw [silent_addJob, silent_addJob]
    exact congrArg (fun r : Roster H => { r with timetable := r.timetable.add job }) hr
  tallies := fun r => congrArg (·.tallies) (router_addJob r job)

/-- To remove a job from a roster is incidental, whether or not it is there. -/
theorem incidental_removeJob (n : Nat) :
    Incidental fun r : Roster H => (r.removeJob n).getD r where
  silent := by
    intro r r' hr
    have htimetable : r.timetable = r'.timetable := congrArg (·.timetable) hr
    unfold removeJob
    rw [htimetable]
    split
    · next s timetable _ _ =>
      have hhook (r : Roster H) := silent_callHook { r with timetable } .tearDown n s.job
      show ({ r with timetable }.callHook .tearDown n s.job).silent =
        ({ r' with timetable }.callHook .tearDown n s.job).silent
      rw [hhook, hhook]
      exact congrArg (fun r : Roster H => { r with timetable }) hr
    · exact hr
  tallies := fun r => congrArg (·.tallies) (router_removeJob r n)

/-- Which schedules are removed depends on the timetable alone. -/
theorem incidental_removeJobs (numbers : Timetable → List Nat) :
    Incidental fun r : Roster H => (r.removeJobs (numbers r.timetable)).1 where
  silent := by
    intro r r' hr
    have htimetable : r.timetable = r'.timetable := congrArg (·.timetable) hr
    -- Both rosters have the same timetable, so the same numbers are removed.
    rw [fst_removeJobs, fst_removeJobs, htimetable]
    exact (incidental_foldl incidental_removeJob _).silent hr
  tallies := fun r => congrArg (·.tallies) (router_removeJobs r _)

end Roster

namespace Node

variable {n n' : Node} {α β : Type}

/-! ### Incidental steps -/

/-- What a node does is discreet and counts nothing about routes. -/
structure Incidental (op : Node → Node × α) : Prop where
  discreet : Discreet op
  tallies : ∀ n, (op n).1.roster.router.tallies = n.roster.router.tallies

/-- What does the same to a node and to what others know of it is incidental. -/
theorem incidental_of_shown {op : Node → Node × α} (h : ∀ n, shown (op n) = op n.outward)
    (htallies : ∀ n, (op n).1.roster.router.tallies = n.roster.router.tallies) : Incidental op :=
  ⟨discreet_of_shown op h, htallies⟩

/-- To look at what others know of is incidental. -/
theorem incidental_read (g : Node → α) (h : ∀ n, g n = g n.outward) :
    Incidental fun n => (n, g n) :=
  incidental_of_shown (fun n => congrArg (n.outward, ·) (h n)) fun _ => rfl

/-- To do nothing is incidental. -/
theorem incidental_pure (a : α) : Incidental fun n => (n, a) := incidental_read _ fun _ => rfl

/-- What does the same as an incidental step is incidental. -/
theorem Incidental.of_eq {op op' : Node → Node × α} (h : Incidental op') (heq : ∀ n, op n = op' n) :
    Incidental op := by
  rw [funext heq]
  exact h

/-- What is done in two incidental steps, the second of which may use what the first one gave, is
incidental. -/
theorem Incidental.bind {f : Node → Node × α} {g : α → Node → Node × β} (hf : Incidental f)
    (hg : ∀ a, Incidental (g a)) : Incidental fun n => g (f n).2 (f n).1 where
  discreet := hf.discreet.bind fun a => (hg a).discreet
  tallies := fun n => ((hg _).tallies _).trans (hf.tallies n)

/-- What is told of an incidental step makes no difference. -/
theorem Incidental.giving {f : Node → Node × α} (hf : Incidental f) (b : β) :
    Incidental fun n => ((f n).1, b) :=
  hf.bind fun _ => incidental_pure b

/-- What is done only if something holds that others know of is incidental if both ways are. -/
theorem Incidental.ite {c : Node → Bool} {f g : Node → Node × α} (hc : ∀ n, c n = c n.outward)
    (hf : Incidental f) (hg : Incidental g) : Incidental fun n => if c n then f n else g n where
  discreet := hf.discreet.ite hc hg.discreet
  tallies := by
    intro n
    split
    · exact hf.tallies n
    · exact hg.tallies n

/-- What is done in two incidental steps that give nothing is incidental. -/
theorem Incidental.andThen {f g : Node → Node} (hf : Incidental fun n => (f n, ()))
    (hg : Incidental fun n => (g n, ())) : Incidental fun n => (g (f n), ()) :=
  hf.bind fun _ => hg

/-- What a node does for each member of a list in turn is incidental if each part is. -/
theorem incidental_foldl {f : Node → β → Node} (h : ∀ b, Incidental fun n => (f n b, ()))
    (bs : List β) : Incidental fun n => (bs.foldl f n, ()) := by
  induction bs with
  | nil => exact incidental_pure ()
  | cons b bs ih => exact (h b).andThen ih

/-- What is done to the roster alone is incidental if it is so there. -/
theorem incidental_roster {op : Roster Handler → Roster Handler} (h : Roster.Incidental op) :
    Incidental fun n => ({ n with roster := op n.roster }, ()) where
  discreet := by
    intro n n' hn
    have hroster : (op n.roster).silent = (op n'.roster).silent :=
      h.silent (congrArg (·.roster) hn)
    show ({ n.outward with roster := (op n.roster).silent }, ()) =
      ({ n'.outward with roster := (op n'.roster).silent }, ())
    rw [hn, hroster]
  tallies := fun n => h.tallies n.roster

/-- So it is if what is done depends on what others know of. -/
theorem incidental_rosterBy (g : Node → α) (hg : ∀ n, g n = g n.outward)
    (op : α → Roster Handler → Roster Handler) (h : ∀ a, Roster.Incidental (op a)) :
    Incidental fun n => ({ n with roster := op (g n) n.roster }, ()) :=
  (incidental_read g hg).bind fun a => incidental_roster (h a)

/-- To draw from the supply is incidental. -/
theorem incidental_draw (f : Fresh α) : Incidental fun n => n.draw f :=
  incidental_of_shown (fun _ => rfl) fun _ => rfl

/-- To write into the log is incidental. -/
theorem incidental_report (entry : Node → LogEntry) :
    Incidental fun n => (n.report (entry n), ()) where
  discreet := discreet_report entry
  tallies := fun n => by rw [roster_report]

/-- To send a message, or to log that it could not be sent, is incidental. -/
theorem incidental_emitOrReport (e : Envelope) (text : String) :
    Incidental fun n => (n.emitOrReport e text, ()) where
  discreet := discreet_emitOrReport e text
  tallies := fun n => by rw [roster_emitOrReport]

/-! ### The election -/

/-- An announcement is drawn up and sent over the link. -/
theorem incidental_broadcast (a : Announcement) : Incidental fun n => (n.broadcast a, ()) := by
  have hdraw : Incidental fun n => n.draw
      (Envelope.create n.setup.policy.election.channel n.electionKind a.text n.setup.service) :=
    incidental_of_shown (fun _ => rfl) fun _ => rfl
  exact hdraw.bind fun e => incidental_emitOrReport e ("Failed to broadcast " ++ a.text)

/-- To put the routes and jobs of the master in place is incidental. -/
theorem incidental_holdMasters : Incidental fun n => (n.holdMasters, ()) := by
  -- The routes come first, one by one, and then the jobs; last the node notes that they are in
  -- place.
  have hroster := incidental_rosterBy (fun n => (n.setup.masterHandlers, n.setup.masterJobs))
    (fun _ => rfl) (fun c r => ((c.1.foldl
      (fun r d => (r.addRoute d.pattern d.handler none true).1) r).startMasterJobs c.2).1)
    fun c => (Roster.incidental_foldl
      (fun d => Roster.incidental_addRoute d.pattern d.handler none true) c.1).andThen
        (Roster.incidental_foldl (fun job => Roster.incidental_addJob _) c.2)
  have hheld : Incidental fun n => ({ n with mastersHeld := true }, ()) :=
    incidental_of_shown (fun _ => rfl) fun _ => rfl
  exact hroster.andThen hheld

/-- To take the routes and jobs of the master away is incidental. -/
theorem incidental_releaseMasters : Incidental fun n => (n.releaseMasters, ()) := by
  -- In the same order as they were put in place: first the routes and then the jobs.
  have hroster := incidental_rosterBy (fun n => n.setup.masterHandlers) (fun _ => rfl)
    (fun ds r => (ds.foldl (fun r d => (r.removeRoute d.pattern true).getD r)
      r).stopMasterJobs.1)
    fun ds => (Roster.incidental_foldl
      (fun d => Roster.incidental_removeRoute d.pattern true) ds).andThen
        (Roster.incidental_removeJobs fun t => t.list true)
  have hheld : Incidental fun n => ({ n with mastersHeld := false }, ()) :=
    incidental_of_shown (fun _ => rfl) fun _ => rfl
  exact hroster.andThen hheld

/-- Whether the handlers and jobs of the master are in place is known to others, and whether the
node is master. -/
theorem incidental_syncMasters : Incidental fun n => (n.syncMasters, ()) := by
  have hsync := (incidental_read (fun n => (n.mastersHeld, n.isMaster)) fun _ => rfl).bind
    (g := fun c n => (if c.1 = c.2 then n else if c.2 then n.holdMasters else n.releaseMasters, ()))
    fun c => by
      split
      · exact incidental_pure ()
      · split
        · exact incidental_holdMasters
        · exact incidental_releaseMasters
  exact hsync

/-- To carry out one consequence of the election is incidental. -/
theorem incidental_carryOut (c : Consequence) : Incidental fun n => (n.carryOut c, ()) := by
  -- A promotion is announced only if the node is still master by then.
  cases c with
  | broadcast a => exact incidental_broadcast a
  | demoted => exact incidental_syncMasters
  | promoted =>
    have hclaim := (incidental_read isMaster fun _ => rfl).bind
      (g := fun master n => (if master then n.broadcast .iAmMaster else n, ())) fun master => by
        split
        · exact incidental_broadcast .iAmMaster
        · exact incidental_pure ()
    exact hclaim.andThen incidental_syncMasters

/-- To carry out all consequences in turn is incidental. -/
theorem incidental_carryOutAll (cs : List Consequence) :
    Incidental fun n => (n.carryOutAll cs, ()) :=
  incidental_foldl incidental_carryOut cs

/-- To go on with another state of the election is incidental. -/
theorem incidental_setCandidate (candidate : Candidate) (a : α) :
    Incidental fun n => ({ n with candidate }, a) :=
  incidental_of_shown (fun _ => rfl) fun _ => rfl

/-- What a node does once it has read an announcement of a service, or has failed to. -/
def heed (sender : String) :
    Except Failure (Candidate × List Consequence) → Node → Node × List Consequence
  | .ok (candidate, cs), n => ({ n with candidate }, cs)
  | .error f, n =>
    (n.report (.line .warning (f.message ++ " from " ++ sender) "negotiation"), [])

/-- To adopt what an announcement makes of the election, or to log that it could not be read, is
incidental. -/
theorem incidental_heed (sender : String) (heard : Except Failure (Candidate × List Consequence)) :
    Incidental (heed sender heard) := by
  cases heard with
  | ok p => exact incidental_setCandidate p.1 p.2
  | error f => exact (incidental_report fun _ => _).bind fun _ => incidental_pure []

/-- To hear an announcement is incidental. -/
theorem incidental_hear (e : Envelope) (now : Instant) : Incidental fun n => n.hear e now := by
  have hhear := (incidental_read (fun n =>
      n.candidate.process (e.isFrom n.setup.service) e.sender e.action now) fun _ => rfl).bind
    (g := heed e.sender) fun heard => incidental_heed e.sender heard
  refine hhear.of_eq fun n => ?_
  unfold hear
  cases n.candidate.process (e.isFrom n.setup.service) e.sender e.action now <;> rfl

/-- To let the election poll is incidental, before its announcement is sent. -/
theorem incidental_tick (now : Instant) (draw : Nat) : Incidental fun n => n.tick now draw := by
  have htick := (incidental_read (fun n => n.candidate.poll now draw) fun _ => rfl).bind
    (g := fun polled n => ({ n with candidate := polled.1 }, polled.2))
    fun polled => incidental_setCandidate polled.1 polled.2
  exact htick.of_eq fun _ => rfl

/-- To poll and to send the announcement is incidental. -/
theorem incidental_poll (now : Instant) (draw : Nat) : Incidental fun n => n.poll now draw := by
  have hpoll := (incidental_tick now draw).bind
    (g := fun polled n => (polled.elim n n.broadcast, polled))
    fun polled => by
      cases polled with
      | none => exact incidental_pure none
      | some a => exact (incidental_broadcast a).bind fun _ => incidental_pure (some a)
  refine hpoll.of_eq fun n => ?_
  unfold poll
  rcases n.tick now draw with ⟨n, _ | a⟩ <;> rfl

/-- A node that becomes master or resigns, if it can, says so and brings its handlers and jobs in
line. -/
theorem incidental_turn (next : Candidate → Option Candidate) (a : Announcement) :
    Incidental fun n => (((next n.candidate).map fun candidate =>
      ({ n with candidate }.broadcast a).syncMasters).getD n, ()) := by
  have hturn := (incidental_read (fun n => next n.candidate) fun _ => rfl).bind
    (g := fun turned n => ((turned.map fun candidate =>
      ({ n with candidate }.broadcast a).syncMasters).getD n, ()))
    fun turned => by
      cases turned with
      | none => exact incidental_pure ()
      | some candidate =>
        exact ((incidental_setCandidate candidate ()).andThen (incidental_broadcast a)).andThen
          incidental_syncMasters
  exact hturn.of_eq fun _ => rfl

/-! ### Starting and stopping -/

/-- To add one of the node's own routes is incidental. -/
theorem incidental_addOwnRoute (pattern : RoutePattern) (handler : Handler) (reference : String) :
    Incidental fun n => (n.addOwnRoute pattern handler reference, ()) := by
  have hroute := incidental_roster
    (Roster.incidental_addRoute pattern handler (some reference) false)
  have hkept : Incidental fun n => ({ n with ownRoutes := n.ownRoutes ++ [pattern] }, ()) :=
    incidental_of_shown (fun _ => rfl) fun _ => rfl
  exact hroute.andThen hkept

/-- To add a job to a node is incidental. -/
theorem incidental_addJob (job : Job) : Incidental fun n => (n.addJob job, ()) :=
  incidental_roster (Roster.incidental_addJob job)

/-- To take part in the election, if that is what the setup says, is incidental. -/
theorem incidental_startElection : Incidental fun n => (n.startElection, ()) := by
  have helection := (incidental_read
      (fun n => (n.setup.policy.election, n.electionPattern, n.pollJobName)) fun _ => rfl).bind
    (g := fun c n => (if c.1.enabled then
      (n.addOwnRoute c.2.1 .election "master-job-negotiation").addJob
        { name := c.2.2, timer := .every c.1.tickSpan, body := .poll } else n, ()))
    fun c => by
      split
      · exact (incidental_addOwnRoute _ _ _).andThen (incidental_addJob _)
      · exact incidental_pure ()
  exact helection.of_eq fun _ => rfl

/-- To start a node is incidental, and so is the attempt to start one that runs. -/
theorem incidental_start : Incidental fun n => (n.start.toOption.getD n, ()) := by
  have hrunning : Incidental fun n => ({ n with running := true, pumping := true }, ()) :=
    incidental_of_shown (fun _ => rfl) fun _ => rfl
  have hanswers := (incidental_read answerPattern fun _ => rfl).bind
    fun pattern => incidental_addOwnRoute pattern .answers "outgoing-response"
  have hsweep := (incidental_read (fun n => (n.sweepJobName, n.setup.policy.sweepSpan))
      fun _ => rfl).bind
    fun c => incidental_addJob { name := c.1, timer := .every c.2, body := .sweep }
  have hjobs := (incidental_read (fun n => n.setup.jobs) fun _ => rfl).bind
    fun jobs => incidental_foldl incidental_addJob jobs
  -- The routes and jobs of the node itself come first, and the jobs of its host last.
  have hstarted :=
    (((hrunning.andThen hanswers).andThen incidental_startElection).andThen hsweep).andThen hjobs
  refine ((incidental_pure ()).ite (c := running) (fun _ => rfl) hstarted).of_eq fun n => ?_
  unfold start
  cases n.running <;> rfl

/-- To remove the node's own routes is incidental. -/
theorem incidental_removeOwnRoutes : Incidental fun n => (n.removeOwnRoutes, ()) := by
  have hroutes := incidental_rosterBy ownRoutes (fun _ => rfl)
    (fun patterns r => patterns.foldl (fun r p => (r.removeRoute p false).getD r) r)
    fun patterns =>
      Roster.incidental_foldl (fun p => Roster.incidental_removeRoute p false) patterns
  have hgone : Incidental fun n => ({ n with ownRoutes := [] }, ()) :=
    incidental_of_shown (fun _ => rfl) fun _ => rfl
  exact hroutes.andThen hgone

/-- To stop a node is incidental, and so is the attempt to stop one that does not run. -/
theorem incidental_stop (now : Instant) :
    Incidental fun n => ((n.stop now).toOption.getD n, ()) := by
  have hrunning : Incidental fun n => ({ n with running := false }, ()) :=
    incidental_of_shown (fun _ => rfl) fun _ => rfl
  have hresigned := hrunning.andThen (incidental_turn (·.deactivate now) .resyncMaster)
  have hjobs := incidental_roster (Roster.incidental_removeJobs fun t => t.list false)
  have hafresh : Incidental fun n => ({ n with
      waitlist := n.waitlist.shutdown.1
      candidate := .create n.setup.name n.setup.service n.setup.policy.election now }, ()) :=
    incidental_of_shown (fun _ => rfl) fun _ => rfl
  -- The order is that of the node: it resigns while its routes are still there, and only at the end
  -- are its requests given up and its candidate made afresh.
  have hstopped :=
    ((hresigned.andThen hjobs).andThen incidental_removeOwnRoutes).andThen hafresh
  refine (hstopped.ite (c := running) (fun _ => rfl) (incidental_pure ())).of_eq fun n => ?_
  unfold stop
  cases n.running <;> rfl

/-! ### Handlers and requests -/

/-- To take an answer to a request is incidental. -/
theorem incidental_takeAnswer (e : Envelope) : Incidental fun n => (n.takeAnswer e, ()) := by
  unfold takeAnswer
  cases e.inReplyTo with
  | none => exact incidental_pure ()
  | some id => exact incidental_of_shown (fun _ => rfl) fun _ => rfl

/-- That a handler is run is noted by its host, if at all. -/
theorem incidental_startRun (h : HostHandler) (r : Request) :
    Incidental fun n => n.startRun h r := by
  -- The run without the note of it, which is all that others get to know.
  let op' (n : Node) : Node × HandlerRun :=
    let count := (n.runs.lookup h.meter).getD 0 + 1
    ({ n with runs := (h.meter, count) :: n.runs.filter (·.1 != h.meter) }, h.run count r)
  refine ⟨discreet_of_shown op' fun n => ?_, fun n => ?_⟩
  all_goals
    unfold startRun
    cases h.tag <;> rfl

/-- To run a handler is incidental, whichever it is. -/
theorem incidental_handle (h : Handler) (r : Request) (now : Instant) :
    Incidental fun n => n.handle h r now := by
  let run : HandlerRun := ⟨0, pure (.ok [])⟩
  cases h with
  | answers =>
    exact ((incidental_takeAnswer r.message).bind fun _ => incidental_pure run).of_eq fun _ => rfl
  | election =>
    have hheard := (incidental_hear r.message now).bind fun cs =>
      (incidental_carryOutAll cs).bind fun _ => incidental_pure run
    refine hheard.of_eq fun n => ?_
    unfold handle
    rcases n.hear r.message now with ⟨n, cs⟩
    rfl
  | host h => exact incidental_startRun h r

/-- The response that tells a caller of a fault leaves routes and jobs alone. -/
theorem roster_faultResponse (n : Node) (id context error : String) :
    (n.faultResponse (α := α) id context error).1.roster = n.roster := by
  simp only [faultResponse, reportFault_eq]

/-- To send a message leaves routes and jobs alone. -/
theorem roster_emit {e : Envelope} (h : n.emit e = .ok n') : n'.roster = n.roster := by
  unfold emit submit at h
  split at h
  · rw [← Except.ok.inj h]
  · split at h
    · rw [← Except.ok.inj h]
    · exact absurd h (by simp)

/-- To take a request back leaves routes and jobs alone. -/
theorem roster_retractSend (n : Node) (id : String) (ticket : Option Nat) :
    (n.retractSend id ticket).roster = n.roster := by
  cases ticket <;> rfl

/-- To dispatch a message leaves routes and jobs alone, whether it is sent or not. -/
theorem roster_dispatch (n : Node) (options : SendOptions) (e : Envelope) (now : Instant) :
    (n.dispatch (α := α) options e now).1.roster = n.roster := by
  unfold dispatch
  dsimp only
  split
  · rfl
  · next waitlist ticket _ =>
    -- Neither a fault nor a request that is withdrawn reaches the roster.
    let listed : Node := { n with waitlist }
    cases hemit : listed.emit e with
    | error reason =>
      exact (roster_faultResponse (α := α) _ (Text.correlationForm e.key) _ reason).trans
        (listed.roster_retractSend (Text.correlationForm e.key) ticket)
    | ok n' =>
      have hroster : n'.roster = listed.roster := roster_emit hemit
      cases ticket <;> exact hroster

/-- To begin a request is incidental. -/
theorem incidental_beginSend (l : Letter) (now : Instant) :
    Incidental fun n => n.beginSend (α := α) l now where
  discreet := discreet_beginSend l now
  tallies := by
    intro n
    unfold beginSend
    split
    · rfl
    · cases l.body with
      | error f => rfl
      | ok body => exact congrArg (·.router.tallies) (roster_dispatch _ l.options _ now)

/-- To make a response of an outcome leaves routes and jobs alone. -/
theorem roster_settleSend (n : Node) (read : List UInt8 → Except Failure α) (p : Pending)
    (o : Outcome) : (n.settleSend read p o).1.roster = n.roster := by
  cases o with
  | timedOut => rfl
  | cancelled => rfl
  | answered e =>
    unfold settleSend
    dsimp only
    split
    · rfl
    · cases read e.body with
      | ok a => rfl
      | error f => exact roster_faultResponse _ _ _ _

/-- A caller that looks for its outcome leaves routes and jobs alone. -/
theorem roster_resumeSend (n : Node) (p : Pending) (cancelled : Bool) (first : Glance) :
    (n.resumeSend p cancelled first).1.roster = n.roster := by
  have htake (m : Node) : (m.takeOutcome p).1.roster = m.roster := by
    unfold takeOutcome
    split <;> rfl
  unfold resumeSend
  dsimp only
  split
  · exact htake (n.cancelSend p.id)
  · exact htake n

/-- To go on with a request is incidental. -/
theorem incidental_continueSend (read : List UInt8 → Except Failure α) (p : Pending)
    (cancelled : Bool) (first : Glance) :
    Incidental fun n => n.continueSend read p cancelled first where
  discreet := discreet_continueSend read p cancelled first
  tallies := by
    intro n
    have hresumed := n.roster_resumeSend p cancelled first
    cases h : n.resumeSend p cancelled first with
    | mk m o =>
      rw [h] at hresumed
      cases o with
      | none => rw [continueSend_of_none h, hresumed]
      | some o => rw [continueSend_of_some h, roster_settleSend, hresumed]

end Node

/-! ### Activities -/

/-- What a node may do besides taking messages up and dealing with what their handlers gave. -/
inductive Activity where
  /-- Runs a handler. -/
  | handle (h : Handler) (r : Request) (now : Instant)
  /-- Draws identifiers, as a handler does for what it sends. -/
  | draw (f : Fresh Unit)
  | poll (now : Instant) (draw : Nat)
  | startMaster (now : Instant)
  | stopMaster (now : Instant)
  | start
  | stop (now : Instant)
  | sweep (now : Instant)
  | addRoute (pattern : RoutePattern) (handler : Handler) (reference : Option String)
      (masterOnly : Bool)
  | removeRoute (pattern : RoutePattern) (masterOnly : Bool)
  | addJob (job : Job)
  | removeJob (k : Nat)
  /-- Drives its schedules. -/
  | drive (f : Timetable → Timetable)
  /-- Begins a request. -/
  | send (l : Letter) (now : Instant)
  /-- Goes on with a request that waits. -/
  | resume (read : List UInt8 → Except Failure Json) (p : Pending) (cancelled : Bool)
      (first : Glance)
  /-- What it has handed to its link is on its way. -/
  | flush
  /-- The messages that stay inside it are taken from where they wait. -/
  | pump
  /-- Its host takes note of the log and of what it has seen. -/
  | inspect

/-- What those who send requests are told. -/
inductive Told where
  | nothing
  | began (s : SendStart Json)
  | answered (r : Option (Response Json))

namespace Node

/-- Does something, and tells those who send requests about it. -/
def perform (n : Node) : Activity → Node × Told
  | .handle h r now => ((n.handle h r now).1, .nothing)
  | .draw f => ((n.draw f).1, .nothing)
  | .poll now draw => ((n.poll now draw).1, .nothing)
  | .startMaster now => ((n.startMaster now).getD n, .nothing)
  | .stopMaster now => ((n.stopMaster now).getD n, .nothing)
  | .start => (n.start.toOption.getD n, .nothing)
  | .stop now => ((n.stop now).toOption.getD n, .nothing)
  | .sweep now => (n.sweep now, .nothing)
  | .addRoute pattern handler reference masterOnly =>
    ({ n with roster := (n.roster.addRoute pattern handler reference masterOnly).1 }, .nothing)
  | .removeRoute pattern masterOnly =>
    ({ n with roster := (n.roster.removeRoute pattern masterOnly).getD n.roster }, .nothing)
  | .addJob job => (n.addJob job, .nothing)
  | .removeJob k => ({ n with roster := (n.roster.removeJob k).getD n.roster }, .nothing)
  | .drive f =>
    ({ n with roster := { n.roster with timetable := f n.roster.timetable } }, .nothing)
  | .send l now =>
    let (n, s) := n.beginSend (α := Json) l now
    (n, .began s)
  | .resume read p cancelled first =>
    let (n, r) := n.continueSend read p cancelled first
    (n, .answered r)
  | .flush => ({ n with outbox := [] }, .nothing)
  | .pump => ({ n with loopback := [] }, .nothing)
  | .inspect => ({ n with log := [], roster := { n.roster with journal := [] } }, .nothing)

/-- Whatever else a node does lets nobody but its host know more of faults, and counts nothing. -/
theorem incidental_perform (a : Activity) : Incidental fun n => n.perform a := by
  -- One lemma for each activity.
  cases a with
  | handle h r now => exact (incidental_handle h r now).giving _
  | draw f => exact (incidental_draw f).giving _
  | poll now draw => exact (incidental_poll now draw).giving _
  | startMaster now => exact (incidental_turn (·.activate now) .iAmMaster).giving _
  | stopMaster now => exact (incidental_turn (·.deactivate now) .resyncMaster).giving _
  | start => exact incidental_start.giving _
  | stop now => exact (incidental_stop now).giving _
  | sweep now => exact incidental_of_shown (fun _ => rfl) fun _ => rfl
  | addRoute pattern handler reference masterOnly =>
    have hroute := Roster.incidental_addRoute pattern handler reference masterOnly
    exact (incidental_roster hroute).giving _
  | removeRoute pattern masterOnly =>
    exact (incidental_roster (Roster.incidental_removeRoute pattern masterOnly)).giving _
  | addJob job => exact (incidental_addJob job).giving _
  | removeJob k => exact (incidental_roster (Roster.incidental_removeJob k)).giving _
  | drive f => exact (incidental_roster (Roster.incidental_timetable f)).giving _
  | send l now => exact (incidental_beginSend l now).bind fun s => incidental_pure (Told.began s)
  | resume read p cancelled first =>
    exact (incidental_continueSend read p cancelled first).bind fun r =>
      incidental_pure (Told.answered r)
  | flush => exact incidental_of_shown (fun _ => rfl) fun _ => rfl
  | pump => exact incidental_of_shown (fun _ => rfl) fun _ => rfl
  | inspect =>
    exact ⟨discreet_of_shown (fun n => (n, .nothing)) fun _ => rfl, fun _ => rfl⟩

end Node

end CommandMesh
