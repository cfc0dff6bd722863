import CommandMesh.Proofs.Node.Desk
import CommandMesh.Proofs.Node.Masters
import CommandMesh.Proofs.Node.Reception
import CommandMesh.Proofs.Roster.Enrolment

/-!
# `CommandMesh.Proofs.Node.Footing`: what a node stands on

The `Footing` of a node is all of it that starting, stopping and mastership are about: its routes
and jobs, the requests that wait, its part in the election and what it has noted of itself. Counts,
logs and messages on their way are left out, and so is what the schedules have counted:
`Registrations` is a timetable without it.

A node is `Settled` if the handlers and jobs of the master are in place exactly while it is master.
Whatever a settled node does, short of starting, stopping and what its host registers or removes, is
a `Course`: it rests on its footing, takes mastership and puts what is the master's in place, or
yields it and removes that.

A course takes a change of mastership and what follows from it together, since the consequences of a
message are carried out before the node turns to anything else. Consequences that are carried out
late have a model of their own. What a schedule does when it runs is an arbitrary change of the
timetable that keeps what is registered; this is the hypothesis `IsQuiet`, and `isQuiet_drive` says
that the runs of schedules meet it.

* `footing_report`, `footing_broadcast`, `footing_accept`, `footing_conclude` and the like: steps
  that leave a node on its footing.
* `Serves`: steps after which only the requests that wait may differ.
* `Activity.isQuiet_drive`: schedules that run are quiet.
* `course_perform`, `course_step`: everything quiet is such a course.
* `Course.settled`: after which the node is settled again.
-/

set_option autoImplicit false

namespace CommandMesh

/-! ### Timetables -/

/-- What is registered, however it has run. -/
structure Registrations where
  scheduler : Scheduler
  /-- The job of each schedule and the handle that it keeps, by number. -/
  entries : List (Job × Option Nat)
  tracked : List Nat
  driven : List (Nat × Nat)
  nextHandle : Nat

namespace Timetable

variable {t t' : Timetable}

/-- What a timetable has registered. -/
def registrations (t : Timetable) : Registrations where
  scheduler := t.scheduler
  entries := t.schedules.map fun s => (s.job, s.handle)
  tracked := t.tracked
  driven := t.driven
  nextHandle := t.nextHandle

/-- The job and the handle of a schedule are part of what is registered. -/
theorem entry_eq (t : Timetable) (n : Nat) :
    (t.find? n).map (fun s => (s.job, s.handle)) = t.registrations.entries[n]? :=
  List.getElem?_map.symm

/-- What is registered alike is found alike. -/
theorem find?_congr (h : t'.registrations = t.registrations) (n : Nat) :
    (t'.find? n).map (fun s => (s.job, s.handle)) = (t.find? n).map fun s => (s.job, s.handle) := by
  rw [entry_eq, entry_eq, h]

/-- What is registered alike is restricted to the master alike. -/
theorem isMasterOnly_congr (h : t'.registrations = t.registrations) (n : Nat) :
    t'.isMasterOnly n = t.isMasterOnly n := by
  have hentry := congrArg (Option.any (·.1.masterOnly)) (find?_congr h n)
  rwa [Option.any_map, Option.any_map] at hentry

/-- Whether the scheduler is in step depends on what is registered alone. -/
theorem InStep.congr (ht : t.InStep) (h : t'.registrations = t.registrations) : t'.InStep := by
  have hlength : t'.schedules.length = t.schedules.length := by
    have hentries := congrArg (·.entries.length) h
    rwa [registrations, registrations, List.length_map, List.length_map] at hentries
  -- A schedule has the same handle if the same is registered.
  have hhandle (n : Nat) : t'.handleOf n = t.handleOf n := by
    have hentry := congrArg (Option.bind · (·.2)) (find?_congr h n)
    rwa [Option.bind_map, Option.bind_map] at hentry
  have htracked : t'.tracked = t.tracked := congrArg (·.tracked) h
  have hdriven : t'.driven = t.driven := congrArg (·.driven) h
  refine ⟨⟨htracked ▸ ht.sound.once, ?_⟩, ?_, ?_, hdriven ▸ ht.distinct, ?_⟩
  · rw [htracked, hlength]
    exact ht.sound.made
  · rw [Timetable.registered, hdriven, htracked,
      show t'.scheduler = t.scheduler from congrArg (·.scheduler) h]
    exact ht.registered
  · intro d hd
    rw [hhandle]
    exact ht.kept d (hdriven ▸ hd)
  · intro d hd
    rw [show t'.nextHandle = t.nextHandle from congrArg (·.nextHandle) h]
    exact ht.fresh d (hdriven ▸ hd)

/-- A schedule that runs, ends a run or skips one stays registered as it is. -/
theorem registrations_update {f : Schedule → Schedule}
    (hf : ∀ s, (f s).job = s.job ∧ (f s).handle = s.handle) (t : Timetable) (n : Nat) :
    (t.update n f).registrations = t.registrations := by
  have hentries : (t.schedules.modify n f).map (fun s => (s.job, s.handle)) =
      t.schedules.map fun s => (s.job, s.handle) := by
    refine List.ext_getElem? fun m => ?_
    rw [List.getElem?_map, List.getElem?_map, List.getElem?_modify]
    cases t.schedules[m]? with
    | none => rfl
    | some s =>
      by_cases hm : n = m
      · simp [hm, hf s]
      · simp [hm]
  unfold registrations update
  rw [hentries]

/-- To call a schedule leaves it registered as it is. -/
theorem registrations_call (t : Timetable) (n : Nat) (now : Instant) :
    (t.call n now).1.registrations = t.registrations := by
  unfold call
  cases t.find? n with
  | none => rfl
  | some s =>
    refine registrations_update (fun s => ?_) t n
    show (s.begin now).1.job = s.job ∧ (s.begin now).1.handle = s.handle
    unfold Schedule.begin
    split <;> exact ⟨rfl, rfl⟩

end Timetable

/-! ### Footings -/

/-- What a node stands on. -/
structure Footing where
  setup : Setup
  running : Bool
  pumping : Bool
  held : Bool
  ownRoutes : List RoutePattern
  routes : List (Route Handler)
  registrations : Registrations
  waitlist : Waitlist
  candidate : Candidate

namespace Node

variable {n n' m : Node} {α : Type}

/-- The footing of a node. -/
def footing (n : Node) : Footing where
  setup := n.setup
  running := n.running
  pumping := n.pumping
  held := n.mastersHeld
  ownRoutes := n.ownRoutes
  routes := n.roster.router.routes
  registrations := n.roster.timetable.registrations
  waitlist := n.waitlist
  candidate := n.candidate

/-- What is the master's is in place exactly while the node is master. -/
def Settled (n : Node) : Prop := n.mastersHeld = n.isMaster

/-- Requests make no difference to that, nor does a part in the election that leaves mastership as
it is. -/
theorem Settled.of_footing {w : Waitlist} {c : Candidate} (hn : n.Settled)
    (h : n'.footing = { n.footing with waitlist := w, candidate := c })
    (hc : c.isActive = n.isMaster) : n'.Settled := by
  have hheld : n'.mastersHeld = n.mastersHeld := congrArg (·.held) h
  have hmaster : n'.isMaster = c.isActive := congrArg (·.candidate.isActive) h
  rw [Settled, hheld, hmaster, hc]
  exact hn

/-- Whether a node is settled depends on its footing alone. -/
theorem Settled.congr (hn : n.Settled) (h : n'.footing = n.footing) : n'.Settled :=
  hn.of_footing (w := n.waitlist) (c := n.candidate) h rfl

/-! ### Steps that leave a node on its footing -/

/-- To write into the log leaves a node on its footing. -/
theorem footing_report (n : Node) (entry : LogEntry) : (n.report entry).footing = n.footing := by
  unfold report
  split <;> rfl

/-- The response that tells of a fault leaves a node on its footing. -/
theorem footing_faultResponse (n : Node) (id context error : String) :
    (n.faultResponse (α := α) id context error).1.footing = n.footing :=
  footing_report _ _

/-- To send a message leaves a node on its footing. -/
theorem footing_emit {e : Envelope} (h : n.emit e = .ok n') : n'.footing = n.footing := by
  unfold emit submit at h
  split at h
  · rw [← Except.ok.inj h]
    rfl
  · split at h
    · rw [← Except.ok.inj h]
      rfl
    · cases h

/-- To send a message, or to log that it could not be sent, leaves a node on its footing. -/
theorem footing_emitOrReport (n : Node) (e : Envelope) (text : String) :
    (n.emitOrReport e text).footing = n.footing := by
  unfold emitOrReport
  cases h : n.emit e with
  | ok n' => exact footing_emit h
  | error reason => exact footing_report _ _

/-- To send the responses of a handler leaves a node on its footing. -/
theorem footing_emitAll (n : Node) (e : Envelope) (responses : List Envelope) :
    (n.emitAll e responses).footing = n.footing := by
  unfold emitAll
  induction responses generalizing n with
  | nil => rfl
  | cons r responses ih => rw [List.foldl_cons, ih, footing_emitOrReport]

/-- An announcement leaves a node on its footing. -/
theorem footing_broadcast (n : Node) (a : Announcement) : (n.broadcast a).footing = n.footing := by
  rw [broadcast_eq]
  unfold submit
  cases hlink : n.setup.link with
  | bus => simp only [hlink, footing]
  | dead reason =>
    simp only [hlink]
    exact footing_report _ _

/-- To take a message up leaves a node on its footing. -/
theorem footing_accept (n : Node) (e : Envelope) (now : Instant) :
    (n.accept e now).1.footing = n.footing := by
  have hroutes := n.roster.router.routes_resolve e.header
  cases hfound : (n.roster.router.resolve e.header).2 with
  | none =>
    rw [accept_of_none hfound, footing_report]
    simp only [footing, hroutes]
  | some route =>
    rw [accept_of_some hfound]
    simp only [footing, called, Router.count, hroutes]

/-- To run a handler of the host leaves a node on its footing. -/
theorem footing_startRun (n : Node) (h : HostHandler) (r : Request) :
    (n.startRun h r).1.footing = n.footing := by
  unfold startRun
  cases h.tag <;> rfl

/-- To deal with what a handler gave leaves a node on its footing. -/
theorem footing_conclude (n : Node) (route : Route Handler) (e : Envelope)
    (result : Except Fault (List Envelope)) :
    (n.conclude route e result).1.footing = n.footing := by
  cases result with
  | ok responses => exact n.footing_emitAll e responses
  | error f =>
    rw [conclude_error]
    cases n.faultReply e with
    | none => rfl
    | some reply => exact footing_emitOrReport _ _ _

/-! ### Requests -/

/-- Requests come and go, and nothing else changes. -/
structure Serves (n n' : Node) : Prop where
  footing : n'.footing = { n.footing with waitlist := n'.waitlist }
  tidy : n.waitlist.Tidy → n'.waitlist.Tidy

/-- What leaves a node on its footing leaves the requests alone. -/
theorem Serves.of_footing (h : n'.footing = n.footing) : n.Serves n' := by
  have hlist : n'.waitlist = n.waitlist := congrArg (·.waitlist) h
  exact ⟨by rw [h, hlist]; rfl, fun htidy => hlist ▸ htidy⟩

/-- What only concerns requests in two steps only concerns requests. -/
theorem Serves.trans (h : n.Serves m) (h' : m.Serves n') : n.Serves n' := by
  refine ⟨?_, fun htidy => h'.tidy (h.tidy htidy)⟩
  rw [h'.footing, h.footing]

/-- What an operation on the waitlist does. -/
theorem serves_perform (n : Node) (now : Instant) (op : WaitlistOp) :
    n.Serves { n with waitlist := (n.waitlist.perform now op).1 } :=
  ⟨rfl, fun htidy => htidy.perform now op⟩

/-- To take an answer only concerns requests. -/
theorem serves_takeAnswer (n : Node) (e : Envelope) : n.Serves (n.takeAnswer e) := by
  have hlist := n.waitlist_takeAnswer e 0
  cases hid : e.inReplyTo with
  | none =>
    have hsame : n.takeAnswer e = n := by simp only [takeAnswer, hid]
    exact Serves.of_footing (by rw [hsame])
  | some id =>
    have htaken : n.takeAnswer e = { n with waitlist := (n.takeAnswer e).waitlist } := by
      simp only [takeAnswer, hid]
    simp only [hid] at hlist
    rw [htaken, hlist]
    exact n.serves_perform 0 (.complete id e)

/-- To cancel a request only concerns requests. -/
theorem serves_cancelSend (n : Node) (id : String) : n.Serves (n.cancelSend id) := by
  have hserves := n.serves_perform 0 (.cancel id)
  rwa [← n.waitlist_cancelSend id 0] at hserves

/-- To throw an outcome away only concerns requests. -/
theorem serves_discard (n : Node) (ticket : Nat) : n.Serves (n.discard ticket) :=
  ⟨rfl, fun htidy => ⟨htidy.keyed, htidy.normal⟩⟩

/-- To take a request back only concerns requests. -/
theorem serves_retractSend (n : Node) (id : String) (ticket : Option Nat) :
    n.Serves (n.retractSend id ticket) := by
  cases ticket with
  | none => exact n.serves_cancelSend id
  | some ticket => exact (n.serves_cancelSend id).trans (serves_discard _ ticket)

/-- To dispatch a message only concerns requests, whether it can be sent or not. -/
theorem serves_dispatch (n : Node) (options : SendOptions) (e : Envelope) (now : Instant) :
    n.Serves (n.dispatch (α := α) options e now).1 := by
  unfold dispatch
  dsimp only
  have hop := n.serves_perform now (.register (Text.correlationForm e.key) e
    (options.wait.getD n.setup.policy.requestSpan) (!options.detached))
  unfold Waitlist.perform at hop
  dsimp only at hop
  cases hregister : n.waitlist.register now (Text.correlationForm e.key) e
      (options.wait.getD n.setup.policy.requestSpan) (!options.detached) with
  | error f => exact Serves.of_footing rfl
  | ok registered =>
    obtain ⟨waitlist, ticket⟩ := registered
    rw [hregister] at hop
    dsimp only at hop ⊢
    cases hemit : ({ n with waitlist } : Node).emit e with
    | error reason =>
      -- What could not be sent is withdrawn again, and that is logged.
      have hretracted := hop.trans (serves_retractSend _ (Text.correlationForm e.key) ticket)
      have hlogged := footing_faultResponse (α := α)
        (({ n with waitlist } : Node).retractSend (Text.correlationForm e.key) ticket)
        (Text.correlationForm e.key) "Dispatch failed" reason
      exact hretracted.trans (Serves.of_footing hlogged)
    | ok m =>
      have hsent := hop.trans (Serves.of_footing (footing_emit hemit))
      cases ticket <;> exact hsent

/-- To begin a request only concerns requests. -/
theorem serves_beginSend (n : Node) (l : Letter) (now : Instant) :
    n.Serves (n.beginSend (α := α) l now).1 := by
  unfold beginSend
  split
  · exact Serves.of_footing rfl
  · cases l.body with
    | error f => exact Serves.of_footing rfl
    | ok body =>
      have hdrawn : n.Serves (n.draw (n.requestMessage l body)).1 := Serves.of_footing rfl
      exact hdrawn.trans (serves_dispatch _ l.options _ now)

/-- To take an outcome only concerns requests. -/
theorem serves_takeOutcome (n : Node) (p : Pending) : n.Serves (n.takeOutcome p).1 := by
  unfold takeOutcome
  split
  · exact n.serves_discard p.ticket
  · exact Serves.of_footing rfl

/-- To look for an outcome, or to withdraw a request, only concerns requests. -/
theorem serves_resumeSend (n : Node) (p : Pending) (cancelled : Bool) (first : Glance) :
    n.Serves (n.resumeSend p cancelled first).1 := by
  unfold resumeSend
  dsimp only
  split
  · exact (n.serves_cancelSend p.id).trans (serves_takeOutcome _ p)
  · exact n.serves_takeOutcome p

/-- To make a response of an outcome leaves a node on its footing. -/
theorem footing_settleSend (n : Node) (read : List UInt8 → Except Failure α) (p : Pending)
    (o : Outcome) : (n.settleSend read p o).1.footing = n.footing := by
  cases o with
  | timedOut => rfl
  | cancelled => rfl
  | answered e =>
    unfold settleSend
    dsimp only
    split
    · rfl
    · cases read e.body with
      | ok a => rfl
      | error f => exact footing_faultResponse _ _ _ _

/-- To go on with a request only concerns requests. -/
theorem serves_continueSend (n : Node) (read : List UInt8 → Except Failure α) (p : Pending)
    (cancelled : Bool) (first : Glance) :
    n.Serves (n.continueSend read p cancelled first).1 := by
  have hresumed := n.serves_resumeSend p cancelled first
  cases h : n.resumeSend p cancelled first with
  | mk m o =>
    rw [h] at hresumed
    -- A caller that finds nothing has done no more than to look.
    cases o with
    | none => rwa [continueSend_of_none h]
    | some o =>
      rw [continueSend_of_some h]
      exact hresumed.trans (Serves.of_footing (footing_settleSend m read p o))

/-! ### Mastership -/

/-- A message of the election changes the part in the election, and if that makes the node master or
unmakes it, there is a consequence that tells so. -/
theorem footing_hear (n : Node) (e : Envelope) (now : Instant) :
    ∃ c, (n.hear e now).1.footing = { n.footing with candidate := c } ∧
      (c.isActive = n.isMaster ∨
        ∃ x ∈ (n.hear e now).2, Candidate.tellsOfMastership x = true) := by
  unfold hear Candidate.process
  cases Announcement.ofText e.action with
  | error f => exact ⟨n.candidate, footing_report _ _, Or.inl rfl⟩
  | ok a => exact ⟨_, rfl, n.candidate.isActive_hear _ _ a now⟩

/-- A settled node has nothing to bring in line. -/
theorem syncMasters_of_settled (h : n.Settled) : n.syncMasters = n := if_pos h

/-- A node that has brought things in line is settled. -/
theorem settled_syncMasters (n : Node) : n.syncMasters.Settled := n.mastersHeld_syncMasters

/-- A settled node that carries consequences out stays as it is. -/
theorem footing_carryOutAll_of_settled (h : n.Settled) (cs : List Consequence) :
    (n.carryOutAll cs).footing = n.footing := by
  unfold carryOutAll
  -- Each consequence leaves the node on its footing, and so settled for the next one.
  induction cs generalizing n with
  | nil => rfl
  | cons x cs ih =>
    have hfirst : (n.carryOut x).footing = n.footing := by
      cases x with
      | broadcast a => exact n.footing_broadcast a
      | promoted =>
        show (if n.isMaster then n.broadcast .iAmMaster else n).syncMasters.footing = n.footing
        split
        · have hsame := n.footing_broadcast .iAmMaster
          rw [syncMasters_of_settled (h.congr hsame), hsame]
        · rw [syncMasters_of_settled h]
      | demoted => exact congrArg footing (syncMasters_of_settled h)
    rw [List.foldl_cons, ih (h.congr hfirst), hfirst]

/-- If a consequence tells of mastership, what is the master's is brought in line once. -/
theorem footing_carryOutAll_of_tells {cs : List Consequence}
    (h : ∃ x ∈ cs, Candidate.tellsOfMastership x = true) (n : Node) :
    ∃ m : Node, m.footing = n.footing ∧
      (n.carryOutAll cs).footing = m.syncMasters.footing := by
  -- The first consequence that tells of it does all; after that the node is settled.
  induction cs generalizing n with
  | nil => simp at h
  | cons x cs ih =>
    have hrest (m : Node) : (m.syncMasters.carryOutAll cs).footing = m.syncMasters.footing :=
      footing_carryOutAll_of_settled m.settled_syncMasters cs
    cases x with
    | broadcast a =>
      have htells : ∃ x ∈ cs, Candidate.tellsOfMastership x = true := by
        simpa [Candidate.tellsOfMastership] using h
      obtain ⟨m, hm, hlast⟩ := ih htells (n.broadcast a)
      exact ⟨m, hm.trans (n.footing_broadcast a), hlast⟩
    | promoted =>
      refine ⟨if n.isMaster then n.broadcast .iAmMaster else n, ?_, hrest _⟩
      split
      · exact n.footing_broadcast .iAmMaster
      · rfl
    | demoted => exact ⟨n, rfl, hrest n⟩

/-- What a settled node may come to, short of starting, stopping and what its host registers or
removes. -/
inductive Course (n n' : Node) : Prop where
  /-- It stays on its footing, but for requests and its part in the election. -/
  | rests {w : Waitlist} {c : Candidate} :
      n'.footing = { n.footing with waitlist := w, candidate := c } →
      (n.waitlist.Tidy → w.Tidy) → c.isActive = n.isMaster → Course n n'
  /-- It becomes master, and puts what is the master's in place. -/
  | takes {m : Node} {c : Candidate} : m.footing = { n.footing with candidate := c } →
      n.isMaster = false → c.isActive = true → n'.footing = m.holdMasters.footing → Course n n'
  /-- It is master no more, and removes what is the master's. -/
  | yields {m : Node} {c : Candidate} : m.footing = { n.footing with candidate := c } →
      n.isMaster = true → c.isActive = false → n'.footing = m.releaseMasters.footing → Course n n'

/-- What only concerns requests lets a node rest. -/
theorem Course.of_serves (h : n.Serves n') : n.Course n' :=
  .rests (c := n.candidate) h.footing h.tidy rfl

/-- What leaves a node on its footing lets it rest. -/
theorem Course.of_footing (h : n'.footing = n.footing) : n.Course n' :=
  .of_serves (.of_footing h)

/-- To bring what is the master's in line is such a course. -/
theorem Course.of_sync (hn : n.Settled) {c : Candidate}
    (hm : m.footing = { n.footing with candidate := c })
    (hn' : n'.footing = m.syncMasters.footing) : n.Course n' := by
  have hheld : m.mastersHeld = n.mastersHeld := congrArg (·.held) hm
  have hmaster : m.isMaster = c.isActive := congrArg (·.candidate.isActive) hm
  -- Whether there is anything to bring in line depends on whether mastership has changed.
  by_cases hsame : c.isActive = n.isMaster
  · -- Mastership is as before, so there is nothing to bring in line.
    have hsettled : m.Settled := hn.of_footing (w := n.waitlist) hm hsame
    rw [syncMasters_of_settled hsettled, hm] at hn'
    exact .rests hn' id hsame
  · have hne : ¬ m.mastersHeld = m.isMaster := by
      rw [hheld, hmaster, show n.mastersHeld = n.isMaster from hn]
      exact Ne.symm hsame
    have hbefore : n.isMaster = !c.isActive := by
      cases hc : c.isActive <;> simpa [hc] using hsame
    unfold syncMasters at hn'
    rw [if_neg hne, hmaster] at hn'
    cases hactive : c.isActive with
    | true =>
      rw [hactive, if_pos rfl] at hn'
      exact .takes hm (by rw [hbefore, hactive]; rfl) hactive hn'
    | false =>
      rw [hactive, if_neg Bool.false_ne_true] at hn'
      exact .yields hm (by rw [hbefore, hactive]; rfl) hactive hn'

/-- After such a course the node is settled again. -/
theorem Course.settled (h : n.Course n') (hn : n.Settled) : n'.Settled := by
  -- A node that takes or yields mastership has noted so last of all.
  cases h with
  | rests hfooting _ hc => exact hn.of_footing hfooting hc
  | @takes m c hm _ hc hfooting =>
    have hheld : n'.mastersHeld = true := congrArg (·.held) hfooting
    have hcandidate : m.candidate = c := congrArg (·.candidate) hm
    have hmaster : n'.isMaster = m.candidate.isActive := congrArg (·.candidate.isActive) hfooting
    rw [Settled, hheld, hmaster, hcandidate, hc]
  | @yields m c hm _ hc hfooting =>
    have hheld : n'.mastersHeld = false := congrArg (·.held) hfooting
    have hcandidate : m.candidate = c := congrArg (·.candidate) hm
    have hmaster : n'.isMaster = m.candidate.isActive := congrArg (·.candidate.isActive) hfooting
    rw [Settled, hheld, hmaster, hcandidate, hc]

/-- A message of the election, with what follows from it, is a course of a settled node. -/
theorem course_election (hn : n.Settled) (e : Envelope) (now : Instant) :
    n.Course ((n.hear e now).1.carryOutAll (n.hear e now).2) := by
  obtain ⟨c, hheard, hc⟩ := n.footing_hear e now
  generalize n.hear e now = heard at hheard hc ⊢
  obtain ⟨m, cs⟩ := heard
  by_cases hsame : c.isActive = n.isMaster
  · have hsettled : m.Settled := hn.of_footing (w := n.waitlist) hheard hsame
    exact .rests ((footing_carryOutAll_of_settled hsettled cs).trans hheard) id hsame
  · -- A change of mastership has a consequence that tells of it.
    obtain ⟨m', hm', hlast⟩ := footing_carryOutAll_of_tells (hc.resolve_left hsame) m
    exact .of_sync hn (hm'.trans hheard) hlast

/-- That a node becomes master or resigns, if it can, is a course of it. -/
theorem course_turn (hn : n.Settled) (next : Option Candidate) (a : Announcement) :
    n.Course ((next.map fun candidate =>
      ({ n with candidate }.broadcast a).syncMasters).getD n) := by
  cases next with
  | none => exact .of_footing rfl
  | some c => exact .of_sync hn (footing_broadcast { n with candidate := c } a) rfl

end Node

/-! ### Quiet steps -/

/-- The node is neither started nor stopped, and its host registers and removes nothing. What its
schedules do when they run leaves them registered. -/
def Activity.IsQuiet : Activity → Prop
  | .start | .stop _ | .addRoute _ _ _ _ | .removeRoute _ _ | .addJob _ | .removeJob _ => False
  | .drive f => ∀ t : Timetable, (f t).registrations = t.registrations
  | .handle _ _ _ | .draw _ | .poll _ _ | .startMaster _ | .stopMaster _ | .sweep _ | .send _ _
  | .resume _ _ _ _ | .flush | .pump | .inspect => True

/-- To run schedules is quiet: one begins a run, ends it or has it cut short, and its work moves a
meter. -/
theorem Activity.isQuiet_drive (n : Nat) (now : Instant) (e : Ending) (k : Nat)
    (f : Meter → Meter) :
    (Activity.drive fun t => (t.call n now).1).IsQuiet ∧
      (Activity.drive fun t => t.update n (·.finish e)).IsQuiet ∧
      (Activity.drive fun t => t.update n Schedule.drop).IsQuiet ∧
      (Activity.drive fun t => t.setMeter k f).IsQuiet := by
  have hkept {g : Schedule → Schedule} (hg : ∀ s, (g s).job = s.job ∧ (g s).handle = s.handle) :
      (Activity.drive fun t => t.update n g).IsQuiet :=
    fun t => Timetable.registrations_update hg t n
  exact ⟨fun t => t.registrations_call n now, hkept fun _ => ⟨rfl, rfl⟩, hkept fun _ => ⟨rfl, rfl⟩,
    fun _ => rfl⟩

/-- A message is taken up, a handler ends, or the node does something that is quiet. -/
def Reception.Move.IsQuiet : Reception.Move → Prop
  | .take _ _ | .finish _ _ => True
  | .meanwhile a => a.IsQuiet

namespace Node

variable {n : Node}

/-- To run a handler, whichever it is, is a course of a settled node. -/
theorem course_handle (hn : n.Settled) (h : Handler) (r : Request) (now : Instant) :
    n.Course (n.handle h r now).1 := by
  cases h with
  | answers => exact .of_serves (n.serves_takeAnswer r.message)
  | election =>
    have hcourse := course_election hn r.message now
    have hhandle : (n.handle .election r now).1 =
        (n.hear r.message now).1.carryOutAll (n.hear r.message now).2 := by
      unfold handle
      rcases n.hear r.message now with ⟨m, cs⟩
      rfl
    rwa [hhandle]
  | host h => exact .of_footing (n.footing_startRun h r)

/-- Everything quiet that a settled node does is a course of it. -/
theorem course_perform (hn : n.Settled) {a : Activity} (ha : a.IsQuiet) :
    n.Course (n.perform a).1 := by
  cases a with
  | handle h r now => exact course_handle hn h r now
  | draw f => exact .of_footing rfl
  | poll now draw =>
    have hactive := n.candidate.isActive_poll now draw
    -- A poll changes the part in the election before it announces anything.
    have htick : (n.poll now draw).1.footing =
        { n.footing with candidate := (n.candidate.poll now draw).1 } := by
      unfold poll tick
      rcases n.candidate.poll now draw with ⟨c, _ | a⟩
      · rfl
      · exact footing_broadcast _ a
    exact .rests htick id hactive
  | startMaster now => exact course_turn hn (n.candidate.activate now) .iAmMaster
  | stopMaster now => exact course_turn hn (n.candidate.deactivate now) .resyncMaster
  | sweep now => exact .of_serves (n.serves_perform now .sweep)
  | drive f =>
    refine .of_footing ?_
    simp only [perform, footing, ha n.roster.timetable]
  | send l now => exact .of_serves (n.serves_beginSend l now)
  | resume read p cancelled first => exact .of_serves (n.serves_continueSend read p cancelled first)
  | flush => exact .of_footing rfl
  | pump => exact .of_footing rfl
  | inspect => exact .of_footing rfl
  | start | stop | addRoute | removeRoute | addJob | removeJob => exact ha.elim

end Node

namespace Reception

/-- To take a message up leaves the node on its footing. -/
theorem footing_take (r : Reception) (e : Envelope) (now : Instant) :
    (r.step (.take e now)).node.footing = r.node.footing := by
  -- Whatever becomes of the message, the node is the one that took it up.
  have hnode : (r.step (.take e now)).node = (r.node.accept e now).1 := by
    simp only [step]
    split <;> simp_all
  rw [hnode]
  exact r.node.footing_accept e now

/-- So does the end of a handler. -/
theorem footing_finish (r : Reception) (i : Nat) (result : Except Fault (List Envelope)) :
    (r.step (.finish i result)).node.footing = r.node.footing := by
  cases hentry : r.inHand[i]? with
  | none => simp only [step, hentry]
  | some x =>
    rw [step_finish hentry]
    exact r.node.footing_conclude x.2 x.1 result

/-- Only what the node does meanwhile changes its footing. -/
theorem footing_step (r : Reception) (m : Move) :
    (∃ a, m = .meanwhile a) ∨ (r.step m).node.footing = r.node.footing := by
  cases m with
  | take e now => exact Or.inr (r.footing_take e now)
  | finish i result => exact Or.inr (r.footing_finish i result)
  | meanwhile a => exact Or.inl ⟨a, rfl⟩

/-- Everything quiet that happens to a settled node is a course of it. -/
theorem course_step {r : Reception} (hr : r.node.Settled) {m : Move} (hm : m.IsQuiet) :
    r.node.Course (r.step m).node := by
  rcases r.footing_step m with ⟨a, rfl⟩ | hfooting
  · exact Node.course_perform hr hm
  · exact .of_footing hfooting

end Reception

end CommandMesh
