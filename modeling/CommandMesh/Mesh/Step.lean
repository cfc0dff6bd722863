import CommandMesh.Mesh.Basic

/-!
# `CommandMesh.Mesh.Step`: taking up a task

`Mesh.run` takes up a task at the point where it waited and goes on until it ends or has to wait
again. Everything that it does on the way to that point happens at one instant and without another
task in between.

There is a function for each point of `Work`. Those that only wait for a result ask for it again
when they are taken up, and wait on if it is not there; so it does no harm to take a task up too
early. A task that waits for the run of a schedule owns it: when it is dropped, the run is dropped
with it and the body is told to stop. A body that panics as it is called takes the task with it that
has called it, and leaves the flag of its schedule set.

`Mesh.takeUp` is a whole step: the task goes on or stops, that is noted, and the mesh is brought in
line.
-/

set_option autoImplicit false

namespace CommandMesh

namespace Mesh

/-! ### Messages -/

/-- Starts a task for each message. -/
def acceptAll (m : Mesh) (node : Nat) (es : List Envelope) : Mesh :=
  m.launchAll (es.map (.accept node))

/-- Takes up what a connection has received. Ends with the connection. -/
def runListen (m : Mesh) (node connection : Nat) : Mesh × Progress :=
  let (es, bus) := m.bus.drain connection
  -- What has come is taken up even if the connection has ended meanwhile.
  let m := { m with bus }.acceptAll node es
  if bus.isOpen connection then (m, .waits (.listen node connection) (.message connection))
  else (m, .done .finished)

/-- Takes up the messages inside a node. -/
def runPump (m : Mesh) (node : Nat) : Mesh × Progress :=
  let (m, es) := m.onNode node [] fun n => ({ n with loopback := [] }, n.loopback)
  (m.acceptAll node es, .waits (.pump node) (.loopback node))

/-- Finds the route of a message and starts its handler. -/
def runAccept (m : Mesh) (node : Nat) (e : Envelope) : Mesh × Progress :=
  let (m, a) := m.onNode node .unresolved fun n => n.accept e m.now
  match a with
  | .unresolved => (m, .done (.disposed .unresolved))
  | .escaped => (m, .done .died)
  | .handling route request =>
    let (m, task) := m.spawn (.handle node route.handler request) true
    (m, .waits (.conclude node e route task) (.result task))

/-- Lets a handler's run give its result. -/
def runHandled (m : Mesh) (node : Nat) (run : HandlerRun) : Mesh × Progress :=
  let (m, result) := m.onNode node (.ok []) fun n => n.draw run.result
  (m, .done (.handled result))

/-- Runs a handler. -/
def runHandle (m : Mesh) (node : Nat) (h : Handler) (r : Request) : Mesh × Progress :=
  let (m, run) := m.onNode node ⟨0, pure (.ok [])⟩ fun n => n.handle h r m.now
  -- A run without a delay ends before any other task is taken up.
  if run.delay = 0 then m.runHandled node run
  else (m, .waits (.handled node run) (.time (m.now + run.delay)))

/-- Deals with what a handler gave. -/
def runConclude (m : Mesh) (node : Nat) (e : Envelope) (route : Route Handler) (task : Nat) :
    Mesh × Progress :=
  match m.result? task with
  | some (.handled result) =>
    let (m, d) := (m.forget task).onNode node .unresolved fun n => n.conclude route e result
    (m, .done (.disposed d))
  | _ => (m, .waits (.conclude node e route task) (.result task))

/-! ### Schedules -/

/-- Calls a schedule. Gives the task of the run if one began, or says that the body panicked when it
was called. -/
def beginRun (m : Mesh) (node schedule : Nat) : Mesh × Except Unit (Option Nat) :=
  match m.schedule? node schedule with
  | none => (m, .ok none)
  | some s =>
    let (m, c) := m.onNode node .skipped fun n =>
      let (timetable, c) := n.roster.timetable.call schedule m.now
      ({ n with roster := { n.roster with timetable } }, c)
    match c with
    | .skipped => (m, .ok none)
    | .died => (m, .error ())
    | .began =>
      let (m, task) := m.spawn (.body node s.job.body) true
      (m, .ok (some task))

/-- Counts a run that has ended, if it has. -/
def endRun? (m : Mesh) (node schedule task : Nat) : Option Mesh :=
  match m.result? task with
  | some (.ended e) =>
    some ((m.forget task).updateTimetable node fun t => t.update schedule (·.finish e))
  | _ => none

/-- Runs a schedule once. -/
def runExecute (m : Mesh) (node schedule : Nat) : Mesh × Progress :=
  match m.beginRun node schedule with
  | (m, .error ()) => (m, .done .died)
  | (m, .ok none) => (m, .done .finished)
  | (m, .ok (some task)) => (m, .waits (.executed node schedule task) (.result task))

/-- Ends a run. -/
def runExecuted (m : Mesh) (node schedule task : Nat) : Mesh × Progress :=
  match m.endRun? node schedule task with
  | some m => (m, .done .finished)
  | none => (m, .waits (.executed node schedule task) (.result task))

/-- Waits for the next point of a grid, or ends if there is none. -/
def awaitTick (m : Mesh) (node schedule : Nat) (next : Option (Span × Instant)) : Mesh × Progress :=
  match next with
  | none => (m, .done .finished)
  | some (period, point) => (m, .waits (.driveTick node schedule period point) (.time point))

/-- Runs a schedule because of the clock. The clock goes on during a run that may be long, and waits
for any other. -/
def driveOnce (m : Mesh) (node schedule : Nat) (next : Option (Span × Instant)) :
    Mesh × Progress :=
  if (m.schedule? node schedule).any (·.job.longRunning) then
    -- The run is a task of its own, which goes on when the schedule is removed.
    (m.launch (.execute node schedule)).awaitTick node schedule next
  else
    match m.beginRun node schedule with
    | (m, .error ()) => (m, .done .died)
    | (m, .ok none) => m.awaitTick node schedule next
    | (m, .ok (some task)) => (m, .waits (.driveRun node schedule task next) (.result task))

/-- Runs a schedule at a point of its grid, or later if the run before has lasted longer. -/
def runTick (m : Mesh) (node schedule : Nat) (period : Span) (point : Instant) : Mesh × Progress :=
  m.driveOnce node schedule (some (period, Timer.nextTick period point m.now))

/-- Runs a schedule for the first time. A job cannot repeat without any time in between. -/
def runFirst (m : Mesh) (node schedule : Nat) : Mesh × Progress :=
  match (m.schedule? node schedule).bind (·.job.timer.interval) with
  | none => m.driveOnce node schedule none
  | some period =>
    if period = 0 then (m, .done .died) else m.runTick node schedule period m.now

/-- Begins to drive a schedule. -/
def runDrive (m : Mesh) (node schedule : Nat) : Mesh × Progress :=
  match m.schedule? node schedule with
  | none => (m, .done .finished)
  | some s =>
    let delay := s.job.timer.firstDelay m.now
    if delay = 0 then m.runFirst node schedule
    else (m, .waits (.driveFirst node schedule) (.time (m.now + delay)))

/-- Goes on after a run that the clock has waited for. -/
def runDriveRun (m : Mesh) (node schedule task : Nat) (next : Option (Span × Instant)) :
    Mesh × Progress :=
  match m.endRun? node schedule task with
  | none => (m, .waits (.driveRun node schedule task next) (.result task))
  | some m =>
    match next with
    | some (period, point) =>
      -- A point that was missed is made up for at once.
      if point ≤ m.now then m.runTick node schedule period point
      else m.awaitTick node schedule next
    | none => m.awaitTick node schedule next

/-! ### Bodies of jobs -/

/-- Ends a run of work of the host. -/
def runBodyDone (m : Mesh) (node meter : Nat) (e : Ending) : Mesh × Progress :=
  let m := m.updateTimetable node fun t =>
    t.setMeter meter fun c => if e = .ok then { c with done := c.done + 1 } else c
  (m, .done (.ended e))

/-- Does what a job does. -/
def runBody (m : Mesh) (node : Nat) (b : Body) : Mesh × Progress :=
  match b with
  | .sweep => (m.updateNode node (·.sweep m.now), .done (.ended .ok))
  | .poll =>
    let (m, draw) := m.choose
    (m.updateNode node fun n => (n.poll m.now draw).1, .done (.ended .ok))
  | .host meter conduct =>
    let (m, runs) := m.onNode node 0 fun n =>
      let t := n.roster.timetable
      ({ n with roster := { n.roster with
          timetable := t.setMeter meter fun c => { c with begun := c.begun + 1 } } },
        (t.meter meter).begun)
    -- Runs are counted as they begin, also those that are dropped later.
    let course := conduct.course runs
    if course.duration = 0 then m.runBodyDone node meter course.ending
    else (m, .waits (.bodyDone node meter course.ending) (.time (m.now + course.duration)))

/-! ### Calls -/

/-- Ends a call. -/
def endCall (m : Mesh) (c : CallState) (result : Except Failure (Response Json)) :
    Mesh × Progress :=
  (m, .done (.called ⟨result, m.now - c.since⟩))

/-- Goes on after the response to an attempt. -/
def afterResponse (m : Mesh) (c : CallState) (r : Response Json) : Mesh × Progress :=
  if !c.call.repeated then m.endCall c (.ok r)
  else
    match m.nodes[c.call.node]? with
    | none => m.endCall c (.ok r)
    | some n =>
      let (m, draw) := m.choose
      match c.retry.after n.setup.policy.retry r draw with
      | (retry, .done r) => m.endCall { c with retry } (.ok r)
      | (retry, .pause s) =>
        let c := { c with retry }
        (m, .waits (.callAgain c) (.timeOr (m.now + s) c.call.token))

/-- Goes on with a request that waits, and reads its answer if there is one. -/
def resumeCall (m : Mesh) (c : CallState) (p : Pending) (cancelled : Bool) (first : Glance) :
    Mesh × Option (Response Json) :=
  m.onNode c.call.node none fun n => n.continueSend c.call.read p cancelled first

/-- What a random choice makes a caller look at first. -/
def glance (draw : Nat) : Glance := if draw % 2 = 0 then .outcome else .cancellation

/-- Waits for the outcome of a request, or until its caller cancels it. -/
def runCallWaits (m : Mesh) (c : CallState) (p : Pending) (withdrawn : Bool) : Mesh × Progress :=
  let (m, draw) := m.choose
  let cancelled := !withdrawn && m.isCancelled c.call.token
  match m.resumeCall c p cancelled (glance draw) with
  | (m, some r) => m.afterResponse c r
  | (m, none) =>
    -- A token counts once. After that only the outcome is waited for.
    let withdrawn := withdrawn || cancelled
    let token := if withdrawn then none else c.call.token
    (m, .waits (.callWaits c p withdrawn) (.outcome c.call.node p.ticket token))

/-- Makes an attempt at a request. -/
def attempt (m : Mesh) (c : CallState) : Mesh × Progress :=
  let (m, s) := m.onNode c.call.node (.failed (.notStarted "")) fun n =>
    n.beginSend c.call.letter m.now
  match s with
  | .failed f => m.endCall c (.error f)
  | .ended r => m.afterResponse c r
  | .waits p => m.runCallWaits c p false

/-- Makes an attempt at a request, unless it is a repeated one that was cancelled in between. -/
def runCall (m : Mesh) (c : CallState) : Mesh × Progress :=
  if !c.call.repeated then m.attempt c
  else
    -- The attempt is counted before the token is looked at.
    let c := { c with retry := c.retry.attempt }
    if m.isCancelled c.call.token then
      let (m, r) := m.onNode c.call.node (Node.cancelledResponse "") fun n =>
        n.draw c.retry.cancelled
      m.endCall c (.ok r)
    else m.attempt c

/-! ### Any task -/

/-- Takes up work and goes on until it ends or has to wait. -/
def run (m : Mesh) : Work → Mesh × Progress
  | .listen node connection => m.runListen node connection
  | .pump node => m.runPump node
  | .accept node e => m.runAccept node e
  | .handle node h r => m.runHandle node h r
  | .handled node run => m.runHandled node run
  | .conclude node e route task => m.runConclude node e route task
  | .drive node schedule => m.runDrive node schedule
  | .driveFirst node schedule => m.runFirst node schedule
  | .driveTick node schedule period point => m.runTick node schedule period point
  | .driveRun node schedule task next => m.runDriveRun node schedule task next
  | .execute node schedule => m.runExecute node schedule
  | .executed node schedule task => m.runExecuted node schedule task
  | .body node b => m.runBody node b
  | .bodyDone node meter e => m.runBodyDone node meter e
  | .call c | .callAgain c => m.runCall c
  | .callWaits c p withdrawn => m.runCallWaits c p withdrawn

/-- Notes how far a task got. -/
def note (m : Mesh) (t : Task) (p : Progress) : Mesh :=
  match p with
  | .waits work wait =>
    { m with tasks := m.tasks.map fun u =>
        if u.number = t.number then { u with work, wait := some wait } else u }
  | .done r =>
    { m with
      tasks := m.tasks.filter (·.number != t.number)
      results := if t.kept then (t.number, r) :: m.results else m.results }

/-- Drops a task. If it waits for a run of a schedule, the run is dropped with it, and the body is
told to stop. -/
def discard (m : Mesh) (t : Task) : Mesh :=
  let m := { m with tasks := m.tasks.filter (·.number != t.number) }
  match t.work.runs? with
  | none => m
  | some (node, schedule, body) =>
    -- Whoever waits for a run owns it, so the run ends with the waiting.
    ((m.forget body).halt fun number _ => number == body).updateTimetable node fun tt =>
      tt.update schedule Schedule.drop

/-- Takes up a task, which goes on or stops. -/
def takeUp (m : Mesh) (number : Nat) : Mesh :=
  let m := { m with queue := m.queue.erase number }
  match m.task? number with
  | none => m
  | some t =>
    if t.halted then (m.discard t).settle
    else
      let (m, p) := m.run t.work
      (m.note t p).settle

/-- Takes up the first task of the queue. `none` if no task can go on. -/
def step? (m : Mesh) : Option Mesh := m.queue.head?.map m.takeUp

end Mesh

end CommandMesh
