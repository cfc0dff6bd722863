import CommandMesh.Mesh.Step
import CommandMesh.Proofs.Node.Editing
import CommandMesh.Proofs.Node.Footing

/-!
# `CommandMesh.Proofs.Mesh.Errands`: what a task does when it is taken up

Whatever a task does between two waits, it does by starting tasks, by letting nodes change their
rosters, by calling a schedule or ending a run of it, and by a few changes that concern nobody else.
An `Errand` is one of these changes, made on behalf of the work that is taken up; `Mesh.Errands` are
some of them in turn. Work is about one schedule at most (`Work.subject?`), and only work about a
schedule calls it.

There are seventeen kinds of work and seven kinds of errand, so a property of the mesh that all
errands keep is proved seven times and not seventeen. `Errands.keeps` goes further: for a property
of the tasks, the queue and the clock there are two cases only, since all errands but one leave
these alone.

What a task waits for is told apart from what it does. `Progress.GoesOn` says that work about a
schedule goes on with work about the same schedule, and that it waits for no run but the one that it
has begun. With this the task that drives a schedule and the task of the body that it waits for can
be followed through a run.

The body of a run, and the handlers that a node calls, do what their script says: they take their
time, count and end as they please. What they send on their way, they send at the end.

* `Mesh.errands_run`: all that a task does is errands.
* `Mesh.goesOn_run`: work that has to wait goes on with work about the same schedule, and waits for
  no run but its own.
* `Mesh.Errands.keeps`: an errand starts a task, or it leaves tasks, queue and clock alone. So what
  these two keep is kept by errands.
-/

set_option autoImplicit false

namespace CommandMesh

namespace Work

/-- The schedule that work is about. -/
def subject? : Work → Option (Nat × Nat)
  | .drive i n | .driveFirst i n | .driveTick i n _ _ | .driveRun i n _ _ | .execute i n
  | .executed i n _ => some (i, n)
  | _ => none

end Work

/-- If work has to wait, it goes on with work about that schedule. If it waits for a run, it waited
for that run before, or the body of the run was just started. -/
def Progress.GoesOn (s : Option (Nat × Nat)) (r : Option (Nat × Nat × Nat)) (m : Mesh) :
    Progress → Prop
  | .done _ => True
  | .waits w _ => w.subject? = s ∧ ∀ run, w.runs? = some run →
      r = some run ∨ ∃ t ∈ m.tasks, t.number = run.2.2 ∧ t.work.subject? = none

namespace Schedule

/-- A call changes neither the job nor the handle. -/
theorem kept_begin (s : Schedule) (now : Instant) :
    (s.begin now).1.job = s.job ∧ (s.begin now).1.handle = s.handle := by
  unfold begin
  split <;> exact ⟨rfl, rfl⟩

end Schedule

namespace Timetable

/-- A call that is skipped, or a run that begins. -/
theorem fst_call (t : Timetable) (n : Nat) (now : Instant) :
    (t.call n now).1 = t.update n fun s => (s.begin now).1 := by
  unfold call
  cases hfound : t.find? n with
  | some s => rfl
  -- There is no such schedule, so a call changes nothing, and neither does the update.
  | none =>
    have hbeyond : t.schedules.length ≤ n := List.getElem?_eq_none_iff.mp hfound
    unfold update
    rw [List.modify_eq_self hbeyond]

end Timetable

namespace Mesh

variable {m m' m'' : Mesh} {w : Work}

/-- One change that a task makes on behalf of that work. -/
inductive Errand (w : Work) (m : Mesh) : Mesh → Prop where
  | start (w' : Work) (kept : Bool) : w'.subject? = none ∨ w'.subject? = w.subject? →
      w'.runs? = none → Errand w m (m.spawn w' kept).1
  | node (i : Nat) (f : Node → Node) : (∀ n, Node.Edits n (f n)) →
      (∀ n, Node.Settled n → n.Course (f n)) → Errand w m (m.updateNode i f)
  | schedule (i n : Nat) (f : Schedule → Schedule) : w.subject? = some (i, n) →
      (∀ s, (f s).job = s.job ∧ (f s).handle = s.handle) →
      Errand w m (m.updateTimetable i (·.update n f))
  | meter (i k : Nat) (f : Meter → Meter) : Errand w m (m.updateTimetable i (·.setMeter k f))
  | forget (task : Nat) : Errand w m (m.forget task)
  | choose : Errand w m m.choose.1
  | bus (bus : Bus) : Errand w m { m with bus }

/-- Nothing changes about the tasks, their order and the time. -/
structure SameBoard (m m' : Mesh) : Prop where
  now : m'.now = m.now
  tasks : m'.tasks = m.tasks
  queue : m'.queue = m.queue
  next : m'.next = m.next
  driven : m'.driven = m.driven

/-- Changes in turn. -/
def Errands (w : Work) (m m' : Mesh) : Prop := Relation.ReflTransGen (Errand w) m m'

/-- To do nothing takes no errands. -/
theorem Errands.refl (w : Work) (m : Mesh) : Errands w m m := Relation.ReflTransGen.refl

/-- What is done in two steps by errands is done by errands. -/
theorem Errands.trans (h : Errands w m m') (h' : Errands w m' m'') : Errands w m m'' :=
  Relation.ReflTransGen.trans h h'

/-- One errand is some errands. -/
theorem Errand.errands (h : Errand w m m') : Errands w m m' := .single h

/-- What is kept when tasks are started, and when nothing changes about the tasks, is kept by
errands. -/
theorem Errands.keeps {P : Mesh → Prop} (h : Errands w m m') (hm : P m)
    (hstart : ∀ {m : Mesh} (w' : Work) (kept : Bool),
      w'.subject? = none ∨ w'.subject? = w.subject? → w'.runs? = none → P m →
        P (m.spawn w' kept).1)
    (hboard : ∀ {m m' : Mesh}, SameBoard m m' → P m → P m') : P m' := by
  -- By induction on the errands; only the start of a task touches the board.
  induction h with
  | refl => exact hm
  | @tail m₁ _ _ hlast ih =>
    cases hlast with
    | start w' kept hw' hruns => exact hstart w' kept hw' hruns ih
    | node | schedule | meter | forget | choose | bus =>
      exact hboard (m := m₁) ⟨rfl, rfl, rfl, rfl, rfl⟩ ih

/-- What is done at a node changes that node, if it is there, and nothing else in the mesh. -/
theorem fst_onNode {α : Type} (m : Mesh) (i : Nat) (default : α) (f : Node → Node × α) :
    (m.onNode i default f).1 = m.updateNode i fun n => (f n).1 := by
  unfold onNode updateNode
  cases hnode : m.nodes[i]? with
  | none =>
    -- A node that is not there is not changed, and the mesh stays as it is.
    rw [List.modify_eq_self (List.getElem?_eq_none_iff.mp hnode)]
  | some n =>
    rw [List.modify_eq_set_getElem?, hnode]
    rfl

/-- What is done at a node is an errand if it changes the roster by edits and is a course of the
node once it is settled. -/
theorem errands_onNode {α : Type} {f : Node → Node × α} (h : ∀ n, Node.Edits n (f n).1)
    (hcourse : ∀ n, Node.Settled n → n.Course (f n).1) (m : Mesh) (i : Nat) (default : α) :
    Errands w m (m.onNode i default f).1 := by
  rw [fst_onNode]
  exact (Errand.node i _ h hcourse).errands

/-! ### Messages -/

/-- To start a task for each message takes errands. -/
theorem errands_acceptAll (m : Mesh) (i : Nat) (es : List Envelope) :
    Errands w m (m.acceptAll i es) := by
  unfold acceptAll
  induction es generalizing m with
  | nil => exact .refl w m
  | cons e es ih => exact (Errand.start (.accept i e) false (.inl rfl) rfl).errands.trans (ih _)

/-- To listen empties the inbox of the node and starts a task for each message. -/
theorem errands_runListen (m : Mesh) (i connection : Nat) :
    Errands w m (m.runListen i connection).1 := by
  have hall := (Errand.bus (m.bus.drain connection).2).errands.trans
    (errands_acceptAll (w := w) { m with bus := (m.bus.drain connection).2 } i
      (m.bus.drain connection).1)
  unfold runListen
  dsimp only
  split
  · exact hall
  · exact hall

/-- To pump empties what stays inside the node and starts a task for each message. -/
theorem errands_runPump (m : Mesh) (i : Nat) : Errands w m (m.runPump i).1 := by
  have hemptied := errands_onNode (w := w) (f := fun n => ({ n with loopback := [] }, n.loopback))
    (fun _ => .of_roster rfl) (fun _ _ => .of_footing rfl) m i []
  exact hemptied.trans (errands_acceptAll _ i _)

/-- To take a message up starts a task for its handler, if there is one that runs. -/
theorem errands_runAccept (m : Mesh) (i : Nat) (e : Envelope) :
    Errands w m (m.runAccept i e).1 := by
  have haccept := errands_onNode (w := w) (f := fun n => n.accept e m.now)
    (fun n => n.edits_accept e m.now) (fun n _ => .of_footing (n.footing_accept e m.now))
    m i .unresolved
  unfold runAccept
  -- What the node made of the message is all that counts, so how it did is forgotten here.
  generalize m.onNode i .unresolved (fun n => n.accept e m.now) = accepted at haccept ⊢
  obtain ⟨m', a⟩ := accepted
  -- A message without a route, or with a handler that panics, is done with.
  cases a with
  | unresolved | escaped => exact haccept
  | handling route request =>
    exact haccept.trans (Errand.start (.handle i route.handler request) true (.inl rfl) rfl).errands

/-- The end of a handler draws what its result needs. -/
theorem errands_runHandled (m : Mesh) (i : Nat) (run : HandlerRun) :
    Errands w m (m.runHandled i run).1 :=
  errands_onNode (f := fun n => n.draw run.result) (fun _ => .of_roster rfl)
    (fun _ _ => .of_footing rfl) m i (.ok [])

/-- To run a handler takes errands, and its result is made at once if it takes no time. -/
theorem errands_runHandle (m : Mesh) (i : Nat) (h : Handler) (r : Request) :
    Errands w m (m.runHandle i h r).1 := by
  have hhandle := errands_onNode (w := w) (f := fun n => n.handle h r m.now)
    (fun n => n.edits_handle h r m.now) (fun _ hn => Node.course_handle hn h r m.now)
    m i ⟨0, pure (.ok [])⟩
  unfold runHandle
  generalize m.onNode i ⟨0, pure (.ok [])⟩ (fun n => n.handle h r m.now) = handled at hhandle ⊢
  dsimp only
  split
  · exact hhandle.trans (errands_runHandled handled.1 i handled.2)
  · exact hhandle

/-- To deal with what a handler gave takes its result away and lets the node go on. -/
theorem errands_runConclude (m : Mesh) (i : Nat) (e : Envelope) (route : Route Handler)
    (task : Nat) : Errands w m (m.runConclude i e route task).1 := by
  unfold runConclude
  split
  · next result _ =>
    exact (Errand.forget task).errands.trans
      (errands_onNode (fun n => n.edits_conclude route e result)
        (fun n _ => .of_footing (n.footing_conclude route e result)) (m.forget task) i .unresolved)
  · exact .refl w m

/-! ### Schedules -/

section Schedules

variable {i n : Nat}

/-- To begin a run calls the schedule and starts the task of its body. -/
theorem errands_beginRun (hw : w.subject? = some (i, n)) (m : Mesh) :
    Errands w m (m.beginRun i n).1 := by
  unfold beginRun
  cases m.schedule? i n with
  | none => exact .refl w m
  | some s =>
    -- The call itself is the one change to the schedule.
    have hcall : Errands w m (m.onNode i .skipped fun node =>
        ({ node with roster := { node.roster with
            timetable := (node.roster.timetable.call n m.now).1 } },
          (node.roster.timetable.call n m.now).2)).1 := by
      rw [fst_onNode]
      simp only [Timetable.fst_call]
      exact (Errand.schedule i n _ hw fun s => s.kept_begin m.now).errands
    dsimp only at hcall ⊢
    generalize m.onNode i Calling.skipped _ = called at hcall ⊢
    obtain ⟨m', c⟩ := called
    -- A call that is skipped, or dies, starts no body.
    cases c with
    | skipped | died => exact hcall
    | began => exact hcall.trans (Errand.start (.body i s.job.body) true (.inl rfl) rfl).errands

/-- To end a run takes the result of its body away and counts it. -/
theorem errands_endRun (hw : w.subject? = some (i, n)) {task : Nat}
    (h : m.endRun? i n task = some m') : Errands w m m' := by
  unfold endRun? at h
  split at h
  · next e _ =>
    rw [← Option.some.inj h]
    exact (Errand.forget task).errands.trans
      (Errand.schedule i n (·.finish e) hw fun _ => ⟨rfl, rfl⟩).errands
  · cases h

/-- To run a schedule once takes errands. -/
theorem errands_runExecute (hw : w.subject? = some (i, n)) (m : Mesh) :
    Errands w m (m.runExecute i n).1 := by
  have hbegin := errands_beginRun hw m
  unfold runExecute
  split <;> simp_all

/-- To wait for a run of a schedule takes errands, if the run has ended. -/
theorem errands_runExecuted (hw : w.subject? = some (i, n)) (m : Mesh) (task : Nat) :
    Errands w m (m.runExecuted i n task).1 := by
  unfold runExecuted
  split
  · next hended => exact errands_endRun hw hended
  · exact .refl w m

/-- To wait for the next tick changes nothing. -/
theorem fst_awaitTick (m : Mesh) (i n : Nat) (next : Option (Span × Instant)) :
    (m.awaitTick i n next).1 = m := by
  unfold awaitTick
  split <;> rfl

/-- To run a schedule because its time has come takes errands, whether or not its runs are long. -/
theorem errands_driveOnce (hw : w.subject? = some (i, n)) (m : Mesh)
    (next : Option (Span × Instant)) : Errands w m (m.driveOnce i n next).1 := by
  have hbegin := errands_beginRun hw m
  unfold driveOnce
  split
  · rw [fst_awaitTick]
    -- A long run gets a task of its own, about the same schedule.
    exact (Errand.start (.execute i n) false (.inr hw.symm) rfl).errands
  · split <;> simp_all [fst_awaitTick]

/-- A tick takes errands. -/
theorem errands_runTick (hw : w.subject? = some (i, n)) (m : Mesh) (period : Span)
    (point : Instant) : Errands w m (m.runTick i n period point).1 :=
  errands_driveOnce hw m _

/-- The first run of a schedule that is driven takes errands. -/
theorem errands_runFirst (hw : w.subject? = some (i, n)) (m : Mesh) :
    Errands w m (m.runFirst i n).1 := by
  unfold runFirst
  split
  · exact errands_driveOnce hw m none
  · split
    · exact .refl w m
    · exact errands_runTick hw m _ m.now

/-- To begin to drive a schedule takes errands. -/
theorem errands_runDrive (hw : w.subject? = some (i, n)) (m : Mesh) :
    Errands w m (m.runDrive i n).1 := by
  unfold runDrive
  split
  · exact .refl w m
  · dsimp only
    split
    · exact errands_runFirst hw m
    · exact .refl w m

/-- To go on with a schedule after a run takes errands. -/
theorem errands_runDriveRun (hw : w.subject? = some (i, n)) (m : Mesh) (task : Nat)
    (next : Option (Span × Instant)) : Errands w m (m.runDriveRun i n task next).1 := by
  unfold runDriveRun
  split
  · exact .refl w m
  · next m' hended =>
    have hend := errands_endRun hw hended
    -- The next tick may be due already; then it follows at once.
    split
    · split
      · exact hend.trans (errands_runTick hw m' _ _)
      · rw [fst_awaitTick]
        exact hend
    · rw [fst_awaitTick]
      exact hend

end Schedules

/-- A body that is done moves its meter. -/
theorem errands_runBodyDone (m : Mesh) (i meter : Nat) (e : Ending) :
    Errands w m (m.runBodyDone i meter e).1 :=
  (Errand.meter i meter _).errands

/-- A body sweeps, polls or does the work of the host. -/
theorem errands_runBody (m : Mesh) (i : Nat) (b : Body) : Errands w m (m.runBody i b).1 := by
  cases b with
  | sweep =>
    exact (Errand.node i (·.sweep m.now) (fun _ => .of_roster rfl)
      fun n hn => Node.course_perform (a := .sweep m.now) hn trivial).errands
  | poll =>
    exact Errand.choose.errands.trans (Errand.node i (fun n => (n.poll m.now m.choose.2).1)
      (fun n => .of_roster (n.roster_poll _ _))
      fun n hn => Node.course_perform (a := .poll m.now m.choose.2) hn trivial).errands
  | host meter conduct =>
    have hbegun : Errands w m (m.onNode i 0 fun n =>
        ({ n with roster := { n.roster with
            timetable := n.roster.timetable.setMeter meter fun c =>
              { c with begun := c.begun + 1 } } },
          (n.roster.timetable.meter meter).begun)).1 := by
      rw [fst_onNode]
      exact (Errand.meter i meter _).errands
    unfold runBody
    dsimp only at hbegun ⊢
    split
    · exact hbegun.trans (errands_runBodyDone _ i meter _)
    · exact hbegun

/-! ### Calls -/

/-- What follows a response makes a random choice at most, for the next pause. -/
theorem errands_afterResponse (m : Mesh) (c : CallState) (r : Response Json) :
    Errands w m (m.afterResponse c r).1 := by
  unfold afterResponse
  split
  · exact .refl w m
  · split
    · exact .refl w m
    · dsimp only
      split <;> exact Errand.choose.errands

/-- A caller that waits looks whether it can go on. -/
theorem errands_runCallWaits (m : Mesh) (c : CallState) (p : Pending) (withdrawn : Bool) :
    Errands w m (m.runCallWaits c p withdrawn).1 := by
  unfold runCallWaits
  dsimp only
  -- A choice decides what the caller sees first, if its outcome and its cancellation are both
  -- there.
  have hresume := Errand.choose.errands.trans (errands_onNode (w := w)
    (fun n => .of_roster (n.roster_continueSend c.call.read p
      (!withdrawn && m.choose.1.isCancelled c.call.token) (glance m.choose.2)))
    (fun n _ => .of_serves (n.serves_continueSend c.call.read p
      (!withdrawn && m.choose.1.isCancelled c.call.token) (glance m.choose.2)))
    m.choose.1 c.call.node none)
  unfold resumeCall
  generalize Mesh.onNode m.choose.1 c.call.node none _ = resumed at hresume ⊢
  obtain ⟨m', r⟩ := resumed
  cases r with
  | none => exact hresume
  | some r => exact hresume.trans (errands_afterResponse m' c r)

/-- An attempt begins a request and looks at once whether it can go on. -/
theorem errands_attempt (m : Mesh) (c : CallState) : Errands w m (m.attempt c).1 := by
  have hbegin := errands_onNode (w := w)
    (fun n => .of_roster (n.roster_beginSend (α := Json) c.call.letter m.now))
    (fun n _ => .of_serves (n.serves_beginSend (α := Json) c.call.letter m.now))
    m c.call.node (.failed (.notStarted ""))
  unfold attempt
  dsimp only
  generalize m.onNode c.call.node _ _ = begun at hbegin ⊢
  obtain ⟨m', s⟩ := begun
  cases s with
  | failed f => exact hbegin
  | ended r => exact hbegin.trans (errands_afterResponse m' c r)
  -- The caller looks once before it waits, since it may have been cancelled already.
  | waits p => exact hbegin.trans (errands_runCallWaits m' c p false)

/-- A call makes its next attempt, unless it was cancelled in a pause. -/
theorem errands_runCall (m : Mesh) (c : CallState) : Errands w m (m.runCall c).1 := by
  unfold runCall
  split
  · exact errands_attempt m c
  · dsimp only
    split
    · exact errands_onNode (f := fun n => n.draw c.retry.attempt.cancelled)
        (fun _ => .of_roster rfl) (fun _ _ => .of_footing rfl) m c.call.node _
    · exact errands_attempt m _

/-! ### Any task -/

/-- All that a task does is errands on behalf of its work. -/
theorem errands_run (m : Mesh) (w : Work) : Errands w m (m.run w).1 := by
  cases w with
  | listen i connection => exact errands_runListen m i connection
  | pump i => exact errands_runPump m i
  | accept i e => exact errands_runAccept m i e
  | handle i h r => exact errands_runHandle m i h r
  | handled i run => exact errands_runHandled m i run
  | conclude i e route task => exact errands_runConclude m i e route task
  | drive i n => exact errands_runDrive rfl m
  | driveFirst i n => exact errands_runFirst rfl m
  | driveTick i n period point => exact errands_runTick rfl m period point
  | driveRun i n task next => exact errands_runDriveRun rfl m task next
  | execute i n => exact errands_runExecute rfl m
  | executed i n task => exact errands_runExecuted rfl m task
  | body i b => exact errands_runBody m i b
  | bodyDone i meter e => exact errands_runBodyDone m i meter e
  | call c | callAgain c => exact errands_runCall m c
  | callWaits c p withdrawn => exact errands_runCallWaits m c p withdrawn

/-! ### What a task waits for -/

section GoesOn

variable {i n : Nat} {r : Option (Nat × Nat × Nat)}

/-- To wait for the next tick is about the same schedule and waits for no run. -/
theorem goesOn_awaitTick (m m' : Mesh) (i n : Nat) (next : Option (Span × Instant)) :
    (m.awaitTick i n next).2.GoesOn (some (i, n)) r m' := by
  unfold awaitTick
  split
  · trivial
  · exact ⟨rfl, nofun⟩

/-- A run that begins has a body of its own. -/
theorem exists_body_of_beginRun {task : Nat} (h : m.beginRun i n = (m', .ok (some task))) :
    ∃ t ∈ m'.tasks, t.number = task ∧ t.work.subject? = none := by
  unfold beginRun at h
  dsimp only at h
  split at h
  · simp at h
  · split at h
    · simp at h
    · simp at h
    · obtain ⟨rfl, hnumber⟩ := Prod.mk.inj h
      obtain rfl := Option.some.inj (Except.ok.inj hnumber)
      -- The task of the body stands last on the board.
      exact ⟨_, List.mem_append_right _ (List.mem_singleton_self _), rfl, rfl⟩

/-- A schedule that is run because its time has come waits for the run that it has just begun, or
for the next tick. -/
theorem goesOn_driveOnce (m : Mesh) (i n : Nat) (next : Option (Span × Instant)) :
    (m.driveOnce i n next).2.GoesOn (some (i, n)) r (m.driveOnce i n next).1 := by
  unfold driveOnce
  -- A long run is a task of its own, and is not waited for.
  split
  · exact goesOn_awaitTick _ _ i n next
  · split
    · trivial
    · exact goesOn_awaitTick _ _ i n next
    · next m' task hbegun =>
      refine ⟨rfl, fun run hrun => .inr ?_⟩
      rw [← Option.some.inj hrun]
      exact exists_body_of_beginRun hbegun

/-- The first run of a schedule goes on about that schedule. -/
theorem goesOn_runFirst (m : Mesh) (i n : Nat) :
    (m.runFirst i n).2.GoesOn (some (i, n)) r (m.runFirst i n).1 := by
  unfold runFirst
  split
  · exact goesOn_driveOnce m i n none
  · split
    · trivial
    · exact goesOn_driveOnce m i n _

/-- Whoever begins to drive a schedule goes on about that schedule. -/
theorem goesOn_runDrive (m : Mesh) (i n : Nat) :
    (m.runDrive i n).2.GoesOn (some (i, n)) r (m.runDrive i n).1 := by
  unfold runDrive
  split
  · trivial
  · dsimp only
    split
    · exact goesOn_runFirst m i n
    · exact ⟨rfl, nofun⟩

/-- Whoever waits for a run of a schedule goes on to wait for it, or about that schedule. -/
theorem goesOn_runDriveRun (m : Mesh) (i n task : Nat) (next : Option (Span × Instant)) :
    (m.runDriveRun i n task next).2.GoesOn (some (i, n)) (some (i, n, task))
      (m.runDriveRun i n task next).1 := by
  unfold runDriveRun
  split
  · -- The run has not ended, and it is waited for again.
    exact ⟨rfl, fun run hrun => .inl hrun⟩
  · split
    · split
      · exact goesOn_driveOnce _ i n _
      · exact goesOn_awaitTick _ _ i n _
    · exact goesOn_awaitTick _ _ i n none

/-- Whoever runs a schedule once waits for the run that it has just begun. -/
theorem goesOn_runExecute (m : Mesh) (i n : Nat) :
    (m.runExecute i n).2.GoesOn (some (i, n)) r (m.runExecute i n).1 := by
  unfold runExecute
  split
  · trivial
  · trivial
  · next m' task hbegun =>
    refine ⟨rfl, fun run hrun => .inr ?_⟩
    rw [← Option.some.inj hrun]
    exact exists_body_of_beginRun hbegun

/-- Whoever waits for a run goes on to wait for the same run. -/
theorem goesOn_runExecuted (m : Mesh) (i n task : Nat) :
    (m.runExecuted i n task).2.GoesOn (some (i, n)) (some (i, n, task))
      (m.runExecuted i n task).1 := by
  unfold runExecuted
  split
  · trivial
  · exact ⟨rfl, fun run hrun => .inl hrun⟩

/-- What follows a response is about no schedule. -/
theorem goesOn_afterResponse (m m' : Mesh) (c : CallState) (a : Response Json) :
    (m.afterResponse c a).2.GoesOn none r m' := by
  unfold afterResponse endCall
  split
  · trivial
  · split
    · trivial
    · dsimp only
      split
      · trivial
      · exact ⟨rfl, nofun⟩

/-- A caller that waits is about no schedule. -/
theorem goesOn_runCallWaits (m m' : Mesh) (c : CallState) (p : Pending) (withdrawn : Bool) :
    (m.runCallWaits c p withdrawn).2.GoesOn none r m' := by
  unfold runCallWaits
  dsimp only
  split
  · exact goesOn_afterResponse _ m' c _
  · exact ⟨rfl, nofun⟩

/-- An attempt is about no schedule. -/
theorem goesOn_attempt (m m' : Mesh) (c : CallState) : (m.attempt c).2.GoesOn none r m' := by
  unfold attempt endCall
  dsimp only
  split
  · trivial
  · exact goesOn_afterResponse _ m' c _
  · exact goesOn_runCallWaits _ m' c _ false

/-- A call is about no schedule. -/
theorem goesOn_runCall (m m' : Mesh) (c : CallState) : (m.runCall c).2.GoesOn none r m' := by
  unfold runCall endCall
  split
  · exact goesOn_attempt m m' c
  · dsimp only
    split
    · trivial
    · exact goesOn_attempt m m' _

/-- A task that listens goes on to listen, unless its connection is gone. -/
theorem goesOn_runListen (m m' : Mesh) (i connection : Nat) :
    (m.runListen i connection).2.GoesOn none r m' := by
  unfold runListen
  dsimp only
  split
  · exact ⟨rfl, nofun⟩
  · trivial

/-- A message that is taken up is waited for if its handler runs. -/
theorem goesOn_runAccept (m m' : Mesh) (i : Nat) (e : Envelope) :
    (m.runAccept i e).2.GoesOn none r m' := by
  unfold runAccept
  dsimp only
  split
  · trivial
  · trivial
  · exact ⟨rfl, nofun⟩

/-- A handler that takes its time waits for the time to pass. -/
theorem goesOn_runHandle (m m' : Mesh) (i : Nat) (h : Handler) (q : Request) :
    (m.runHandle i h q).2.GoesOn none r m' := by
  unfold runHandle
  dsimp only
  split
  · trivial
  · exact ⟨rfl, nofun⟩

/-- A message whose handler has not ended is waited for. -/
theorem goesOn_runConclude (m m' : Mesh) (i : Nat) (e : Envelope) (route : Route Handler)
    (task : Nat) : (m.runConclude i e route task).2.GoesOn none r m' := by
  unfold runConclude
  split
  · trivial
  · exact ⟨rfl, nofun⟩

/-- The body of a run that takes its time waits for the time to pass. -/
theorem goesOn_runBody (m m' : Mesh) (i : Nat) (b : Body) :
    (m.runBody i b).2.GoesOn none r m' := by
  cases b with
  | sweep | poll => trivial
  | host meter conduct =>
    unfold runBody
    dsimp only
    split
    · trivial
    · exact ⟨rfl, nofun⟩

/-- Work that has to wait goes on with work about the same schedule, and waits for the same run or
for one that it has begun. -/
theorem goesOn_run (m : Mesh) (w : Work) : (m.run w).2.GoesOn w.subject? w.runs? (m.run w).1 := by
  cases w with
  | listen i connection => exact goesOn_runListen m _ i connection
  | pump i => exact ⟨rfl, nofun⟩
  | accept i e => exact goesOn_runAccept m _ i e
  | handle i h r => exact goesOn_runHandle m _ i h r
  | handled i run => trivial
  | conclude i e route task => exact goesOn_runConclude m _ i e route task
  | drive i n => exact goesOn_runDrive m i n
  | driveFirst i n => exact goesOn_runFirst m i n
  | driveTick i n period point => exact goesOn_driveOnce m i n _
  | driveRun i n task next => exact goesOn_runDriveRun m i n task next
  | execute i n => exact goesOn_runExecute m i n
  | executed i n task => exact goesOn_runExecuted m i n task
  | body i b => exact goesOn_runBody m _ i b
  | bodyDone i meter e => trivial
  | call c | callAgain c => exact goesOn_runCall m _ c
  | callWaits c p withdrawn => exact goesOn_runCallWaits m _ c p withdrawn

end GoesOn

end Mesh

end CommandMesh
