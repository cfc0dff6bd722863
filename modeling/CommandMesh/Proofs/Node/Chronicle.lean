import CommandMesh.Proofs.Node.Editing
import CommandMesh.Proofs.Node.Guard
import CommandMesh.Proofs.Roster.Narration

/-!
# `CommandMesh.Proofs.Node.Chronicle`: observers can tell what a node has registered

A `Chronicle` is a node at work, with what its host has seen of it from the beginning. A
`Chronicle.Move` is anything that the node may do next, and besides that observers subscribe and
change their minds about what they refuse.

Observers that were there when the node was built are told of the routes of the host as well, so
they can tell from nothing at all what there is. An observer that subscribes later has missed what
was there then. Places are those in the order of subscription, and no observer ever leaves. An
observer may refuse any notice, and refuse it or not at different times; a refusal leads nowhere.

The host takes note of what the node has told by looking at it now and then, which empties the
journal of the node. So the history is what the host took note of before (`past`) and what is in the
journal still. The bodies of schedules are supposed to leave the registrations alone, as those that
a node drives itself do.

`Chronicle.Informs` says of the observer at one place that what it was told leads from nothing to
the routes and jobs that there are. It is kept by every move, because whatever a node does to its
roster is a sequence of edits and each of them is narrated. The theorems:

* `Informs.of_build`: a node that was just built has told its observers of its routes.
* `Informs.step`, `informs_run`: whatever a node does next, it tells them.
* `observers_rebuild_tables`: so at every moment each of them knows the routes in their order, and
  the jobs, whatever any of them answers.
-/

set_option autoImplicit false

namespace CommandMesh

/-- What is told of tracked schedules depends on the registrations only. -/
theorem Timetable.titles_congr {t t' : Timetable} (h : t'.registrations = t.registrations) :
    t'.titles = t.titles := by
  have htitle (n : Nat) : t'.titleOf? n = t.titleOf? n := by
    have hentry := (t'.entry_eq n).trans ((congrArg (·.entries[n]?) h).trans (t.entry_eq n).symm)
    have hnamed :=
      congrArg (Option.map fun x : Job × Option Nat => (x.1.name, x.1.masterOnly)) hentry
    rwa [Option.map_map, Option.map_map] at hnamed
  unfold titles
  rw [show t'.tracked = t.tracked from congrArg (·.tracked) h, funext htitle]

/-- A node with the routes of its host, and observers that were told of them. -/
theorem Blueprint.narrates_build {b : Blueprint} {supply : Supply} {now : Instant} {n : Node}
    (h : b.build supply now = .ok n) :
    (Roster.create b.policy.routeCacheCapacity.toNat (b.scheduler.getD .timed)
      b.observers).Narrates n.roster := by
  unfold build at h
  dsimp only at h
  split at h
  · simp at h
  · split at h
    · simp at h
    · rw [← Except.ok.inj h]
      exact (Roster.edits_addRoutes _ _ _ false b.handlers).narrates
        ⟨List.nodup_nil, by simp [Roster.create]⟩

/-- A node at work, and what its host had seen when it last took note. -/
structure Chronicle where
  reception : Reception
  past : List Event := []

namespace Chronicle

/-- What may happen next. -/
inductive Move where
  /-- The node takes a message up, a handler ends, or the node does anything else. -/
  | goes (m : Reception.Move)
  /-- Another observer subscribes. -/
  | subscribe (o : Observer)
  /-- The observers, by their places, answer notices in another way from now on. -/
  | minds (refuses : Nat → Notice → Bool)

/-- What the schedules of the node do when they run leaves them registered. -/
def Move.KeepsRegistrations : Move → Prop
  | .goes m => m.KeepsRegistrations
  | .subscribe _ | .minds _ => True

/-- The node. -/
def node (c : Chronicle) : Node := c.reception.node

/-- All that the host has seen. -/
def history (c : Chronicle) : List Event := c.past ++ c.node.roster.journal

/-- Changes what is on the roster of the node. -/
def onRoster (c : Chronicle) (f : Roster Handler → Roster Handler) : Chronicle :=
  { c with reception := { c.reception with node := { c.node with roster := f c.node.roster } } }

/-- What a move does. -/
def step (c : Chronicle) : Move → Chronicle
  | .goes (.meanwhile .inspect) => ⟨c.reception.step (.meanwhile .inspect), c.history⟩
  | .goes m => { c with reception := c.reception.step m }
  | .subscribe o => c.onRoster (·.subscribe o)
  | .minds refuses => c.onRoster fun r =>
    { r with observers := r.observers.mapIdx fun place o => { o with refuses := refuses place } }

/-- Moves in turn. -/
def run (c : Chronicle) (ms : List Move) : Chronicle := ms.foldl step c

/-- Moves with one more at the end are that one after the others. -/
theorem run_append_singleton (c : Chronicle) (ms : List Move) (m : Move) :
    c.run (ms ++ [m]) = (c.run ms).step m := by
  simp [run]

/-- The node is in order, an attentive observer is at that place, and it was told what leads from
nothing to what is registered. -/
structure Informs (place : Nat) (c : Chronicle) : Prop where
  orderly : c.node.Orderly
  attends : ∃ o, c.node.roster.observers[place]? = some o ∧ o.attentive = true
  rebuilt : ({} : Tables).heedAll (heardAt place c.history) = some c.node.roster.tables

section Informs

variable {place : Nat} {c c' : Chronicle}

/-- What is told between two moments is what changes. -/
theorem Informs.of_narrates (h : Informs place c) (horderly : c'.node.Orderly)
    (hpast : c'.past = c.past) (hroster : c.node.roster.Narrates c'.node.roster) :
    Informs place c' := by
  obtain ⟨o, hplace, hattentive⟩ := h.attends
  obtain ⟨es, hjournal, htold⟩ := hroster.told
  refine ⟨horderly, ⟨o, hroster.observers ▸ hplace, hattentive⟩, ?_⟩
  -- What is new in the journal is what is told in between.
  have hhistory : c'.history = c.history ++ es := by
    rw [history, hpast, hjournal, ← List.append_assoc, history]
  rw [hhistory, heardAt_append, Tables.heedAll_append, h.rebuilt]
  exact htold place o hplace hattentive

/-- Nothing changes, and nothing is told. -/
theorem Informs.of_eq (h : Informs place c) (horderly : c'.node.Orderly)
    (hobservers : c'.node.roster.observers = c.node.roster.observers)
    (hhistory : c'.history = c.history) (htables : c'.node.roster.tables = c.node.roster.tables) :
    Informs place c' :=
  ⟨horderly, hobservers ▸ h.attends, by rw [hhistory, htables]; exact h.rebuilt⟩

/-- What becomes of a message that is taken up is told. -/
theorem Informs.take (h : Informs place c) (e : Envelope) (now : Instant) :
    Informs place (c.step (.goes (.take e now))) := by
  -- Whatever becomes of the message, the node is what `Node.accept` makes of it.
  have hnode : (c.reception.step (.take e now)).node = (c.node.accept e now).1 := by
    show (Reception.step _ _).node = (c.reception.node.accept e now).1
    cases hfound : (c.reception.node.roster.router.resolve e.header).2 with
    | none => rw [Reception.step_take_of_none hfound]
    | some route =>
      cases hrefuses : route.handler.refuses (c.reception.node.requestOf e) with
      | true => rw [Reception.step_take_of_refuses hfound hrefuses, Node.accept_of_some hfound]
      | false => rw [Reception.step_take_of_runs hfound hrefuses, Node.accept_of_some hfound]
  have hsound : Reception.Sound c.node c.reception := ⟨rfl, h.orderly⟩
  refine h.of_narrates (hsound.step (m := .take e now) trivial).orderly rfl ?_
  show c.node.roster.Narrates (c.reception.step (.take e now)).node.roster
  rw [hnode]
  exact (c.node.edits_accept e now).narrates h.orderly.inStep.sound

/-- What becomes of a handler that ends is told. -/
theorem Informs.finish (h : Informs place c) (k : Nat) (result : Except Fault (List Envelope)) :
    Informs place (c.step (.goes (.finish k result))) := by
  have hsound : Reception.Sound c.node c.reception := ⟨rfl, h.orderly⟩
  refine h.of_narrates (hsound.step (m := .finish k result) trivial).orderly rfl ?_
  show c.node.roster.Narrates (c.reception.step (.finish k result)).node.roster
  cases hentry : c.reception.inHand[k]? with
  | none =>
    have hsame : c.reception.step (.finish k result) = c.reception := by
      simp only [Reception.step, hentry]
    rw [hsame]
    exact .refl _
  | some x =>
    rw [Reception.step_finish hentry]
    exact (c.node.edits_conclude x.2 x.1 result).narrates h.orderly.inStep.sound

/-- Whatever else the node does is told. -/
theorem Informs.meanwhile (h : Informs place c) {a : Activity} (ha : a.KeepsRegistrations) :
    Informs place (c.step (.goes (.meanwhile a))) := by
  have hsound : Reception.Sound c.node c.reception := ⟨rfl, h.orderly⟩
  have horderly := (hsound.step (m := .meanwhile a) ha).orderly
  have hordinary (hordinary : a.IsOrdinary) :=
    (c.node.edits_perform hordinary).narrates h.orderly.inStep.sound
  cases a with
  | inspect =>
    -- What the host takes note of moves from the journal to the past.
    exact h.of_eq horderly rfl (List.append_nil _) rfl
  | drive f =>
    -- Running schedules tells nobody anything and leaves names and restrictions alone.
    refine h.of_eq horderly rfl rfl ?_
    exact congrArg (Tables.mk _) (Timetable.titles_congr (ha _))
  | handle | draw | poll | startMaster | stopMaster | start | stop | sweep | addRoute | removeRoute
  | addJob | removeJob | send | resume | flush | pump =>
    exact h.of_narrates horderly rfl (hordinary trivial)

/-- Another observer that subscribes does not take the place of one that is there. -/
theorem Informs.subscribe (h : Informs place c) (o : Observer) :
    Informs place (c.step (.subscribe o)) := by
  obtain ⟨o', hplace, hattentive⟩ := h.attends
  refine ⟨⟨h.orderly.settled, h.orderly.inStep⟩, ⟨o', ?_, hattentive⟩, h.rebuilt⟩
  show (c.node.roster.observers ++ [o])[place]? = some o'
  rwa [List.getElem?_append_left (List.getElem?_eq_some_iff.mp hplace).1]

/-- An observer that answers in another way from now on was told the same, and stays attentive. -/
theorem Informs.minds (h : Informs place c) (refuses : Nat → Notice → Bool) :
    Informs place (c.step (.minds refuses)) := by
  obtain ⟨o, hplace, hattentive⟩ := h.attends
  refine ⟨⟨h.orderly.settled, h.orderly.inStep⟩, ⟨{ o with refuses := refuses place }, ?_,
    hattentive⟩, h.rebuilt⟩
  show (c.node.roster.observers.mapIdx _)[place]? = _
  rw [List.getElem?_mapIdx, hplace, Option.map_some]

/-- Whatever happens next, an attentive observer is told of what changes. -/
theorem Informs.step (h : Informs place c) {m : Move} (hm : m.KeepsRegistrations) :
    Informs place (c.step m) := by
  cases m with
  | goes m =>
    cases m with
    | take e now => exact h.take e now
    | finish k result => exact h.finish k result
    | meanwhile a => exact h.meanwhile hm
  | subscribe o => exact h.subscribe o
  | minds refuses => exact h.minds refuses

/-- Throughout a run an attentive observer was told what leads from nothing to what is registered.
-/
theorem informs_run (h : Informs place c) {ms : List Move} (hms : ∀ m ∈ ms, m.KeepsRegistrations) :
    Informs place (c.run ms) := by
  induction ms using List.reverseRecOn with
  | nil => exact h
  | append_singleton ms m ih =>
    rw [List.forall_mem_append, List.forall_mem_singleton] at hms
    rw [run_append_singleton]
    exact (ih hms.1).step hms.2

/-- A node that was just built has told its observers of its routes. -/
theorem Informs.of_build {b : Blueprint} {supply : Supply} {now : Instant} {n : Node}
    (hbuilt : b.build supply now = .ok n) {o : Observer} (hplace : b.observers[place]? = some o)
    (hattentive : o.attentive = true) : Informs place { reception := { node := n } } := by
  obtain ⟨hnew, -⟩ := Blueprint.isNew_of_build hbuilt
  obtain ⟨hobservers, es, hjournal, htold⟩ := Blueprint.narrates_build hbuilt
  refine ⟨⟨hnew.settled, hnew.inStep⟩, ⟨o, hobservers ▸ hplace, hattentive⟩, ?_⟩
  have hhistory : history { reception := { node := n } } = es := hjournal
  rw [hhistory]
  exact htold place o hplace hattentive

end Informs

/-! ### Main result -/

/-- An observer that was there when a node was built can tell at every moment which routes there
are, in their order, and which jobs: it takes note of what comes and strikes out what goes, and what
goes was always there. It does not matter what the node did, who subscribed later, and what any
observer answered. -/
theorem observers_rebuild_tables {b : Blueprint} {supply : Supply} {now : Instant} {n : Node}
    (hbuilt : b.build supply now = .ok n) {ms : List Move}
    (hms : ∀ m ∈ ms, m.KeepsRegistrations) {place : Nat} {o : Observer}
    (hplace : b.observers[place]? = some o) (hattentive : o.attentive = true) :
    let c := run { reception := { node := n } } ms
    ({} : Tables).heedAll (heardAt place c.history) = some
      { routes := c.node.roster.router.routes.map fun r => (r.pattern, r.masterOnly)
        jobs := ↑(c.node.roster.timetable.stats.map fun s => (s.name, s.masterOnly)) } := by
  have hinforms := informs_run (Informs.of_build hbuilt hplace hattentive) hms
  intro c
  rw [hinforms.rebuilt, Roster.tables, Timetable.titles_eq_stats]

/-- A command with a handler, a handler and a job of the master, and two observers, of which the
first refuses every notice. -/
def watchSample : Blueprint where
  name := "billing"
  service := some "a"
  link := some .bus
  observers := [⟨"meter", false, fun _ => true⟩, ⟨"panel", true, fun _ => false⟩]
  handlers := [⟨.of (some "jobs") none none, .answers⟩]
  masterHandlers := [⟨.of (some "jobs") none none, .answers⟩]
  masterJobs := [{ name := "report", timer := .every 1000, body := .sweep }]

/-- The command starts, becomes master and stops. The observer that was told of nine changes can
then tell that the route of its host is the only one that is left. -/
theorem observer_follows_master :
    ∃ n, watchSample.build { scope := 0 } 0 = .ok n ∧
      let ms : List Move := [.goes (.meanwhile .start), .subscribe ⟨"log", true, fun _ => true⟩,
        .goes (.meanwhile (.startMaster 1)), .minds fun _ _ => true,
        .goes (.meanwhile .inspect), .goes (.meanwhile (.stop 2))]
      let c := run { reception := { node := n } } ms
      ({} : Tables).heedAll (heardAt 1 c.history) = some
        { routes := c.node.roster.router.routes.map fun r => (r.pattern, r.masterOnly)
          jobs := ↑(c.node.roster.timetable.stats.map fun s => (s.name, s.masterOnly)) } ∧
      (heardAt 1 c.history).length = 9 ∧ c.node.roster.router.routes.length = 1 := by
  have hstopped : (watchSample.build { scope := 0 } 0).toOption.any (fun n =>
      let ms : List Move := [.goes (.meanwhile .start), .subscribe ⟨"log", true, fun _ => true⟩,
        .goes (.meanwhile (.startMaster 1)), .minds fun _ _ => true,
        .goes (.meanwhile .inspect), .goes (.meanwhile (.stop 2))]
      let c := run { reception := { node := n } } ms
      (heardAt 1 c.history).length == 9 && c.node.roster.router.routes.length == 1) = true := by
    decide +kernel
  simp only [Option.any_eq_true, Bool.and_eq_true, beq_iff_eq] at hstopped
  obtain ⟨n, hbuilt, hheard, hroutes⟩ := hstopped
  have hbuilt := ok_of_toOption hbuilt
  refine ⟨n, hbuilt, observers_rebuild_tables hbuilt ?_ (o := ⟨"panel", true, fun _ => false⟩)
    rfl rfl, hheard, hroutes⟩
  simp [Move.KeepsRegistrations, Reception.Move.KeepsRegistrations, Activity.KeepsRegistrations]

end Chronicle

end CommandMesh
