import CommandMesh.Proofs.Roster.Enrolment
import Mathlib.Logic.Relation

/-!
# `CommandMesh.Proofs.Roster.Edits`: the ways in which a roster changes

Whatever a node does to its roster, it does by adding and removing routes and jobs, by looking up
and counting routes, and by noting what its host sees. An `Edit` is one of these changes and
`Roster.Edits` are some of them in turn, so that what every edit keeps is kept by all that a node
does.

This is the frame rule for rosters. A property of routes and jobs is proved of the six edits, once,
and then holds of every function of a node, since each of these is shown to be made of edits without
a look at the property. A seventh edit would have to be added only if a node did something to its
roster that none of the six is.

Runs of schedules are no edits, since they change what a schedule has counted; nor is it one that
the host takes note of its journal. An edit that notes something may note anything but what
observers are told: these come with the changes that they tell of, and a narration can be checked
against them.

* `edits_addRoutes`, `edits_removeRoutes`: routes that are added or removed in turn.
* `edits_removeJobs`, `edits_startMasterJobs`, `edits_stopMasterJobs`: jobs likewise.
* `Edits.sound`: every tracked schedule still exists and is tracked once.
-/

set_option autoImplicit false

namespace CommandMesh

/-- Whether an event is a notice to an observer. -/
def Event.isNotice : Event → Bool
  | .noticed _ _ _ => true
  | _ => false

namespace Roster

variable {H : Type} {α : Type} {r r' s : Roster H}

/-- One change of a roster. -/
inductive Edit (r : Roster H) : Roster H → Prop where
  | addRoute (pattern : RoutePattern) (handler : H) (reference : Option String)
      (masterOnly : Bool) : Edit r (r.addRoute pattern handler reference masterOnly).1
  | removeRoute (pattern : RoutePattern) (masterOnly : Bool) :
      Edit r ((r.removeRoute pattern masterOnly).getD r)
  | addJob (job : Job) : Edit r (r.addJob job).1
  | removeJob (n : Nat) : Edit r ((r.removeJob n).getD r)
  /-- Routes are looked up or counted, and stay as they are. -/
  | consult (router : Router H) : router.routes = r.router.routes → Edit r { r with router }
  /-- The host sees something that no observer is told. -/
  | note (es : List Event) : (∀ e ∈ es, e.isNotice = false) → Edit r (r.record es)

/-- Changes of a roster in turn. -/
def Edits (r r' : Roster H) : Prop := Relation.ReflTransGen Edit r r'

/-- To do nothing makes no edits. -/
theorem Edits.refl (r : Roster H) : r.Edits r := Relation.ReflTransGen.refl

/-- What is done in two steps by edits is done by edits. -/
theorem Edits.trans (h : r.Edits r') (h' : r'.Edits s) : r.Edits s :=
  Relation.ReflTransGen.trans h h'

/-- One edit is some edits. -/
theorem Edit.edits (h : r.Edit r') : r.Edits r' := .single h

/-- A roster that is the same was changed by no edits. -/
theorem Edits.of_eq (h : r' = r) : r.Edits r' := h ▸ .refl r

/-- What is done for each member of a list in turn is done by edits if each part is. -/
theorem edits_foldl {f : Roster H → α → Roster H} (h : ∀ r a, Edits r (f r a)) (r : Roster H)
    (as : List α) : r.Edits (as.foldl f r) := by
  induction as generalizing r with
  | nil => exact .refl r
  | cons a as ih => exact (h r a).trans (ih (f r a))

/-- Routes that are added in turn are added by edits. -/
theorem edits_addRoutes (r : Roster H) (pattern : α → RoutePattern) (handler : α → H)
    (masterOnly : Bool) (as : List α) :
    r.Edits (as.foldl (fun r a => (r.addRoute (pattern a) (handler a) none masterOnly).1) r) :=
  edits_foldl (fun _ _ => (Edit.addRoute ..).edits) r as

/-- Routes that are removed in turn are removed by edits. -/
theorem edits_removeRoutes (r : Roster H) (pattern : α → RoutePattern) (masterOnly : Bool)
    (as : List α) :
    r.Edits (as.foldl (fun r a => (r.removeRoute (pattern a) masterOnly).getD r) r) :=
  edits_foldl (fun _ _ => (Edit.removeRoute ..).edits) r as

/-- The jobs of the master are started by edits. -/
theorem edits_startMasterJobs (r : Roster H) (jobs : List Job) :
    r.Edits (r.startMasterJobs jobs).1 :=
  edits_foldl (fun _ _ => (Edit.addJob _).edits) r jobs

/-- Jobs that are removed in turn are removed by edits. -/
theorem edits_removeJobs (r : Roster H) (ns : List Nat) : r.Edits (r.removeJobs ns).1 := by
  -- The number of those that were found does not matter to the roster.
  rw [fst_removeJobs]
  exact edits_foldl (fun _ n => (Edit.removeJob n).edits) r ns

/-- The jobs of the master are stopped by edits. -/
theorem edits_stopMasterJobs (r : Roster H) : r.Edits r.stopMasterJobs.1 :=
  r.edits_removeJobs (r.timetable.list true)

/-! ### What every edit keeps -/

/-- An edit keeps every tracked schedule in existence, and tracked once. -/
theorem Edit.sound (h : r.Edit r') (hr : r.timetable.Sound) : r'.timetable.Sound := by
  cases h with
  | addRoute | consult | note => exact hr
  | removeRoute pattern masterOnly =>
    rw [timetable_removeRoute]
    exact hr
  | addJob job =>
    rw [timetable_addJob]
    exact hr.add job
  | removeJob n =>
    rw [timetable_removeJob hr]
    exact hr.drop n

/-- Any edits keep every tracked schedule in existence, and tracked once. -/
theorem Edits.sound (h : r.Edits r') (hr : r.timetable.Sound) : r'.timetable.Sound := by
  induction h with
  | refl => exact hr
  | tail _ hlast ih => exact hlast.sound ih

end Roster

end CommandMesh
