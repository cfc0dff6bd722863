import CommandMesh.Proofs.Roster.Edits
import Mathlib.Data.List.Induction
import Mathlib.Data.Multiset.AddSub

/-!
# `CommandMesh.Proofs.Roster.Narration`: what observers are told is what happened

An observer is told of every route and every job that comes or goes. `Tables` is what it can make of
that: the list of the routes and the jobs that there are, each with its restriction to the master.
`Tables.heed` changes them by one notice, and fails on a notice that something is gone which is not
there.

`Roster.Narrates` says that between two moments an attentive observer is told what leads from the
tables of a roster at the first to those at the second.

What an observer is told is read off the journal of the roster, where each notice stands with the
place of the observer that it was given to. An observer that is not attentive keeps none of its
notices, so nothing is said about it. Whether an observer refuses a notice makes no difference: its
error leads nowhere, and the others are told all the same.

Routes are compared in their order, which decides which one takes a message; a notice that one is
gone names its pattern and its restriction, and the first such route is the one that went. Jobs have
no order that an observer could know of and may share their names, so they are compared as
multisets. The timetable is supposed to be sound, so that every tracked schedule has a record to be
told of. The theorems:

* `Roster.narrates_addRoute`, `Roster.narrates_removeRoute`, `Roster.narrates_addJob`,
  `Roster.narrates_removeJob`: a change is told once, and a removal that finds nothing is not told.
* `Roster.Edits.narrates`: so everything that becomes of a roster is told.
-/

set_option autoImplicit false

namespace CommandMesh

/-! ### What an observer makes of notices -/

/-- The routes of a node in their order, and its jobs. -/
structure Tables where
  routes : List (RoutePattern × Bool) := []
  jobs : Multiset (String × Bool) := 0

namespace Tables

/-- Takes note of a change. What is gone must have been there; of routes the first such one goes. -/
def heed (t : Tables) : Notice → Option Tables
  | .routeAdded pattern masterOnly => some { t with routes := t.routes ++ [(pattern, masterOnly)] }
  | .routeRemoved pattern masterOnly =>
    if (pattern, masterOnly) ∈ t.routes then
      some { t with routes := t.routes.erase (pattern, masterOnly) }
    else none
  | .jobAdded name masterOnly => some { t with jobs := (name, masterOnly) ::ₘ t.jobs }
  | .jobRemoved name masterOnly =>
    if (name, masterOnly) ∈ t.jobs then some { t with jobs := t.jobs.erase (name, masterOnly) }
    else none

/-- Takes note of changes in turn. -/
def heedAll (t : Tables) (ns : List Notice) : Option Tables := ns.foldlM heed t

/-- Heeding notices and then others is heeding all of them. -/
theorem heedAll_append (t : Tables) (ns ns' : List Notice) :
    t.heedAll (ns ++ ns') = (t.heedAll ns).bind fun t => t.heedAll ns' := List.foldlM_append

/-- Heeding a list of one notice is heeding that. -/
theorem heedAll_singleton (t : Tables) (n : Notice) : t.heedAll [n] = t.heed n := by
  simp [heedAll]

end Tables

/-- The notice that the observer at this place got, if the event is that. -/
def Event.noticeTo? (place : Nat) : Event → Option Notice
  | .noticed p _ n => if p = place then some n else none
  | _ => none

/-- What the observer at this place was told, in order. -/
def heardAt (place : Nat) (es : List Event) : List Notice := es.filterMap (Event.noticeTo? place)

/-- What is heard of two stretches of events is heard of the first and then of the second. -/
theorem heardAt_append (place : Nat) (es es' : List Event) :
    heardAt place (es ++ es') = heardAt place es ++ heardAt place es' := List.filterMap_append

/-- What is no notice is not heard. -/
theorem heardAt_eq_nil {es : List Event} (h : ∀ e ∈ es, e.isNotice = false) (place : Nat) :
    heardAt place es = [] := by
  refine List.filterMap_eq_nil_iff.mpr fun e he => ?_
  cases e with
  | noticed => exact absurd (h _ he) (by simp [Event.isNotice])
  | hooked | called | faulted => rfl

/-- That a hook of a job was called is no notice. -/
theorem isNotice_hookEvents (job : Job) (time : HookTime) (n : Nat) :
    ∀ e ∈ job.hookEvents time n, e.isNotice = false := by
  intro e he
  unfold Job.hookEvents at he
  split at he
  · rw [List.mem_singleton.mp he]
    rfl
  · cases he

/-- One more observer is told after the others, if it is attentive. -/
theorem Notice.tell_append (n : Notice) (observers : List Observer) (o : Observer) :
    n.tell (observers ++ [o]) = n.tell observers ++
      if o.attentive then [.noticed observers.length o.label n] else [] := by
  unfold Notice.tell
  rw [List.zipIdx_append, List.filter_append, List.map_append]
  cases hattentive : o.attentive <;> simp [hattentive]

/-- An attentive observer hears a notice once, whatever it and the others answer. -/
theorem heardAt_tell (n : Notice) (observers : List Observer) (place : Nat) :
    heardAt place (n.tell observers) =
      if observers[place]?.any (·.attentive) then [n] else [] := by
  induction observers using List.reverseRecOn with
  | nil => rfl
  | append_singleton observers o ih =>
    rw [Notice.tell_append, heardAt_append, ih]
    -- The place is that of an observer before the last one, of the last one, or of none.
    rcases Nat.lt_trichotomy place observers.length with hlt | rfl | hgt
    · rw [List.getElem?_append_left hlt]
      cases o.attentive <;> simp [heardAt, Event.noticeTo?, Nat.ne_of_gt hlt]
    · cases hattentive : o.attentive <;> simp [heardAt, Event.noticeTo?, hattentive]
    · have hbeyond : (observers ++ [o])[place]? = none :=
        List.getElem?_eq_none (by rw [List.length_append, List.length_singleton]; omega)
      rw [hbeyond, List.getElem?_eq_none (Nat.le_of_lt hgt)]
      cases o.attentive <;> simp [heardAt, Event.noticeTo?, Nat.ne_of_lt hgt]

namespace Timetable

/-- What is told of the schedule of that number. -/
def titleOf? (t : Timetable) (n : Nat) : Option (String × Bool) :=
  (t.find? n).map fun s => (s.job.name, s.job.masterOnly)

/-- What is told of the tracked schedules. -/
def titles (t : Timetable) : Multiset (String × Bool) := ↑(t.tracked.filterMap t.titleOf?)

variable {t : Timetable} {n : Nat}

/-- What is told of the tracked schedules is what their figures say of names and restrictions. -/
theorem titles_eq_stats (t : Timetable) :
    t.titles = ↑(t.stats.map fun s => (s.name, s.masterOnly)) := by
  unfold titles stats
  rw [List.map_filterMap]
  congr 1
  refine List.filterMap_congr fun n _ => ?_
  rw [titleOf?, Option.map_map]
  rfl

/-- A job that is added is one more to be told of. -/
theorem Sound.titles_add (h : t.Sound) (job : Job) :
    (t.add job).titles = (job.name, job.masterOnly) ::ₘ t.titles := by
  have hkept : t.tracked.filterMap (t.add job).titleOf? = t.tracked.filterMap t.titleOf? :=
    List.filterMap_congr fun n hn => by rw [titleOf?, find?_add (h.made n hn), titleOf?]
  unfold titles
  rw [tracked_add, List.filterMap_append, hkept, ← Multiset.coe_add, Multiset.add_comm]
  simp [titleOf?]

/-- Dropping a schedule leaves what is told of each. -/
theorem titleOf?_drop (t : Timetable) (n m : Nat) : (t.drop n).titleOf? m = t.titleOf? m := by
  have hjob := congrArg (Option.map fun job : Job => (job.name, job.masterOnly)) (t.job_drop n m)
  rwa [Option.map_map, Option.map_map] at hjob

/-- A schedule that is dropped is told of no more, and all others are as before. -/
theorem titles_drop {s : Schedule} (hn : n ∈ t.tracked) (hs : t.find? n = some s) :
    t.titles = (s.job.name, s.job.masterOnly) ::ₘ (t.drop n).titles := by
  have htitle : t.titleOf? n = some (s.job.name, s.job.masterOnly) := by rw [titleOf?, hs]; rfl
  have hdrop : (t.drop n).titleOf? = t.titleOf? := funext (t.titleOf?_drop n)
  unfold titles
  rw [tracked_drop, hdrop, Multiset.cons_coe]
  -- The order of what is told changes, so jobs are compared as multisets.
  have hperm := (List.perm_cons_erase hn).filterMap t.titleOf?
  rw [List.filterMap_cons_some htitle] at hperm
  exact Multiset.coe_eq_coe.mpr hperm

end Timetable

namespace Roster

variable {H : Type} {r r' s : Roster H}

/-- The tables that a roster has. -/
def tables (r : Roster H) : Tables where
  routes := r.router.routes.map fun x => (x.pattern, x.masterOnly)
  jobs := r.timetable.titles

/-- The observers stay, and what each attentive one is told in between leads from the tables of one
roster to those of the other. -/
structure Narrates (r r' : Roster H) : Prop where
  observers : r'.observers = r.observers
  told : ∃ es, r'.journal = r.journal ++ es ∧ ∀ place o, r.observers[place]? = some o →
    o.attentive = true → r.tables.heedAll (heardAt place es) = some r'.tables

/-- If nothing happens, nothing has to be told. -/
theorem Narrates.refl (r : Roster H) : r.Narrates r :=
  ⟨rfl, [], (List.append_nil _).symm, fun _ _ _ _ => rfl⟩

/-- What is told in two stretches in turn is told in both together. -/
theorem Narrates.trans (h : r.Narrates r') (h' : r'.Narrates s) : r.Narrates s := by
  obtain ⟨es, hjournal, htold⟩ := h.told
  obtain ⟨es', hjournal', htold'⟩ := h'.told
  refine ⟨h'.observers.trans h.observers, es ++ es', ?_, fun place o hplace hattentive => ?_⟩
  · rw [hjournal', hjournal, List.append_assoc]
  · rw [heardAt_append, Tables.heedAll_append, htold place o hplace hattentive]
    exact htold' place o (h.observers ▸ hplace) hattentive

/-- Nothing is told, and nothing changes. -/
theorem Narrates.of_silent (hobservers : r'.observers = r.observers) {es : List Event}
    (hjournal : r'.journal = r.journal ++ es) (hes : ∀ e ∈ es, e.isNotice = false)
    (htables : r'.tables = r.tables) : r.Narrates r' := by
  refine ⟨hobservers, es, hjournal, fun place _ _ _ => ?_⟩
  rw [heardAt_eq_nil hes, htables]
  rfl

/-- One notice is given, perhaps after other events, and it says what changes. -/
theorem Narrates.of_notice (es : List Event) (n : Notice) (hobservers : r'.observers = r.observers)
    (hjournal : r'.journal = r.journal ++ (es ++ n.tell r.observers))
    (hes : ∀ e ∈ es, e.isNotice = false) (htables : r.tables.heed n = some r'.tables) :
    r.Narrates r' := by
  refine ⟨hobservers, es ++ n.tell r.observers, hjournal, fun place o hplace hattentive => ?_⟩
  have hheard : heardAt place (n.tell r.observers) = [n] := by
    rw [heardAt_tell, hplace, Option.any_some, hattentive, if_pos rfl]
  rw [heardAt_append, heardAt_eq_nil hes, List.nil_append, hheard, Tables.heedAll_singleton,
    htables]

/-- A route that is added is told of once, at the end of the routes. -/
theorem narrates_addRoute (r : Roster H) (pattern : RoutePattern) (handler : H)
    (reference : Option String) (masterOnly : Bool) :
    r.Narrates (r.addRoute pattern handler reference masterOnly).1 := by
  refine .of_notice [] (.routeAdded pattern masterOnly) rfl rfl (by simp) ?_
  simp [Tables.heed, tables, addRoute, Router.register, tell, record]

/-- The first route of its kind goes, and the first of its kind from what is told of the routes. -/
theorem map_eraseP_routes (routes : List (Route H)) (pattern : RoutePattern) (masterOnly : Bool) :
    (routes.eraseP fun x => x.pattern == pattern && x.masterOnly == masterOnly).map
        (fun x => (x.pattern, x.masterOnly)) =
      (routes.map fun x => (x.pattern, x.masterOnly)).erase (pattern, masterOnly) := by
  rw [List.erase_eq_eraseP, List.eraseP_map]
  congr 2
  funext x
  exact Bool.eq_iff_iff.mpr (by simp [@eq_comm _ pattern, @eq_comm _ masterOnly])

/-- A route that is not there is not removed, and nothing is told. -/
theorem narrates_removeRoute (r : Roster H) (pattern : RoutePattern) (masterOnly : Bool) :
    r.Narrates ((r.removeRoute pattern masterOnly).getD r) := by
  cases hfound : r.router.find? pattern masterOnly with
  | none =>
    have hsame : r.removeRoute pattern masterOnly = none := by
      simp [removeRoute, Router.unregister, hfound]
    rw [hsame]
    exact .refl r
  | some route =>
    have hroute := List.find?_some hfound
    simp only [Bool.and_eq_true, beq_iff_eq] at hroute
    have hthere : (pattern, masterOnly) ∈ r.tables.routes :=
      List.mem_map.mpr ⟨route, List.mem_of_find?_eq_some hfound, by rw [hroute.1, hroute.2]⟩
    refine .of_notice [] (.routeRemoved pattern masterOnly) ?_ ?_ (by simp) ?_
    · simp [removeRoute, Router.unregister, hfound, tell, record]
    · simp [removeRoute, Router.unregister, hfound, tell, record]
    · rw [Tables.heed, if_pos hthere]
      simp only [tables, router_removeRoute, timetable_removeRoute, Router.routes_unregister,
        map_eraseP_routes]

/-- A job that is added is told of once. -/
theorem narrates_addJob (h : r.timetable.Sound) (job : Job) : r.Narrates (r.addJob job).1 := by
  rw [addJob_eq]
  refine .of_notice _ (.jobAdded job.name job.masterOnly) rfl rfl
    (isNotice_hookEvents job .tearUp _) ?_
  simp only [Tables.heed, tables, h.titles_add]

/-- A schedule that is not tracked is not removed, and nothing is told. -/
theorem narrates_removeJob (h : r.timetable.Sound) (n : Nat) :
    r.Narrates ((r.removeJob n).getD r) := by
  -- Only a schedule that is tracked is removed.
  by_cases hn : n ∈ r.timetable.tracked
  · obtain ⟨s, hs⟩ : ∃ s, r.timetable.find? n = some s :=
      ⟨_, List.getElem?_eq_getElem (h.made n hn)⟩
    have htitles := Timetable.titles_drop hn hs
    rw [removeJob_of_mem hn hs]
    refine .of_notice _ (.jobRemoved s.job.name s.job.masterOnly) rfl rfl
      (isNotice_hookEvents s.job .tearDown n) ?_
    simp [Tables.heed, tables, htitles]
  · rw [removeJob_of_not_mem hn]
    exact .refl r

/-- Whatever is done to a roster is told. -/
theorem Edit.narrates (h : r.Edit r') (hr : r.timetable.Sound) : r.Narrates r' := by
  cases h with
  | addRoute pattern handler reference masterOnly => exact narrates_addRoute ..
  | removeRoute pattern masterOnly => exact narrates_removeRoute ..
  | addJob job => exact narrates_addJob hr job
  | removeJob n => exact narrates_removeJob hr n
  | consult router hroutes =>
    exact .of_silent rfl (List.append_nil _).symm (by simp) (by simp only [tables, hroutes])
  | note es hes => exact .of_silent rfl rfl hes rfl

/-- Everything that becomes of a roster is told. -/
theorem Edits.narrates (h : r.Edits r') (hr : r.timetable.Sound) : r.Narrates r' := by
  -- By induction on what was done, the last of it split off.
  induction h with
  | refl => exact .refl r
  | tail hfirst hlast ih => exact ih.trans (hlast.narrates (Edits.sound hfirst hr))

end Roster

end CommandMesh
