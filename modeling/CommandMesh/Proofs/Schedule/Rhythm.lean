import CommandMesh.Schedule.Basic
import Mathlib.Data.List.Nodup
import Mathlib.Order.Bounds.Basic
import Mathlib.Tactic.Ring

/-!
# `CommandMesh.Proofs.Schedule.Rhythm`: when runs should begin and end

The runs of a job lie on a grid whose points are a period apart, and the first of which comes after
the first delay of the job. What happens to its schedule over time is a list of `Beat`s: a run
begins, a call is skipped, or a run ends. Nothing here is about a mesh; this is what the rhythm of a
schedule should be, stated on lists of beats alone.

There are two kinds of job. Most are waited for: the clock calls the schedule, waits until the run
has ended, and then for the first point of the grid after the beginning of the run. `Waits` says
what the beats are like then. No call is skipped. A run that lasts beyond that point is followed by
the next one at once, off the grid, and the points in between are left out. The clock does not wait
for a job that may run long: it calls the schedule at every point, and the call is skipped if a run
is still in flight. `Skips` says what the beats are like then.

Periods are positive where that matters, as those of a timer are. An instant is a natural number of
nanoseconds, which has no bound. A clock is never early, but nothing is said here of how late it may
be; that the beats of a schedule in a mesh come at their points exactly is shown where the mesh is.
The theorems:

* `Timer.isLeast_nextTick`: the next tick is the least point of the grid after the present.
* `Schedule.beats_begin`, `Schedule.beats_finish`: the beats are read off from what is counted.
* `Waits.begin`, `Waits.finish`, `Skips.snoc`: what may come next.
* `Waits.ended_le_start`, `Waits.le_start`: runs do not overlap, and none begins before its point.
* `Skips.began_iff`: a run begins at a point exactly if none is in flight.
-/

set_option autoImplicit false

namespace CommandMesh

/-! ### The grid -/

/-- The point is the least one after that instant of the grid with that origin and period. -/
def IsNextPoint (origin : Instant) (period : Span) (now point : Instant) : Prop :=
  IsLeast {g | (∃ j, g = origin + j * period) ∧ now < g} point

namespace Timer

variable {origin point now : Instant} {period : Span}

/-- The next tick is the least point of the grid after the present, however many points have passed.
-/
theorem isLeast_nextTick (hperiod : 0 < period) (hpoint : ∃ j, point = origin + j * period)
    (hle : point ≤ now) : IsNextPoint origin period now (nextTick period point now) := by
  obtain ⟨j, rfl⟩ := hpoint
  obtain ⟨late, rfl⟩ := Nat.exists_eq_add_of_le hle
  have htick : nextTick period (origin + j * period) (origin + j * period + late) =
      origin + (j + (late / period + 1)) * period := by
    rw [nextTick, Nat.add_sub_cancel_left]
    ring
  rw [htick]
  constructor
  · refine ⟨⟨_, rfl⟩, ?_⟩
    calc origin + j * period + late
        < origin + j * period + period * (late / period + 1) :=
          Nat.add_lt_add_left (Nat.lt_mul_div_succ late hperiod) _
      _ = origin + (j + (late / period + 1)) * period := by ring
  · rintro g ⟨⟨k, rfl⟩, hafter⟩
    refine Nat.add_le_add_left (Nat.mul_le_mul_right period ?_) origin
    -- Otherwise the point would lie `late / period` periods after `j` at most.
    by_contra hless
    refine Nat.not_le_of_lt hafter ?_
    calc origin + k * period
        ≤ origin + (j + late / period) * period :=
          Nat.add_le_add_left (Nat.mul_le_mul_right period (by omega)) origin
      _ = origin + j * period + late / period * period := by ring
      _ ≤ origin + j * period + late := Nat.add_le_add_left (Nat.div_mul_le_self late period) _

/-- A clock that is on time ticks again a period later. -/
theorem nextTick_self (period : Span) (now : Instant) :
    nextTick period now now = now + period := by
  simp [nextTick]

end Timer

/-! ### Beats -/

/-- Something that happens to a schedule at an instant. -/
inductive Beat where
  /-- A run begins. -/
  | began (t : Instant)
  /-- A call is skipped. -/
  | skipped (t : Instant)
  /-- A run ends. -/
  | ended (t : Instant)
deriving DecidableEq

namespace Beat

/-- When it happens. -/
def time : Beat → Instant
  | began t | skipped t | ended t => t

/-- When the run begins, if one does. -/
def start? : Beat → Option Instant
  | began t => some t
  | skipped _ | ended _ => none

/-- When the call is skipped, if one is. -/
def skip? : Beat → Option Instant
  | skipped t => some t
  | began _ | ended _ => none

/-- When the run ends, if one does. -/
def end? : Beat → Option Instant
  | ended t => some t
  | began _ | skipped _ => none

/-- When the schedule is called, whether or not a run begins. -/
def call? : Beat → Option Instant
  | began t | skipped t => some t
  | ended _ => none

/-- When runs began, in their order. -/
def starts (bs : List Beat) : List Instant := bs.filterMap start?

/-- When calls were skipped. -/
def skips (bs : List Beat) : List Instant := bs.filterMap skip?

/-- When runs ended. -/
def ends (bs : List Beat) : List Instant := bs.filterMap end?

/-- When the schedule was called. -/
def calls (bs : List Beat) : List Instant := bs.filterMap call?

end Beat

namespace Schedule

variable {s s' : Schedule}

/-- What has happened to a schedule between two moments, as its counts tell at the second one. -/
def beats (s s' : Schedule) (now : Instant) : List Beat :=
  (if s'.executions = s.executions + 1 then [.ended now] else []) ++
    (if s'.executions + s'.active.toNat = s.executions + s.active.toNat + 1 then [.began now]
      else []) ++
    if s'.skipped = s.skipped + 1 then [.skipped now] else []

end Schedule

namespace Beat

variable {origin t : Instant} {period : Span} {bs : List Beat}

/-- How many runs are in flight when it happens. -/
def inFlight : Beat → Nat
  | began _ => 0
  | skipped _ | ended _ => 1

/-- The beginnings of runs come in the order of the beats. -/
theorem starts_append (bs bs' : List Beat) : starts (bs ++ bs') = starts bs ++ starts bs' :=
  List.filterMap_append

/-- The ends of runs come in the order of the beats. -/
theorem ends_append (bs bs' : List Beat) : ends (bs ++ bs') = ends bs ++ ends bs' :=
  List.filterMap_append

/-- A further beat adds a beginning only if it is one. -/
theorem starts_snoc (bs : List Beat) (b : Beat) :
    starts (bs ++ [b]) = starts bs ++ b.start?.toList := by
  cases b <;> simp [starts, start?]

/-- A further beat adds a skipped call only if it is one. -/
theorem skips_snoc (bs : List Beat) (b : Beat) :
    skips (bs ++ [b]) = skips bs ++ b.skip?.toList := by
  cases b <;> simp [skips, skip?]

/-- A further beat adds an end only if it is one. -/
theorem ends_snoc (bs : List Beat) (b : Beat) :
    ends (bs ++ [b]) = ends bs ++ b.end?.toList := by
  cases b <;> simp [ends, end?]

/-- A further beat adds a call unless it is the end of a run. -/
theorem calls_snoc (bs : List Beat) (b : Beat) :
    calls (bs ++ [b]) = calls bs ++ b.call?.toList := by
  cases b <;> simp [calls, call?]

/-- The instants at which runs began are those of the beats that say so. -/
@[simp] theorem mem_starts : t ∈ starts bs ↔ .began t ∈ bs := by
  simp only [starts, List.mem_filterMap]
  refine ⟨?_, fun h => ⟨_, h, rfl⟩⟩
  rintro ⟨b, hb, ht⟩
  cases b <;> cases ht
  exact hb

/-- The instants at which calls were skipped are those of the beats that say so. -/
@[simp] theorem mem_skips : t ∈ skips bs ↔ .skipped t ∈ bs := by
  simp only [skips, List.mem_filterMap]
  refine ⟨?_, fun h => ⟨_, h, rfl⟩⟩
  rintro ⟨b, hb, ht⟩
  cases b <;> cases ht
  exact hb

/-- The instants at which runs ended are those of the beats that say so. -/
@[simp] theorem mem_ends : t ∈ ends bs ↔ .ended t ∈ bs := by
  simp only [ends, List.mem_filterMap]
  refine ⟨?_, fun h => ⟨_, h, rfl⟩⟩
  rintro ⟨b, hb, ht⟩
  cases b <;> cases ht
  exact hb

/-- A schedule was called where a run began or a call was skipped. -/
@[simp] theorem mem_calls : t ∈ calls bs ↔ .began t ∈ bs ∨ .skipped t ∈ bs := by
  simp only [calls, List.mem_filterMap]
  constructor
  · rintro ⟨b, hb, ht⟩
    cases b <;> cases ht
    · exact .inl hb
    · exact .inr hb
  · rintro (h | h)
    · exact ⟨_, h, rfl⟩
    · exact ⟨_, h, rfl⟩

/-- What is at some place after one more instant was there before, or is that instant at the end. -/
theorem getElem?_snoc {l : List Instant} {k : Nat} {u : Instant} :
    (l ++ [t])[k]? = some u ↔ l[k]? = some u ∨ k = l.length ∧ t = u := by
  rcases Nat.lt_trichotomy k l.length with hlt | rfl | hgt
  · rw [List.getElem?_append_left hlt]
    exact ⟨.inl, fun h => h.resolve_right fun hk => Nat.ne_of_lt hlt hk.1⟩
  · simp
  · have hlonger : (l ++ [t]).length ≤ k := by
      rw [List.length_append]
      exact hgt
    rw [List.getElem?_eq_none hlonger, List.getElem?_eq_none (Nat.le_of_lt hgt)]
    simp [Nat.ne_of_gt hgt]

end Beat

/-! ### Beats and counts -/

namespace Schedule

variable {s s' : Schedule} {bs : List Beat}

/-- The counts of the schedule are those of the beats. -/
structure Counts (s : Schedule) (bs : List Beat) : Prop where
  executions : s.executions = (Beat.ends bs).length
  skipped : s.skipped = (Beat.skips bs).length
  active : (Beat.starts bs).length = (Beat.ends bs).length + s.active.toNat

/-- Nothing is counted about a schedule that was just made. -/
theorem counts_new (job : Job) (handle : Option Nat) : ({ job, handle } : Schedule).Counts [] :=
  ⟨rfl, rfl, rfl⟩

/-- No run is in flight if as many have ended as have begun. -/
theorem Counts.active_eq_false (h : s.Counts bs)
    (hlength : (Beat.starts bs).length = (Beat.ends bs).length) : s.active = false := by
  have hactive := h.active
  cases hflag : s.active with
  | false => rfl
  | true => simp [hlength, hflag] at hactive

/-- A run is in flight if one more has begun than has ended. -/
theorem Counts.active_eq_true (h : s.Counts bs)
    (hlength : (Beat.starts bs).length = (Beat.ends bs).length + 1) : s.active = true := by
  have hactive := h.active
  cases hflag : s.active with
  | true => rfl
  | false => simp [hlength, hflag] at hactive

/-- A call while no run is in flight counts as the beginning of a run. -/
theorem Counts.begin (h : s.Counts bs) (hidle : s.active = false) (t now : Instant) :
    (s.begin t).1.Counts (bs ++ [.began now]) := by
  obtain ⟨hexecutions, hskipped, hactive⟩ := h
  rw [hidle] at hactive
  constructor <;>
    simp_all [Schedule.begin, Beat.starts_snoc, Beat.ends_snoc, Beat.skips_snoc, Beat.start?,
      Beat.end?, Beat.skip?]

/-- A call while a run is in flight counts as skipped. -/
theorem Counts.skip (h : s.Counts bs) (hbusy : s.active = true) (t now : Instant) :
    (s.begin t).1.Counts (bs ++ [.skipped now]) := by
  obtain ⟨hexecutions, hskipped, hactive⟩ := h
  rw [hbusy] at hactive
  constructor <;>
    simp_all [Schedule.begin, Beat.starts_snoc, Beat.ends_snoc, Beat.skips_snoc, Beat.start?,
      Beat.end?, Beat.skip?]

/-- A run that ends is counted, however it ended. -/
theorem Counts.finish (h : s.Counts bs) (hbusy : s.active = true) (e : Ending) (now : Instant) :
    (s.finish e).Counts (bs ++ [.ended now]) := by
  obtain ⟨hexecutions, hskipped, hactive⟩ := h
  rw [hbusy] at hactive
  constructor <;>
    simp_all [Schedule.finish, Beat.starts_snoc, Beat.ends_snoc, Beat.skips_snoc, Beat.start?,
      Beat.end?, Beat.skip?]

/-- What happens by a call while no run is in flight is that a run begins. -/
theorem beats_begin (h : s.active = false) (t now : Instant) :
    s.beats (s.begin t).1 now = [.began now] := by
  simp [beats, begin, h]

/-- What happens by a call while a run is in flight is that it is skipped. -/
theorem beats_begin_of_active (h : s.active = true) (t now : Instant) :
    s.beats (s.begin t).1 now = [.skipped now] := by
  simp [beats, begin, h]

/-- What happens as a run ends is that it ends. -/
theorem beats_finish (h : s.active = true) (e : Ending) (now : Instant) :
    s.beats (s.finish e) now = [.ended now] := by
  simp [beats, finish, h]

/-- If the run ends and the next begins at once, both happen, the end first. -/
theorem beats_finish_begin (h : s.active = true) (e : Ending) (t now : Instant) :
    s.beats ((s.finish e).begin t).1 now = [.ended now, .began now] := by
  simp [beats, begin, finish, h]

end Schedule

namespace Beat

variable {origin t : Instant} {period : Span} {bs : List Beat}

/-! ### The clock waits for every run -/

/-- The first run begins at the origin. Each further run begins once the run before has ended, and
not before the first point of the grid after the beginning of the run before. -/
structure Waits (origin : Instant) (period : Span) (bs : List Beat) : Prop where
  none_skipped : skips bs = []
  first : ∀ t, (starts bs)[0]? = some t → t = origin
  next : ∀ (k : Nat) t, (starts bs)[k + 1]? = some t → ∃ s e point, (starts bs)[k]? = some s ∧
    (ends bs)[k]? = some e ∧ IsNextPoint origin period s point ∧ t = max e point
  paired : ∀ (k : Nat) e, (ends bs)[k]? = some e → ∃ s, (starts bs)[k]? = some s ∧ s ≤ e

/-- The next run should begin at that instant: none has begun yet, or the last one has ended. -/
inductive Due (origin : Instant) (period : Span) (bs : List Beat) : Instant → Prop where
  | first : starts bs = [] → Due origin period bs origin
  | next {s e point : Instant} : (starts bs).getLast? = some s → (ends bs).getLast? = some e →
      (starts bs).length = (ends bs).length → IsNextPoint origin period s point →
      Due origin period bs (max e point)

/-- Nothing has happened yet, so the clock has waited for all runs. -/
theorem waits_nil (origin : Instant) (period : Span) : Waits origin period [] where
  none_skipped := rfl
  first := nofun
  next := nofun
  paired := nofun

/-- A run may begin as it is due. -/
theorem Waits.begin (h : Waits origin period bs) (hdue : Due origin period bs t) :
    Waits origin period (bs ++ [.began t]) := by
  have hstarts : starts (bs ++ [.began t]) = starts bs ++ [t] := starts_snoc _ _
  have hends : ends (bs ++ [.began t]) = ends bs := (ends_snoc _ _).trans (List.append_nil _)
  constructor
  case none_skipped =>
    rw [skips_snoc, h.none_skipped]
    rfl
  case first =>
    rw [hstarts]
    intro u hu
    rcases getElem?_snoc.mp hu with hold | ⟨hempty, rfl⟩
    · exact h.first u hold
    · cases hdue with
      | first => rfl
      | next hs =>
        rw [List.eq_nil_of_length_eq_zero hempty.symm] at hs
        cases hs
  case next =>
    rw [hstarts, hends]
    intro k u hu
    rcases getElem?_snoc.mp hu with hold | ⟨hk, rfl⟩
    · obtain ⟨s, e, point, hs, he, hpoint, rfl⟩ := h.next k u hold
      exact ⟨s, e, point, getElem?_snoc.mpr (.inl hs), he, hpoint, rfl⟩
    · cases hdue with
      | first hnone =>
        rw [hnone] at hk
        cases hk
      | @next s e point hs he hlength hpoint =>
        -- The last run is the one before the new one, and the last end is its end.
        rw [List.getLast?_eq_getElem?] at hs he
        rw [← hlength] at he
        rw [← hk] at hs he
        exact ⟨s, e, point, getElem?_snoc.mpr (.inl hs), he, hpoint, rfl⟩
  case paired =>
    rw [hstarts, hends]
    intro k e he
    obtain ⟨s, hs, hle⟩ := h.paired k e he
    exact ⟨s, getElem?_snoc.mpr (.inl hs), hle⟩

/-- The run that is in flight may end at any instant after it began. -/
theorem Waits.finish (h : Waits origin period bs) {s : Instant}
    (hs : (starts bs).getLast? = some s) (hlength : (starts bs).length = (ends bs).length + 1)
    (hle : s ≤ t) : Waits origin period (bs ++ [.ended t]) := by
  have hstarts : starts (bs ++ [.ended t]) = starts bs :=
    (starts_snoc _ _).trans (List.append_nil _)
  have hends : ends (bs ++ [.ended t]) = ends bs ++ [t] := ends_snoc _ _
  constructor
  case none_skipped =>
    rw [skips_snoc, h.none_skipped]
    rfl
  case first =>
    rw [hstarts]
    exact h.first
  case next =>
    rw [hstarts, hends]
    intro k u hu
    obtain ⟨s', e', point', hs', he', hpoint'⟩ := h.next k u hu
    exact ⟨s', e', point', hs', getElem?_snoc.mpr (.inl he'), hpoint'⟩
  case paired =>
    rw [hstarts, hends]
    intro k e he
    rcases getElem?_snoc.mp he with hold | ⟨rfl, rfl⟩
    · exact h.paired k e hold
    · -- The end that is new belongs to the last run that has begun.
      rw [List.getLast?_eq_getElem?, hlength] at hs
      exact ⟨s, hs, hle⟩

/-- A run begins only once the run before has ended. -/
theorem Waits.ended_le_start (h : Waits origin period bs) {k : Nat} {e : Instant}
    (he : (ends bs)[k]? = some e) (ht : (starts bs)[k + 1]? = some t) : e ≤ t := by
  obtain ⟨s, e', point, -, he', -, rfl⟩ := h.next k t ht
  obtain rfl := Option.some.inj (he.symm.trans he')
  exact Nat.le_max_left e point

/-- A run never begins before its point. -/
theorem Waits.le_start (h : Waits origin period bs) {k : Nat} (ht : (starts bs)[k]? = some t) :
    origin + k * period ≤ t := by
  induction k generalizing t with
  | zero =>
    rw [h.first t ht, Nat.zero_mul]
    exact Nat.le_refl origin
  -- The point after the beginning of the last run is at least one period further than that run's
  -- own point.
  | succ k ih =>
    obtain ⟨s, e, point, hs, -, ⟨⟨⟨j, rfl⟩, hafter⟩, -⟩, rfl⟩ := h.next k t ht
    have hbefore : origin + k * period < origin + j * period := Nat.lt_of_le_of_lt (ih hs) hafter
    have hj : k < j := Nat.lt_of_mul_lt_mul_right (Nat.lt_of_add_lt_add_left hbefore)
    have hpoint : origin + (k + 1) * period ≤ origin + j * period :=
      Nat.add_le_add_left (Nat.mul_le_mul_right period hj) origin
    exact hpoint.trans (Nat.le_max_right e _)

/-! ### The clock waits for no run -/

/-- The schedule is called at every point of the grid. A run begins if none is in flight, and
otherwise the call is skipped. -/
structure Skips (origin : Instant) (period : Span) (bs : List Beat) : Prop where
  grid : calls bs = (List.range (calls bs).length).map fun k => origin + k * period
  ordered : bs.Pairwise fun b b' => b.time ≤ b'.time
  flows : ∀ before b after, bs = before ++ b :: after →
    (starts before).length = (ends before).length + b.inFlight

/-- Nothing has happened yet, so no call is off the grid. -/
theorem skips_nil (origin : Instant) (period : Span) : Skips origin period [] where
  grid := rfl
  ordered := List.Pairwise.nil
  flows before b after h := by simp at h

/-- A further beat may come if it is not before the others, a run is in flight exactly where it
should be, and a call lies at the next point of the grid. -/
theorem Skips.snoc (h : Skips origin period bs) {b : Beat} (hlater : ∀ b' ∈ bs, b'.time ≤ b.time)
    (hflows : (starts bs).length = (ends bs).length + b.inFlight)
    (hgrid : ∀ t, b.call? = some t → t = origin + (calls bs).length * period) :
    Skips origin period (bs ++ [b]) where
  grid := by
    rw [calls_snoc]
    cases hcall : b.call? with
    | none =>
      rw [Option.toList_none, List.append_nil]
      exact h.grid
    | some t =>
      rw [Option.toList_some, List.length_append, List.length_singleton, List.range_succ,
        List.map_append, ← h.grid, hgrid t hcall]
      rfl
  ordered := by
    refine List.pairwise_append.mpr ⟨h.ordered, List.pairwise_singleton _ _, fun b' hb' c hc => ?_⟩
    rw [List.mem_singleton.mp hc]
    exact hlater b' hb'
  flows before c after heq := by
    -- It is the new beat that is split off, or one of those before.
    rcases List.eq_nil_or_concat after with rfl | ⟨after', c', rfl⟩
    · obtain ⟨rfl, hc⟩ := List.append_inj' heq rfl
      rw [← (List.cons.inj hc).1]
      exact hflows
    · rw [List.concat_eq_append, ← List.cons_append, ← List.append_assoc] at heq
      exact h.flows before c after' (List.append_inj' heq rfl).1

/-- All that was there before a call lies before it, and all that comes after it does not. -/
theorem Skips.counts (h : Skips origin period bs) (hperiod : 0 < period) {before after : List Beat}
    {b : Beat} (hbs : bs = before ++ b :: after) (hcall : b.call? = some t)
    (hclear : t ∉ ends bs) :
    (t ∉ calls before ∧ t ∉ calls after) ∧ (starts bs).countP (· < t) = (starts before).length ∧
      (ends bs).countP (· < t) = (ends before).length := by
  -- The points of the grid differ, so there is one call at each.
  have hnodup : (calls bs).Nodup := by
    rw [h.grid]
    refine List.Nodup.map (fun k l hkl => ?_) List.nodup_range
    exact Nat.eq_of_mul_eq_mul_right hperiod (Nat.add_left_cancel hkl)
  have hsplit : calls bs = calls before ++ t :: calls after := by
    rw [hbs, calls, List.filterMap_append, List.filterMap_cons_some hcall]
    rfl
  have honce : t ∉ calls before ∧ t ∉ calls after := by
    rw [hsplit, List.nodup_middle, List.nodup_cons, List.mem_append, not_or] at hnodup
    exact hnodup.1
  have htime : b.time = t := by
    cases b <;> cases hcall <;> rfl
  have hordered := h.ordered
  rw [hbs, List.pairwise_append, List.pairwise_cons] at hordered
  obtain ⟨-, ⟨hafter, -⟩, hbefore⟩ := hordered
  have hearlier : ∀ c ∈ before, c.time ≤ t := fun c hc =>
    htime ▸ hbefore c hc b List.mem_cons_self
  have hlater : ∀ c ∈ b :: after, t ≤ c.time := by
    rw [List.forall_mem_cons]
    exact ⟨Nat.le_of_eq htime.symm, fun c hc => htime ▸ hafter c hc⟩
  refine ⟨honce, ?_, ?_⟩
  · have hfirst : (starts before).countP (· < t) = (starts before).length := by
      refine List.countP_eq_length.mpr fun u hu => ?_
      have hle : u ≤ t := hearlier _ (mem_starts.mp hu)
      have hne : u ≠ t := fun heq => honce.1 (mem_calls.mpr (.inl (heq ▸ mem_starts.mp hu)))
      simpa using Nat.lt_of_le_of_ne hle hne
    have hlast : (starts (b :: after)).countP (· < t) = 0 := by
      refine List.countP_eq_zero.mpr fun u hu => ?_
      have hle : t ≤ u := hlater _ (mem_starts.mp hu)
      simpa using hle
    rw [hbs, starts_append, List.countP_append, hfirst, hlast, Nat.add_zero]
  · have hfirst : (ends before).countP (· < t) = (ends before).length := by
      refine List.countP_eq_length.mpr fun u hu => ?_
      have hle : u ≤ t := hearlier _ (mem_ends.mp hu)
      have hne : u ≠ t := by
        rintro rfl
        exact hclear (by rw [hbs, ends_append]; exact List.mem_append_left _ hu)
      simpa using Nat.lt_of_le_of_ne hle hne
    have hlast : (ends (b :: after)).countP (· < t) = 0 := by
      refine List.countP_eq_zero.mpr fun u hu => ?_
      have hle : t ≤ u := hlater _ (mem_ends.mp hu)
      simpa using hle
    rw [hbs, ends_append, List.countP_append, hfirst, hlast, Nat.add_zero]

/-- A run begins at a point of the grid exactly if every run that began before has ended before,
and otherwise the call is skipped, unless a run ends just then. -/
theorem Skips.began_iff (h : Skips origin period bs) (hperiod : 0 < period) (hcall : t ∈ calls bs)
    (hclear : t ∉ ends bs) :
    (t ∈ starts bs ↔ (starts bs).countP (· < t) = (ends bs).countP (· < t)) ∧
      (t ∈ skips bs ↔ t ∉ starts bs) := by
  obtain ⟨b, hb, hcall⟩ := List.mem_filterMap.mp hcall
  obtain ⟨before, after, hbs⟩ := List.append_of_mem hb
  obtain ⟨⟨hbefore, hafter⟩, hstarts, hends⟩ := h.counts hperiod hbs hcall hclear
  have hflows := h.flows before b after hbs
  rw [mem_calls, not_or] at hbefore hafter
  rw [hstarts, hends, mem_starts, mem_skips]
  cases b with
  | ended => cases hcall
  | began u =>
    obtain rfl := Option.some.inj hcall
    have hstarted : .began u ∈ bs := hb
    have hnot : .skipped u ∉ bs := by simp [hbs, hbefore.2, hafter.2]
    simp [hstarted, hnot, hflows, inFlight]
  | skipped u =>
    obtain rfl := Option.some.inj hcall
    have hskipped : .skipped u ∈ bs := hb
    have hnot : .began u ∉ bs := by simp [hbs, hbefore.1, hafter.1]
    simp [hskipped, hnot, hflows, inFlight]

end Beat

end CommandMesh
