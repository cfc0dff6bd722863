import CommandMesh.Schedule.Basic
import Mathlib.Data.List.Induction

/-!
# `CommandMesh.Proofs.Schedule.Runs`: the calls of a schedule and what becomes of them

`Runs` is a schedule with its runs in flight and with what became of the calls that are over. A
`Runs.Move` is what may happen next: somebody calls the schedule, a body ends, whoever waits for a
run takes note of its end, or the run is dropped. Moves come in any order and from any number of
callers.

A run goes through three hands. The call sets the flag of the schedule, the body ends by itself at
some time, and only whoever waits for it counts the run and clears the flag; if that one is dropped,
the flag is cleared without counting. A body is called before anybody waits for it. One that panics
then, rather than in its run, leaves the flag set with nobody to clear it.

Counters are natural numbers here, as in the schedule itself, so they do not overflow. When a body
ends and how is open. A body that panics when it is called is a parameter of the call (`refuses`);
one that never does makes all the calls with `false`.

`Runs.Balanced` says what the schedule has counted, and `Runs.Accounts` what it should have: every
call was skipped, executed or dropped, or its run is in flight. The balance holds in every case, and
is what is carried through a run; that it is as it should be is then a matter of counting fates. The
theorems:

* `Balanced.step`, `balanced_run`: the balance is kept by every move.
* `accounts_iff`, `began_iff`: it is what it should be, and the schedule can begin a run, exactly if
  no body has panicked when it was called.
* `runs_accounted_iff_none_died`: both for every run of moves.
* `died_blocks_schedule`: a body that panics when it is called.
-/

set_option autoImplicit false

namespace CommandMesh

/-- What became of a call that is over. -/
inductive Fate where
  | skipped
  /-- The run ended so. -/
  | ended (e : Ending)
  /-- The run was dropped. -/
  | dropped
  /-- The body panicked when it was called. -/
  | died
deriving DecidableEq

namespace Fate

/-- Whether a run ended. -/
def isEnd : Fate → Bool
  | .ended _ => true
  | .skipped | .dropped | .died => false

/-- Whether a run ended in an error or a panic. -/
def isBadEnd : Fate → Bool
  | .ended e => e != .ok
  | .skipped | .dropped | .died => false

/-- Whether there was an error or a panic, be it in the run or when the body was called. -/
def isBad (f : Fate) : Bool := f.isBadEnd || f == .died

/-- The calls that are over ended in one of four ways. -/
theorem length_eq (fs : List Fate) : fs.length =
    fs.countP isEnd + fs.count .skipped + fs.count .dropped + fs.count .died := by
  induction fs with
  | nil => rfl
  | cons f fs ih =>
    rw [List.length_cons, ih]
    cases f <;> simp [List.countP_cons, isEnd] <;> omega

/-- What went wrong did so in a run that ended, or as the body was called. -/
theorem countP_isBad (fs : List Fate) :
    fs.countP isBad = fs.countP isBadEnd + fs.count .died := by
  induction fs with
  | nil => rfl
  | cons f fs ih => cases f <;> simp [List.countP_cons, isBad, isBadEnd] at ih ⊢ <;> omega

/-- No more runs ended badly than ended. -/
theorem countP_isBadEnd_le (fs : List Fate) : fs.countP isBadEnd ≤ fs.countP isEnd :=
  List.countP_mono_left fun f _ hf => by cases f <;> simp_all [isEnd, isBadEnd]

end Fate

/-- A schedule, its runs in flight, each with how its body ended if it has, and what became of the
calls that are over. -/
structure Runs where
  schedule : Schedule
  inFlight : List (Option Ending) := []
  fates : List Fate := []

namespace Runs

/-- What may happen next. -/
inductive Move where
  /-- The schedule is called. -/
  | call (now : Instant) (refuses : Bool)
  /-- The body of the run at this place ends. -/
  | bodyEnds (k : Nat) (e : Ending)
  /-- Whoever waits for the run at this place takes note of its end, if its body has ended. -/
  | finish (k : Nat)
  /-- The run at this place is dropped, and its body is stopped. -/
  | drop (k : Nat)

/-- Whether the schedule is called. -/
def Move.isCall : Move → Bool
  | .call _ _ => true
  | .bodyEnds _ _ | .finish _ | .drop _ => false

/-- What a move does. -/
def step (r : Runs) : Move → Runs
  | .call now refuses =>
    match r.schedule.call now refuses with
    | (schedule, .skipped) => { r with schedule, fates := r.fates ++ [.skipped] }
    | (schedule, .began) => { r with schedule, inFlight := r.inFlight ++ [none] }
    | (schedule, .died) => { r with schedule, fates := r.fates ++ [.died] }
  | .bodyEnds k e => { r with inFlight := r.inFlight.modify k fun b => b.or (some e) }
  | .finish k =>
    match r.inFlight[k]? with
    | some (some e) =>
      { schedule := r.schedule.finish e
        inFlight := r.inFlight.eraseIdx k
        fates := r.fates ++ [.ended e] }
    | _ => r
  | .drop k =>
    match r.inFlight[k]? with
    | some _ =>
      { schedule := r.schedule.drop
        inFlight := r.inFlight.eraseIdx k
        fates := r.fates ++ [.dropped] }
    | none => r

/-- Moves in turn. -/
def run (r : Runs) (ms : List Move) : Runs := ms.foldl step r

/-- Moves with one more at the end are that one after the others. -/
theorem run_append_singleton (r : Runs) (ms : List Move) (m : Move) :
    r.run (ms ++ [m]) = (r.run ms).step m := by
  simp [run]

/-- What a schedule has counted after so many calls. What makes it active is a run in flight, or a
body that panicked when it was called. -/
structure Balanced (calls : Nat) (r : Runs) : Prop where
  active : r.inFlight.length + r.fates.count .died = r.schedule.active.toNat
  executions : r.schedule.executions = r.fates.countP Fate.isEnd
  failures : r.schedule.failures = r.fates.countP Fate.isBadEnd
  skipped : r.schedule.skipped = r.fates.count .skipped
  calls : calls = r.fates.length + r.inFlight.length

/-- At most one run is in flight, and the schedule is active exactly while one is. Every call was
executed, skipped or dropped, or its run is in flight; and every error and every panic is a failure
of an execution. -/
structure Accounts (calls : Nat) (r : Runs) : Prop where
  alone : r.inFlight.length ≤ 1
  active : r.schedule.active = true ↔ r.inFlight ≠ []
  calls : calls = r.schedule.executions + r.schedule.skipped + r.fates.count .dropped +
    r.inFlight.length
  failures : r.schedule.failures = r.fates.countP Fate.isBad
  bounded : r.schedule.failures ≤ r.schedule.executions

section Balance

variable {r : Runs} {calls : Nat}

/-- A new schedule has counted nothing, and nothing has happened to it. -/
theorem balanced_refl (job : Job) : Balanced 0 { schedule := { job } } := ⟨rfl, rfl, rfl, rfl, rfl⟩

/-- A call keeps the balance, whether it is skipped, begins a run or dies. -/
theorem Balanced.call (h : Balanced calls r) (now : Instant) (refuses : Bool) :
    Balanced (calls + 1) (r.step (.call now refuses)) := by
  have hactive := h.active
  have hcalls := h.calls
  cases hflag : r.schedule.active with
  -- The call is skipped.
  | true =>
    have hstep : r.step (.call now refuses) = { r with
        schedule := { r.schedule with skipped := r.schedule.skipped + 1 }
        fates := r.fates ++ [.skipped] } := by
      simp [step, Schedule.call, Schedule.begin, hflag]
    rw [hstep]
    constructor
    case skipped => simp [h.skipped]
    case calls => simp; omega
    all_goals simp [h.active, h.executions, h.failures, Fate.isEnd, Fate.isBadEnd]
  | false =>
    have hbegin : r.schedule.call now refuses =
        ({ r.schedule with active := true, lastRun := some now },
          if refuses then .died else .began) := by
      simp [Schedule.call, Schedule.begin, hflag]
    rw [hflag, Bool.toNat_false] at hactive
    cases refuses with
    | true =>
      have hstep : r.step (.call now true) = { r with
          schedule := { r.schedule with active := true, lastRun := some now }
          fates := r.fates ++ [.died] } := by
        simp [step, hbegin]
      rw [hstep]
      constructor
      case active => simp; omega
      case calls => simp; omega
      all_goals simp [h.executions, h.failures, h.skipped, Fate.isEnd, Fate.isBadEnd]
    | false =>
      have hstep : r.step (.call now false) = { r with
          schedule := { r.schedule with active := true, lastRun := some now }
          inFlight := r.inFlight ++ [none] } := by
        simp [step, hbegin]
      rw [hstep]
      constructor
      case active => simp; omega
      case calls => simp; omega
      all_goals simp [h.executions, h.failures, h.skipped]

/-- A run that is in flight ends in one way or another. -/
theorem Balanced.of_end (h : Balanced calls r) {k : Nat} (hk : k < r.inFlight.length) {s : Schedule}
    {f : Fate} (hf : f ≠ .died ∧ f ≠ .skipped) (hactive : s.active = false)
    (hexecutions : s.executions = r.schedule.executions + f.isEnd.toNat)
    (hfailures : s.failures = r.schedule.failures + f.isBadEnd.toNat)
    (hskipped : s.skipped = r.schedule.skipped) :
    Balanced calls
      { schedule := s, inFlight := r.inFlight.eraseIdx k, fates := r.fates ++ [f] } := by
  have hheld := h.active
  have hcalls := h.calls
  have hlength := List.length_eraseIdx_of_lt hk
  have hbound := Bool.toNat_le r.schedule.active
  have hcount (p : Fate → Bool) : [f].countP p = (p f).toNat := by
    cases hp : p f <;> simp [hp]
  constructor
  case active => simp [hlength, hactive, hf.1]; omega
  case executions => simp only [List.countP_append, hcount, hexecutions, h.executions]
  case failures => simp only [List.countP_append, hcount, hfailures, h.failures]
  case skipped => simp [hskipped, h.skipped, hf.2]
  case calls => simp [hlength]; omega

/-- Taking note of the end of a run keeps the balance. -/
theorem Balanced.finish (h : Balanced calls r) (k : Nat) :
    Balanced calls (r.step (.finish k)) := by
  unfold step
  dsimp only
  split
  · next e hentry =>
    have hk := (List.getElem?_eq_some_iff.mp hentry).1
    -- An error and a panic count as failures, each once.
    refine h.of_end hk (f := .ended e) (by simp) rfl rfl ?_ rfl
    cases e <;> rfl
  · exact h

/-- Dropping a run keeps the balance. -/
theorem Balanced.drop (h : Balanced calls r) (k : Nat) : Balanced calls (r.step (.drop k)) := by
  unfold step
  dsimp only
  split
  · next b hentry =>
    have hk := (List.getElem?_eq_some_iff.mp hentry).1
    exact h.of_end hk (f := .dropped) (by simp) rfl rfl rfl rfl
  · exact h

/-- Every move keeps the balance. -/
theorem Balanced.step (h : Balanced calls r) (m : Move) :
    Balanced (calls + m.isCall.toNat) (r.step m) := by
  cases m with
  | call now refuses => exact h.call now refuses
  | bodyEnds k e =>
    -- That a body has ended is not noted yet.
    have hlength (f : Option Ending → Option Ending) :
        (r.inFlight.modify k f).length = r.inFlight.length := List.length_modify ..
    exact ⟨(congrArg (· + _) (hlength _)).trans h.active, h.executions, h.failures, h.skipped,
      h.calls.trans (congrArg (_ + ·) (hlength _).symm)⟩
  | finish k => exact h.finish k
  | drop k => exact h.drop k

/-- Whatever happened to a new schedule, it has kept the balance. -/
theorem balanced_run (job : Job) (ms : List Move) :
    Balanced (ms.countP Move.isCall) (run { schedule := { job } } ms) := by
  induction ms using List.reverseRecOn with
  | nil => exact balanced_refl job
  | append_singleton ms m ih =>
    have hcalls : (ms ++ [m]).countP Move.isCall = ms.countP Move.isCall + m.isCall.toNat := by
      cases hm : m.isCall <;> simp [hm]
    rw [run_append_singleton, hcalls]
    exact ih.step m

/-- The balance is what it should be exactly if no body has panicked when it was called. -/
theorem accounts_iff (h : Balanced calls r) : Accounts calls r ↔ .died ∉ r.fates := by
  have hlength := Fate.length_eq r.fates
  have hbad := Fate.countP_isBad r.fates
  have hactive := h.active
  have hcalls := h.calls
  rw [← List.count_eq_zero]
  constructor
  · -- A call that died is in none of the sums.
    intro haccounts
    have hclaimed := haccounts.calls
    rw [h.executions, h.skipped] at hclaimed
    omega
  · intro hnone
    rw [hnone] at hactive hbad hlength
    constructor
    case alone => rw [← Nat.add_zero r.inFlight.length, hactive]; exact Bool.toNat_le _
    case active =>
      rw [← List.length_pos_iff]
      cases hflag : r.schedule.active <;> simp [hflag] at hactive ⊢ <;> omega
    case calls => rw [h.executions, h.skipped]; omega
    case failures => rw [h.failures, hbad]; rfl
    case bounded =>
      rw [h.failures, h.executions]
      exact Fate.countP_isBadEnd_le r.fates

/-- A call finds no run in flight. It begins one exactly if no body has panicked when it was
called. -/
theorem began_iff (h : Balanced calls r) (hnone : r.inFlight = []) (now : Instant) :
    (r.schedule.call now false).2 = .began ↔ .died ∉ r.fates := by
  have hactive := h.active
  rw [hnone, List.length_nil, Nat.zero_add] at hactive
  rw [← List.count_eq_zero, hactive]
  cases hflag : r.schedule.active <;> simp [Schedule.call, Schedule.begin, hflag]

end Balance

/-! ### Main results -/

/-- Calls, ends and drops come in any order. At every moment, and as long as no body has panicked
when it was called, at most one run is in flight, every call is accounted for, and a call that finds
no run in flight begins one. Once a body has panicked when it was called, its schedule is active for
good: the call is not accounted for, the panic is no failure, and no call begins a run. -/
theorem runs_accounted_iff_none_died (job : Job) (ms : List Move) :
    let r := run { schedule := { job } } ms
    let calls := ms.countP Move.isCall
    Balanced calls r ∧ (Accounts calls r ↔ .died ∉ r.fates) ∧
      (r.inFlight = [] → ∀ now, (r.schedule.call now false).2 = .began ↔ .died ∉ r.fates) := by
  have hbalanced := balanced_run job ms
  exact ⟨hbalanced, accounts_iff hbalanced, began_iff hbalanced⟩

/-- A body panics when it is called. Nothing is in flight and nothing was executed, and yet the next
call is skipped. -/
theorem died_blocks_schedule :
    let job : Job := { name := "report", timer := .every 1000, body := .sweep }
    let r := run { schedule := { job } } [.call 0 true]
    ¬ Accounts 1 r ∧ r.inFlight = [] ∧ r.schedule.active = true ∧ r.schedule.executions = 0 ∧
      r.schedule.failures = 0 ∧ (r.schedule.call 1000 false).2 = .skipped := by
  refine ⟨fun haccounts => ?_, by decide⟩
  exact absurd haccounts.calls (by decide)

end Runs

end CommandMesh
