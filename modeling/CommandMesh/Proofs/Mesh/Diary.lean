import CommandMesh.Proofs.Mesh.Strides
import CommandMesh.Proofs.Mesh.Upkeep
import CommandMesh.Proofs.Schedule.Rhythm

/-!
# `CommandMesh.Proofs.Mesh.Diary`: what happens to a schedule over time

The diary of a schedule lists the beats of moves in turn, each with the time at which it happened. A
mesh keeps no diary. The beats of a move are read off from what is counted about the schedule before
and after it: how often it has run, whether a run is in flight, and how many calls were skipped.

A schedule is given by the place of its node and its number in the timetable of that node. Two
things can happen to it in a mesh. Moves that do not concern it leave its record and the tasks about
it, but time may pass by them up to the end of whatever such a task waits for (`Passes`). And a task
about it may be taken up, which drives it or runs its body. `Keeps` is what has to be shown of an
invariant for both, and `Keeps.moves` carries it through a whole run; the modules about the pace and
the grid of a schedule have one such invariant each.

It is supposed throughout that nobody disturbs the schedule by hand (`Undisturbed`) and that it is
still registered at the end, since one that is removed has no pace to keep. The nodes are orderly,
so that what is registered was made and is driven once only. The theorems:

* `Absent.move`: a schedule that was not there before and is registered by a move. Nothing is
  counted about it yet, and a task has been started to drive it.
* `Logged.passes`, `Logged.takeUp`: what is counted about a schedule agrees with its diary.
* `Awaits.passes`: a task that waits for a time is queued when the time has come.
* `Keeps.moves`: what passing time and tasks about the schedule keep holds after moves in turn.
-/

set_option autoImplicit false

namespace CommandMesh

namespace Schedule

variable {s s' : Schedule} {bs : List Beat}

/-- Nothing happens to a schedule that is left as it is. -/
theorem beats_self (s : Schedule) (now : Instant) : s.beats s now = [] := by simp [beats]

/-- Nothing happens to a schedule whose counts and activity stay the same. -/
theorem beats_of_bare (h : s'.bare = s.bare) (now : Instant) : s.beats s' now = [] := by
  have hexecutions : s'.executions = s.executions := congrArg (·.executions) h
  have hactive : s'.active = s.active := congrArg (·.active) h
  have hskipped : s'.skipped = s.skipped := congrArg (·.skipped) h
  simp [beats, hexecutions, hactive, hskipped]

/-- What happens by a move happens at the time after it. -/
theorem time_of_mem_beats {b : Beat} {now : Instant} (h : b ∈ s.beats s' now) : b.time = now := by
  simp only [beats, List.mem_append, List.mem_ite_nil_right, List.mem_singleton] at h
  rcases h with (⟨-, rfl⟩ | ⟨-, rfl⟩) | ⟨-, rfl⟩ <;> rfl

/-- Counts that agree with the beats still do if nothing is counted. -/
theorem Counts.of_bare (hs : s.Counts bs) (h : s'.bare = s.bare) : s'.Counts bs where
  executions := (congrArg (·.executions) h).trans hs.executions
  skipped := (congrArg (·.skipped) h).trans hs.skipped
  active := by
    have hactive : s'.active = s.active := congrArg (·.active) h
    rw [hactive]
    exact hs.active

end Schedule

namespace Mesh

variable {m m' : Mesh} {x : Nat × Nat} {s : Schedule} {t t' : Task} {w : Work} {p : Progress}
  {now u : Instant} {job : Job} {bs : List Beat}

/-- What has happened to the schedule by one move, as its counts tell. -/
def beats (x : Nat × Nat) (m m' : Mesh) : List Beat :=
  match m.schedule? x.1 x.2, m'.schedule? x.1 x.2 with
  | some s, some s' => s.beats s' m'.now
  | _, _ => []

/-- What happens to the schedule by moves in turn. -/
def diary (x : Nat × Nat) (m : Mesh) : List Move → List Beat
  | [] => []
  | a :: ms => beats x m (m.move a) ++ diary x (m.move a) ms

/-- A move that spares the schedule adds nothing to its diary. -/
theorem Spares.beats_eq (h : Spares x m m') (hs : m.schedule? x.1 x.2 = some s) :
    beats x m m' = [] := by
  obtain ⟨s', hs', hbare⟩ := h.record hs
  unfold beats
  rw [hs, hs']
  exact Schedule.beats_of_bare hbare m'.now

/-! ### Schedules that are newly registered -/

/-- No schedule is listed twice among those that are still to be driven. -/
theorem nodup_undriven (h : ∀ i t, m.timetable? i = some t → t.registered.Nodup) :
    m.undriven.Nodup := by
  have hindices : (m.nodes.zipIdx.map (·.2)).Nodup := by
    rw [List.zipIdx_map_snd]
    exact List.nodup_range'
  rw [List.nodup_iff_pairwise_ne, List.pairwise_map] at hindices
  refine List.nodup_flatMap.mpr ⟨fun ⟨node, i⟩ hmem => ?_, hindices.imp fun {a b} hne => ?_⟩
  · have hnode : m.timetable? i = some node.roster.timetable := by
      rw [timetable?, List.mem_zipIdx_iff_getElem?.mp hmem]
      rfl
    dsimp only
    split
    · exact ((h i _ hnode).map fun _ _ heq => (Prod.mk.inj heq).2).filter _
    · exact List.nodup_nil
  · -- Schedules of different nodes are different.
    have hfirst {c : Node × Nat} {y : Nat × Nat} (hy : y ∈
        if c.1.roster.timetable.scheduler = .timed then
          (c.1.roster.timetable.registered.map fun n => (c.2, n)).filter (!m.driven.contains ·)
        else []) : y.1 = c.2 := by
      split at hy
      · obtain ⟨n, -, rfl⟩ := List.mem_map.mp (List.mem_of_mem_filter hy)
        rfl
      · cases hy
    exact fun y ha hb => hne ((hfirst ha).symm.trans (hfirst hb))

/-- Exactly one task is started to drive a schedule that is still to be driven. -/
theorem newcomers_of_undriven (hnodup : m.undriven.Nodup) (h : x ∈ m.undriven) :
    ∃ k, m.newcomers x = [starting (.drive x.1 x.2) false k] := by
  have hworks := m.work_newcomers x
  rw [List.filter_beq, List.count_eq_one_of_mem hnodup h] at hworks
  obtain ⟨t, hlist, hwork⟩ := List.map_eq_singleton_iff.mp hworks
  have ht : t ∈ m.newcomers x := by simp [hlist]
  obtain ⟨⟨w, k⟩, -, rfl⟩ := List.mem_map.mp (List.mem_of_mem_filter ht)
  exact ⟨k, by rw [hlist, show w = .drive x.1 x.2 from hwork]⟩

/-- The schedule was never made, and there is nothing about it. -/
structure Absent (x : Nat × Nat) (m : Mesh) : Prop where
  unmade : ∃ n : Node, m.nodes[x.1]? = some n ∧ n.roster.timetable.find? x.2 = none
  undriven : x ∉ m.driven
  about : m.about x = []

/-- An orderly node has each schedule registered at most once. -/
theorem nodup_registered (hm : m.Orderly) {i : Nat} {t : Timetable} (ht : m.timetable? i = some t) :
    t.registered.Nodup := by
  obtain ⟨n, hn, rfl⟩ := Option.map_eq_some_iff.mp ht
  have hinStep := (hm n (List.mem_of_getElem? hn)).inStep
  rw [hinStep.registered]
  split
  · exact List.nodup_nil
  · exact hinStep.sound.once

/-- What is registered was made. -/
theorem isSome_of_shouldDrive (hm : m.Orderly) (h : m.shouldDrive x.1 x.2 = true) :
    (m.schedule? x.1 x.2).isSome = true := by
  cases hn : m.nodes[x.1]? with
  | none => simp [shouldDrive, hn] at h
  | some n =>
    have hinStep := (hm n (List.mem_of_getElem? hn)).inStep
    have htracked : x.2 ∈ n.roster.timetable.tracked := by
      by_contra hnot
      rw [shouldDrive_of_not_mem_tracked hn hinStep hnot] at h
      cases h
    rw [schedule?, hn]
    simpa [Timetable.find?] using hinStep.sound.made x.2 htracked

/-- A schedule that was not there before and is registered by a move. Nothing is counted about it
yet, and a task has been started to drive it. -/
theorem Absent.move (habsent : Absent x m) (h : Sane m) (hm : m.Orderly) {a : Move}
    (hfair : a.IsFair) (ha : a.Leaves x m) (hregistered : (m.move a).shouldDrive x.1 x.2 = true) :
    x ∈ (m.move a).driven ∧ (∃ k, (m.move a).about x = [starting (.drive x.1 x.2) false k]) ∧
      ∃ s, (m.move a).schedule? x.1 x.2 = some s ∧ s.bare = { job := s.job } := by
  obtain ⟨n, hn, hunmade⟩ := habsent.unmade
  have hspares : a.Spares x m := by
    refine ha.cases.resolve_right ?_
    rintro ⟨t, ht, -⟩
    rw [habsent.about] at ht
    cases ht
  have hafter := orderly_move hm hfair
  obtain ⟨m', hbypasses, ⟨hmove, hnodes⟩ | hmove⟩ := bypasses_move h hfair hspares
  · -- No node has changed, so the schedule was registered before.
    have hsame : (m.move a).nodes = m.nodes := by
      rcases hmove with hmove | hmove <;> exact (congrArg nodes hmove).trans hnodes
    rw [shouldDrive_congr (timetable?_congr hsame _)] at hregistered
    have hmade := isSome_of_shouldDrive hm hregistered
    rw [schedule?, hn, Option.bind_some, hunmade] at hmade
    cases hmade
  · -- The schedule is registered now and was never driven, so a task is started to drive it.
    rw [hmove] at hregistered hafter ⊢
    have hdrives := hregistered
    rw [shouldDrive_congr (m'.timetable?_settle _)] at hdrives
    have hundriven : x ∈ m'.undriven :=
      mem_undriven.mpr ⟨hdrives, hbypasses.driven ▸ habsent.undriven⟩
    have hnodup : m'.undriven.Nodup :=
      nodup_undriven fun i t ht => nodup_registered hafter ((m'.timetable?_settle i).trans ht)
    refine ⟨m'.driven_settle ▸ List.mem_append_right _ hundriven, ?_, ?_⟩
    · obtain ⟨k, hnew⟩ := newcomers_of_undriven hnodup hundriven
      refine ⟨k, ?_⟩
      rw [tasks_about_settle hdrives, hbypasses.about, habsent.about, hnew]
      rfl
    · obtain ⟨t', ht', hmade⟩ := hbypasses.spares n.roster.timetable (by rw [timetable?, hn]; rfl)
      obtain ⟨s, hs⟩ := Option.isSome_iff_exists.mp (isSome_of_shouldDrive hafter hregistered)
      refine ⟨s, hs, hmade.made hunmade s ?_⟩
      rwa [schedule?_eq, timetable?_settle, ht', Option.bind_some] at hs

/-- The schedule that is made when a host adds a job. -/
theorem schedule?_addJob {i : Nat} {n : Node} (hn : m.nodes[i]? = some n) (job : Job) :
    ((m.move (.act i (.addJob job))).schedule? i n.roster.timetable.schedules.length).map (·.job) =
      some job := by
  have hnode := m.nodes_act i i (.addJob job)
  rw [hn, Option.map_some, if_pos rfl] at hnode
  have htimetable : (n.perform (.addJob job)).1.roster.timetable = n.roster.timetable.add job :=
    n.roster.timetable_addJob job
  rw [schedule?, hnode, Option.bind_some]
  show (Timetable.find? (n.perform (.addJob job)).1.roster.timetable _).map _ = _
  rw [htimetable, Timetable.find?_add_self]
  rfl

/-! ### Keeping a diary -/

/-- Time does not go back. -/
theorem Passes.le (h : Passes x m m') : m.now ≤ m'.now := by
  rcases h.time with hsame | ⟨hle, -⟩
  · exact Nat.le_of_eq hsame.symm
  · exact hle

/-- A task that is queued stays queued, and no time passes. -/
theorem Passes.queued (h : Passes x m m') (ht : t ∈ m.about x) (hrests : Rests m' t t')
    (hnone : t.wait = none) : t'.wait = none ∧ m'.now = m.now := by
  refine ⟨?_, h.time.resolve_right fun hlater => (hlater.2 t ht).1 hnone⟩
  rcases hrests.wait with hsame | ⟨hnone', -⟩
  · exact hsame.trans hnone
  · exact hnone'

/-- The task waits for that time, or it is queued because the time has come. -/
def Awaits (now u : Instant) (wait : Option Wait) : Prop :=
  wait = some (.time u) ∧ now ≤ u ∨ wait = none ∧ now = u

/-- A task that waits for a time goes on waiting, or it is queued just then. -/
theorem Awaits.passes (h : Awaits m.now u t.wait) (ht : t ∈ m.about x) (hpasses : Passes x m m')
    (hrests : Rests m' t t') : Awaits m'.now u t'.wait := by
  rcases h with ⟨hwait, hle⟩ | ⟨hwait, hnow⟩
  · -- Time passes up to the end of the wait at most, so a task that is due is due just then.
    have hbound : m'.now ≤ u := by
      rcases hpasses.time with hsame | ⟨-, hlater⟩
      · exact hsame ▸ hle
      · exact (hlater t ht).2 u hwait
    rcases hrests.wait with hsame | ⟨hnone, hdue⟩
    · exact .inl ⟨hsame.trans hwait, hbound⟩
    · refine .inr ⟨hnone, Nat.le_antisymm hbound ?_⟩
      simpa [isDue, hwait, isOver] using hdue
  · obtain ⟨hnone, hsame⟩ := hpasses.queued ht hrests hwait
    exact .inr ⟨hnone, hsame.trans hnow⟩

/-- A task that is queued after its wait is queued at the time for which it waited. -/
theorem Awaits.now_eq (h : Awaits now u t.wait) (hnone : t.wait = none) : now = u := by
  rcases h with ⟨hwait, -⟩ | ⟨-, hnow⟩
  · simp [hnone] at hwait
  · exact hnow

/-- Once nothing is queued, the time has not come. -/
theorem Awaits.lt (h : Awaits m.now u t.wait) (hsane : Sane m) (hidle : m.queue = [])
    (ht : t ∈ m.tasks) : m.now < u := by
  rcases h with ⟨hwait, -⟩ | ⟨hnone, -⟩
  · exact hsane.timely.time t ht u hwait
  · exact absurd hnone (hsane.tidy.wait_ne_none hidle ht)

/-- The schedule is driven, and what is counted about it agrees with the beats so far. -/
structure Logged (x : Nat × Nat) (job : Job) (m : Mesh) (bs : List Beat) : Prop where
  driven : x ∈ m.driven
  record : ∃ s, m.schedule? x.1 x.2 = some s ∧ s.job = job ∧ s.Counts bs
  past : ∀ b ∈ bs, b.time ≤ m.now

/-- The diary agrees with the counts as time passes. -/
theorem Logged.passes (h : Logged x job m bs) (hpasses : Passes x m m') : Logged x job m' bs where
  driven := hpasses.driven h.driven
  record := by
    obtain ⟨s, hs, hjob, hcounts⟩ := h.record
    obtain ⟨s', hs', hbare⟩ := hpasses.spares.record hs
    exact ⟨s', hs', (congrArg (·.job) hbare).trans hjob, hcounts.of_bare hbare⟩
  past b hb := Nat.le_trans (h.past b hb) hpasses.le

/-- A task about the schedule is taken up, and what it does to the record is noted. -/
theorem Logged.takeUp (h : Logged x job m bs) (hsane : Sane m)
    (hregistered : m.shouldDrive x.1 x.2 = true) (ht : t ∈ m.tasks) (hgoes : t.halted = false)
    (hs : m.schedule? x.1 x.2 = some s) {f : Schedule → Schedule} {new : List Beat}
    (hrun : (m.taken t).run t.work = (m', p)) (htreats : Treats x f (m.taken t) m')
    (hjob : (f s).job = job) (hbeats : s.beats (f s) m.now = new)
    (hcounts : (f s).Counts (bs ++ new)) :
    m.takeUp t.number = (m'.note t p).settle ∧ beats x m (m.takeUp t.number) = new ∧
      Passes x (m'.note t p) (m'.note t p).settle ∧ (m'.note t p).now = m.now ∧
      Logged x job (m'.note t p) (bs ++ new) := by
  -- After the task has done its part the mesh is brought in line, which concerns no record.
  have htaken : m.takeUp t.number = (m'.note t p).settle := by
    rw [takeUp_of_going hsane.tidy ht hgoes, hrun]
  have hrecord : (m'.note t p).schedule? x.1 x.2 = some (f s) := by
    rw [schedule?_note, htreats.record]
    exact congrArg (Option.map f) hs
  have hnow : (m'.note t p).now = m.now := (now_note _ _ _).trans htreats.now
  have hdrives : (m'.note t p).shouldDrive x.1 x.2 = true := by
    rw [shouldDrive_note, htreats.drives]
    exact hregistered
  have hdriven : x ∈ (m'.note t p).driven := by
    rw [driven_note, htreats.driven]
    exact h.driven
  refine ⟨htaken, ?_, passes_settle hdrives hdriven, hnow, hdriven, ⟨f s, hrecord, hjob, hcounts⟩,
    fun b hb => ?_⟩
  · rw [← hbeats, beats, hs, htaken, schedule?_eq, timetable?_settle, ← schedule?_eq, hrecord,
      now_settle, hnow]
  · rw [hnow]
    rcases List.mem_append.mp hb with hold | hnew
    · exact h.past b hold
    · exact Nat.le_of_eq (Schedule.time_of_mem_beats (hbeats ▸ hnew))

/-- What holds of a schedule and its diary as time passes and whichever task about it is taken
up. -/
structure Keeps (x : Nat × Nat) (job : Job) (P : Mesh → List Beat → Prop) : Prop where
  logged : ∀ {m bs}, P m bs → Logged x job m bs
  passes : ∀ {m m' bs}, P m bs → Passes x m m' → P m' bs
  takeUp : ∀ {m bs t}, P m bs → Sane m → m.shouldDrive x.1 x.2 = true → t ∈ m.about x →
    t.number ∈ m.queue → P (m.takeUp t.number) (bs ++ beats x m (m.takeUp t.number))

variable {P : Mesh → List Beat → Prop}

/-- What is kept as time passes and as tasks about the schedule are taken up is kept by any move. -/
theorem Keeps.move (hP : Keeps x job P) (h : P m bs) (hsane : Sane m) {a : Move}
    (hfair : a.IsFair) (ha : a.Leaves x m) (hregistered : (m.move a).shouldDrive x.1 x.2 = true) :
    P (m.move a) (bs ++ beats x m (m.move a)) := by
  -- A move leaves the schedule alone, or it takes up one of its tasks.
  obtain ⟨s, hs, -⟩ := (hP.logged h).record
  rcases ha.cases with hspares | ⟨t, ht, rfl⟩
  · rw [(spares_move hsane hfair hspares).beats_eq hs, List.append_nil]
    exact hP.passes h (passes_move hsane hfair hspares hregistered (hP.logged h).driven)
  · have hbefore := (endures_move hsane hfair ha (by rw [hs]; rfl)).2 hregistered
    simp only [Mesh.move]
    split
    · next hqueued => exact hP.takeUp h hsane hbefore ht hqueued
    · rw [(Spares.refl x m).beats_eq hs, List.append_nil]
      exact h

/-- It holds after moves in turn, as long as the schedule is registered. -/
theorem Keeps.moves (hP : Keeps x job P) (h : P m bs) (hsane : Sane m) {ms : List Move}
    (hms : Undisturbed x m ms) (hregistered : (m.moves ms).shouldDrive x.1 x.2 = true) :
    P (m.moves ms) (bs ++ diary x m ms) := by
  -- A schedule that is registered at the end was registered all the time (`endures_moves`), so each
  -- move keeps what should be kept.
  induction ms generalizing m bs with
  | nil =>
    rw [diary, List.append_nil]
    exact h
  | cons a ms ih =>
    obtain ⟨hfair, ha, hrest⟩ := hms
    obtain ⟨s, hs, -⟩ := (hP.logged h).record
    have hmade := (endures_move hsane hfair ha (by rw [hs]; rfl)).1
    have hafter := (endures_moves (hsane.move hfair) hrest hmade).2 hregistered
    rw [diary, ← List.append_assoc]
    exact ih (hP.move h hsane hfair ha hafter) (hsane.move hfair) hrest hregistered

end Mesh

end CommandMesh
