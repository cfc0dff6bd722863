import CommandMesh.Proofs.Mesh.Calls
import CommandMesh.Proofs.Node.Holdings

/-!
# `CommandMesh.Proofs.Mesh.Retries`: what a repeated call promises

A `CallLog` lists the attempts of a call: when each was made, when and how each ended, and when and
how the call ended. It is kept move by move. What an attempt gives is read off the plain call that
it is (`Mesh.request?`), and what the call gave is what its host finds (`Mesh.callEnd?`).

The call belongs to a node of the mesh and goes by the retry policy of that node, whatever it is.
How the other nodes answer, which messages get lost and what the elections do meanwhile is open, and
so is the order in which queued tasks are taken up. The token of the call may be cancelled at any
moment. Moves are supposed to be fair, and the host of the call not to drop it, since a call that is
dropped just ends without a result. A jitter is drawn anew for each pause and is only known to be at
most that of the policy.

The invariant is `Repeats`. It says that the task of the call stands where the log says
(`CallPhase`): before the first attempt, in the midst of an attempt, or in the pause after one; or
that it is gone and the log has an end. What the log promises by itself is `CallLog.Lawful`, which
is about lists of times and answers alone, so that the arithmetic of pauses stays out of the
argument about moves. The theorems:

* `CallLog.Lawful.send`, `CallLog.Lawful.answer`: what the log promises is kept by one more attempt
  and by one more answer.
* `Live.takeUp`: the task goes on as the log says when it is taken up.
* `Repeats.move`, `repeats_moves`: whatever happens, the task stands where the log says.
* `sent_after`: once the token is cancelled no attempt is made any more.
* `repeated_call_keeps_contract`: all that a repeated call promises, for every run.
* `cancelled_call_keeps_contract`: a call that times out twice and is cancelled during a pause.
-/

set_option autoImplicit false

namespace CommandMesh

/-- How a call has gone so far. -/
structure CallLog where
  /-- When each attempt was made. -/
  sent : List Instant := []
  /-- When each attempt ended, and what it gave. -/
  answers : List (Instant × Except Failure (Response Json)) := []
  /-- When the call ended, and what it gave. -/
  ended : Option (Instant × Except Failure (Response Json)) := none

namespace Mesh

/-- The plain call that work makes or goes on with: none if the token is cancelled before an
attempt. -/
def request? (m : Mesh) : Work → Option Work
  | .call c | .callAgain c => if m.isCancelled c.call.token then none else some (.call c.once)
  | .callWaits c p withdrawn => some (.callWaits c.once p withdrawn)
  | _ => none

/-- Whether an attempt is made when the work is taken up. -/
def sends (m : Mesh) (w : Work) : Bool :=
  match m.request? w with
  | some (.call _) => true
  | _ => false

/-- What an attempt gives, if it ends when the work is taken up. -/
def answer? (m : Mesh) (w : Work) : Option (Except Failure (Response Json)) :=
  (m.request? w).bind fun plain => (m.run plain).2.result?

/-- What is taken for an attempt is one: the call does what the plain call does, and what follows
from that. Otherwise it draws an id at most and says that it was cancelled. -/
def Attempts (m : Mesh) (c : Call) (w : Work) : Prop :=
  match m.request? w with
  | some plain => ∃ cs : CallState, cs.call = c ∧ m.run w = cs.follow (m.run plain)
  | none => ∃ (f : Fresh (Response Json)) (id : String) (took : Span),
      m.run w = (m.updateNode c.node fun n => (n.draw f).1,
        .done (.called ⟨.ok (Node.cancelledResponse id), took⟩))

/-- The task of that number, if the move takes it up and it goes on. -/
def inHand? (m : Mesh) (k : Nat) : Move → Option Task
  | .takeUp number =>
    if number = k ∧ k ∈ m.queue then (m.task? k).filter (!·.halted) else none
  | _ => none

end Mesh

namespace CallLog

/-- What one move adds to the log of the call that is the task of that number. -/
def next (l : CallLog) (k : Nat) (m : Mesh) (a : Mesh.Move) : CallLog where
  -- An attempt that fails at once is made and answered in one move, and ends the call by it.
  sent := l.sent ++
    if (m.inHand? k a).any fun t => (m.taken t).sends t.work then [m.now] else []
  answers := l.answers ++
    (((m.inHand? k a).bind fun t => (m.taken t).answer? t.work).map (m.now, ·)).toList
  ended := l.ended.or (((m.move a).callEnd? k).map fun e => ((m.move a).now, e.result))

/-- What moves in turn add to the log. -/
def after (l : CallLog) (k : Nat) (m : Mesh) : List Mesh.Move → CallLog
  | [] => l
  | a :: ms => after (l.next k m a) k (m.move a) ms

/-- A log that is kept throughout some moves and then throughout others is kept throughout all of
them. -/
theorem after_append (l : CallLog) (k : Nat) (m : Mesh) (ms ms' : List Mesh.Move) :
    l.after k m (ms ++ ms') = (l.after k m ms).after k (m.moves ms) ms' := by
  induction ms generalizing l m with
  | nil => rfl
  | cons a ms ih => exact ih (l.next k m a) (m.move a)

/-! ### What a log promises -/

/-- One attempt follows another after a pause: the one before has ended with a response by which the
call was not settled, and the pause is as long as the policy says. -/
def Follows (p : RetryPolicy) (l : CallLog) (i : Nat) (s : Instant) : Prop :=
  ∃ u r, l.answers[i]? = some (u, .ok r) ∧ ¬ p.Settles (i + 1) (Except.ok (ε := Failure) r) ∧
    u + p.backoffSpan (.ofNat (i + 1)) ≤ s ∧
    s ≤ u + p.backoffSpan (.ofNat (i + 1)) + Span.ofMillis p.jitter.toNat

/-- Attempts follow each other as they should, and an answer that settles the call ends it. -/
structure Lawful (p : RetryPolicy) (l : CallLog) : Prop where
  spaced : ∀ i s, l.sent[i + 1]? = some s → l.Follows p i s
  settled : ∀ i u o, l.answers[i]? = some (u, o) → p.Settles (i + 1) o →
    l.ended = some (u, o) ∧ l.sent.length = i + 1

variable {p : RetryPolicy} {l : CallLog} {s u : Instant} {o : Except Failure (Response Json)}

/-- Nothing has been promised yet, so an empty log keeps it. -/
theorem lawful_empty (p : RetryPolicy) : Lawful p {} := by
  constructor <;> simp

/-- There are no more attempts than are allowed. The first one always is. -/
theorem Lawful.length_sent_le (h : l.Lawful p) : l.sent.length ≤ max 1 p.maxAttempts.toNat := by
  by_cases hone : l.sent.length ≤ 1
  · omega
  · -- The latest attempt is not the first one, so it was allowed after the one before it.
    obtain ⟨i, hi⟩ := Nat.exists_eq_add_of_le' (Nat.lt_of_not_le hone)
    have hlast : l.sent[i + 1]? = some l.sent[i + 1] := List.getElem?_eq_getElem (by omega)
    obtain ⟨u, r, -, hunsettled, -⟩ := h.spaced i _ hlast
    obtain ⟨_, -, -, hallowed⟩ := RetryPolicy.not_settles_iff.mp hunsettled
    omega

/-- One more attempt is made. -/
theorem Lawful.send (h : l.Lawful p) (hnone : l.ended = none)
    (hs : ∀ i, l.sent.length = i + 1 → l.Follows p i s) :
    Lawful p { l with sent := l.sent ++ [s] } where
  spaced := by
    intro i s' hs'
    rw [List.getElem?_append] at hs'
    split at hs'
    · exact h.spaced i s' hs'
    · next hbeyond =>
      obtain ⟨hi, heq⟩ := List.getElem?_eq_some_iff.mp hs'
      have hzero : i + 1 - l.sent.length < 1 := hi
      have hlength : l.sent.length = i + 1 := by omega
      simp only [hlength, Nat.sub_self, List.getElem_cons_zero] at heq
      rw [← heq]
      exact hs i hlength
  settled := by
    intro i u o hanswer hsettles
    have hended := (h.settled i u o hanswer hsettles).1
    rw [hnone] at hended
    cases hended

/-- The latest attempt ends, and with it the call if that settles it. -/
theorem Lawful.answer (h : l.Lawful p) (hnone : l.ended = none)
    (hlength : l.sent.length = l.answers.length + 1)
    {e : Option (Instant × Except Failure (Response Json))}
    (he : p.Settles l.sent.length o → e = some (u, o)) :
    Lawful p { l with answers := l.answers ++ [(u, o)], ended := e } where
  spaced := by
    intro i s hs
    obtain ⟨v, r, hanswer, hrest⟩ := h.spaced i s hs
    have hi : i < l.answers.length := (List.getElem?_eq_some_iff.mp hanswer).1
    exact ⟨v, r, (List.getElem?_append_left hi).trans hanswer, hrest⟩
  settled := by
    intro i v o' hanswer hsettles
    rw [List.getElem?_append] at hanswer
    split at hanswer
    · -- An earlier answer that settled the call would have ended it.
      have hended := (h.settled i v o' hanswer hsettles).1
      rw [hnone] at hended
      cases hended
    · next hbeyond =>
      obtain ⟨hi, heq⟩ := List.getElem?_eq_some_iff.mp hanswer
      have hzero : i - l.answers.length < 1 := hi
      have hlast : l.sent.length = i + 1 := by omega
      simp only [show i - l.answers.length = 0 by omega, List.getElem_cons_zero] at heq
      obtain ⟨rfl, rfl⟩ := Prod.mk.inj heq
      exact ⟨he (hlast ▸ hsettles), hlast⟩

/-- The call ends without another attempt. -/
theorem Lawful.close (h : l.Lawful p) (hnone : l.ended = none)
    (e : Option (Instant × Except Failure (Response Json))) : Lawful p { l with ended := e } where
  spaced := h.spaced
  settled := by
    intro i u o hanswer hsettles
    have hended := (h.settled i u o hanswer hsettles).1
    rw [hnone] at hended
    cases hended

end CallLog

/-- The id in the response of a call that was cancelled between attempts: that of the latest
attempt, which has not settled the call, or if none was made the one that was asked for in normal
form, or else a fresh one. -/
inductive Call.EndsUnder (c : Call) (p : RetryPolicy) (l : CallLog) : String → Prop where
  | latest {u : Instant} {r : Response Json} : l.answers.getLast? = some (u, .ok r) →
      ¬ p.Settles l.sent.length (Except.ok (ε := Failure) r) → c.EndsUnder p l r.id
  | asked {id : String} : l.sent = [] → c.letter.options.correlation = some id →
      c.EndsUnder p l (Text.correlationForm id)
  | fresh {s : Supply} : l.sent = [] → c.letter.options.correlation = none →
      Text.correlationForm (Supply.fresh.run s).1 ≠ "" →
      c.EndsUnder p l (Text.correlationForm (Supply.fresh.run s).1)

/-- Under which id a call ends does not depend on whether the end is noted. -/
theorem Call.EndsUnder.closed {c : Call} {p : RetryPolicy} {l : CallLog} {id : String}
    (h : c.EndsUnder p l id) {e : Option (Instant × Except Failure (Response Json))} :
    c.EndsUnder p { l with ended := e } id := by
  cases h with
  | latest hlast hunsettled => exact .latest hlast hunsettled
  | asked hnone hasked => exact .asked hnone hasked
  | fresh hnone hasked hid => exact .fresh hnone hasked hid

/-- How a call ends: with just what the latest attempt gave, if that settles it, or with a response
that says that it was cancelled, if it was. No attempt is under way then. -/
def CallLog.Closes (p : RetryPolicy) (c : Call) (cancelled : Bool) (l : CallLog) (v : Instant)
    (o : Except Failure (Response Json)) : Prop :=
  l.answers.length = l.sent.length ∧
    (l.answers.getLast? = some (v, o) ∧ p.Settles l.sent.length o ∨
      cancelled = true ∧ ∃ id, o = .ok (Node.cancelledResponse id) ∧ c.EndsUnder p l id)

namespace Mesh

/-! ### How far a call has got -/

/-- The pause up to that time goes on, or it is over because the time has come or the token was
cancelled before. -/
inductive Pauses (now : Instant) (cancelled : Bool) (d : Instant) (token : Option Nat) :
    Option Wait → Prop where
  | on : now < d → cancelled = false → Pauses now cancelled d token (some (.timeOr d token))
  | past : now ≤ d → now = d ∨ cancelled = true → Pauses now cancelled d token none

/-- Where the task of a repeated call stands that has not ended, and how that agrees with the
log. -/
inductive CallPhase (p : RetryPolicy) (c : Call) (now : Instant) (cancelled : Bool) :
    Work → Option Wait → CallLog → Prop where
  /-- It has just begun. -/
  | fresh {since : Instant} : CallPhase p c now cancelled
      (.call ⟨c, since, { lastId := c.letter.options.correlation }⟩) none {}
  /-- An attempt is under way. -/
  | waiting {since : Instant} {retry : Retry} {pending : Pending} {withdrawn : Bool}
      {wait : Option Wait} {l : CallLog} : Text.correlationForm pending.id = pending.id →
      retry.attempts.toNat = l.sent.length → l.sent.length = l.answers.length + 1 →
      CallPhase p c now cancelled (.callWaits ⟨c, since, retry⟩ pending withdrawn) wait l
  /-- An attempt has ended and another one is allowed. -/
  | pausing {since : Instant} {retry : Retry} {wait : Option Wait} {l : CallLog} {u d : Instant}
      {r : Response Json} : retry.attempts.toNat = l.sent.length →
      l.answers.length = l.sent.length → l.answers.getLast? = some (u, .ok r) →
      retry.lastId = some r.id → Text.correlationForm r.id = r.id →
      ¬ p.Settles l.sent.length (Except.ok (ε := Failure) r) →
      u + p.backoffSpan (.ofNat l.sent.length) ≤ d →
      d ≤ u + p.backoffSpan (.ofNat l.sent.length) + Span.ofMillis p.jitter.toNat →
      Pauses now cancelled d c.token wait →
      CallPhase p c now cancelled (.callAgain ⟨c, since, retry⟩) wait l

/-- The call has not ended, and its task stands where the log says. -/
structure Live (p : RetryPolicy) (c : Call) (k : Nat) (m : Mesh) (l : CallLog) : Prop where
  unended : l.ended = none
  unanswered : m.result? k = none
  loop : ∃ t ∈ m.tasks, t.number = k ∧ t.halted = false ∧ t.kept = true ∧
    CallPhase p c m.now (m.isCancelled c.token) t.work t.wait l

/-- The call has ended as it should. -/
structure Over (p : RetryPolicy) (c : Call) (k : Nat) (m : Mesh) (l : CallLog) : Prop where
  gone : Gone k m
  closes : ∃ v o, l.ended = some (v, o) ∧ l.Closes p c (m.isCancelled c.token) v o

/-- The log is lawful, and the task stands where it says. -/
structure Stands (p : RetryPolicy) (c : Call) (k : Nat) (m : Mesh) (l : CallLog) : Prop where
  lawful : l.Lawful p
  task : Live p c k m l ∨ Over p c k m l

/-- The call goes on under that policy as its log says. -/
structure Repeats (p : RetryPolicy) (c : Call) (k : Nat) (m : Mesh) (l : CallLog) : Prop where
  policy : ∃ n : Node, m.nodes[c.node]? = some n ∧ n.setup.policy.retry = p
  unawaited : Unawaited k m
  stands : Stands p c k m l

variable {m m' : Mesh} {p : RetryPolicy} {c : Call} {k : Nat} {l : CallLog} {t : Task} {a : Move}

/-! ### What a move adds to the log -/

/-- A task that has left no result has ended no call. -/
theorem callEnd?_of_none (h : m.result? k = none) : m.callEnd? k = none := by
  unfold callEnd?
  rw [h]

/-- Only a move that takes the task up has it in hand. -/
theorem inHand?_of_ne (ha : a ≠ .takeUp k) : m.inHand? k a = none := by
  cases a with
  | takeUp number =>
    have hother : number ≠ k := fun heq => ha (heq ▸ rfl)
    simp [inHand?, hother]
  | wait | act | launch | drop | cancel | choose | rewire | forget => rfl

/-- A task that is gone is in nobody's hand. -/
theorem inHand?_of_gone (h : Gone k m) : m.inHand? k a = none := by
  cases a with
  | takeUp number =>
    have hnobody : m.task? k = none := by
      refine List.find?_eq_none.mpr fun t ht => ?_
      simpa using h.nobody t ht
    unfold inHand?
    rw [hnobody]
    exact ite_self _
  | wait | act | launch | drop | cancel | choose | rewire | forget => rfl

/-- A task that is queued and was not told to stop is in hand as it is taken up. -/
theorem inHand?_of_queued (h : Sane m) (ht : t ∈ m.tasks) (hqueued : t.number ∈ m.queue)
    (hgoes : t.halted = false) : m.inHand? t.number (.takeUp t.number) = some t := by
  simp [inHand?, hqueued, h.tidy.task?_eq ht, hgoes]

/-- A task that is not queued cannot be taken up, so it is not in hand. -/
theorem inHand?_of_idle (hidle : k ∉ m.queue) : m.inHand? k (.takeUp k) = none :=
  if_neg fun h => hidle h.2

/-- A move by which the task is not taken up adds nothing, unless it gives the call a result. -/
theorem next_eq_self (hhand : m.inHand? k a = none)
    (hend : l.ended = none → (m.move a).result? k = none) : l.next k m a = l := by
  have hended : (l.ended.or (((m.move a).callEnd? k).map fun e => ((m.move a).now, e.result))) =
      l.ended := by
    cases hended : l.ended with
    | some e => rfl
    | none => rw [callEnd?_of_none (hend hended), Option.map_none, Option.or_none]
  unfold CallLog.next
  rw [hhand, hended]
  simp

/-- What is added when the task is taken up. -/
theorem next_of_some (h : m.inHand? k a = some t) (hnone : l.ended = none) :
    l.next k m a = {
      sent := l.sent ++ if (m.taken t).sends t.work then [m.now] else []
      answers := l.answers ++ (((m.taken t).answer? t.work).map (m.now, ·)).toList
      ended := ((m.move a).callEnd? k).map fun e => ((m.move a).now, e.result) } := by
  unfold CallLog.next
  rw [h, hnone]
  simp

/-! ### The task is left alone -/

/-- A task that pauses is queued if the pause is over. -/
theorem pauses_roused {d : Instant} (hwait : t.wait = some (.timeOr d c.token)) (hle : m.now ≤ d) :
    Pauses m.now (m.isCancelled c.token) d c.token (t.roused m.isDue false).wait := by
  unfold Task.roused
  split
  · next hdue =>
    refine .past hle ?_
    have hover : m.isOver (.timeOr d c.token) = true := by simpa [isDue, hwait] using hdue
    rw [isOver, Bool.or_eq_true, decide_eq_true_eq] at hover
    exact hover.imp_left (Nat.le_antisymm hle)
  · next hdue =>
    have hopen : m.isOver (.timeOr d c.token) = false := by simpa [isDue, hwait] using hdue
    rw [isOver, Bool.or_eq_false_iff, decide_eq_false_iff_not] at hopen
    rw [hwait]
    exact .on (Nat.lt_of_not_le hopen.1) hopen.2

/-- A pause goes on until its end or until the token is cancelled, whatever else happens. -/
theorem Pauses.move {d : Instant} (h : Pauses m.now (m.isCancelled c.token) d c.token t.wait)
    (hsane : Sane m) (ht : t ∈ m.tasks) (a : Move) :
    Pauses (m.move a).now ((m.move a).isCancelled c.token) d c.token
      (t.roused (m.move a).isDue false).wait := by
  generalize hwait : t.wait = wait at h
  cases h with
  | on hlater hgoes =>
    exact pauses_roused hwait (now_move_le ht hwait rfl (Nat.le_of_lt hlater) a)
  | past hbound hreason =>
    have hqueued : t.number ∈ m.queue := by
      simpa using (hsane.tidy.queued t ht).mp hwait
    have hnow := now_move_of_queued hqueued a
    rw [Task.wait_roused.mpr (.inl hwait)]
    refine .past (hnow.symm ▸ hbound) ?_
    exact hreason.imp (hnow.trans ·) fun hcancelled => isCancelled_move hcancelled a

/-- A task stands where it stood, whatever else happens; it may be queued because its wait is over.
-/
theorem CallPhase.move (h : CallPhase p c m.now (m.isCancelled c.token) t.work t.wait l)
    (hsane : Sane m) (ht : t ∈ m.tasks) (a : Move) :
    CallPhase p c (m.move a).now ((m.move a).isCancelled c.token) t.work
      (t.roused (m.move a).isDue false).wait l := by
  generalize t.work = w at h ⊢
  generalize hwait : t.wait = wait at h
  cases h with
  | fresh =>
    rw [Task.wait_roused.mpr (.inl hwait)]
    exact .fresh
  -- What an attempt waits for is not told here, since its wait may have any reason.
  | waiting hid hcount hlength => exact .waiting hid hcount hlength
  | pausing hcount hlength hlast hlastId hid hunsettled hearliest hlatest hpauses =>
    exact .pausing hcount hlength hlast hlastId hid hunsettled hearliest hlatest
      (Pauses.move (hwait ▸ hpauses) hsane ht a)

/-- The task of a call drives no schedule. -/
theorem CallPhase.drives {now : Instant} {cancelled : Bool} {w : Work} {wait : Option Wait}
    (h : CallPhase p c now cancelled w wait l) : w.drives? = none := by
  cases h <;> rfl

/-- The attempts are counted as they are made, and one more can be counted. -/
theorem CallPhase.counted {now : Instant} {cancelled : Bool} {w : Work} {wait : Option Wait}
    (h : CallPhase p c now cancelled w wait l) {cs : CallState}
    (hw : w = .call cs ∨ w = .callAgain cs) :
    cs.retry.attempts.toNat = l.sent.length ∧ l.sent.length + 1 < UInt32.size := by
  cases h with
  | fresh =>
    rcases hw with hw | hw
    · cases hw
      exact ⟨rfl, by decide⟩
    · cases hw
  | waiting => rcases hw with hw | hw <;> cases hw
  | pausing hcount _ _ _ _ hunsettled =>
    rcases hw with hw | hw
    · cases hw
    · cases hw
      obtain ⟨-, -, -, hallowed⟩ := RetryPolicy.not_settles_iff.mp hunsettled
      exact ⟨hcount, Nat.lt_of_le_of_lt hallowed p.maxAttempts.toNat_lt⟩

/-- The task stands where it stood, unless it is taken up or dropped. -/
theorem Live.bypass (h : Live p c k m l) (hsane : Sane m) (hun : Unawaited k m)
    (htaken : a ≠ .takeUp k) (hdropped : a ≠ .drop k) :
    l.next k m a = l ∧ Live p c k (m.move a) l := by
  obtain ⟨t, ht, rfl, hgoes, hkept, hphase⟩ := h.loop
  have hnone := result?_move h.unanswered htaken
  refine ⟨next_eq_self (inHand?_of_ne htaken) fun _ => hnone, h.unended, hnone, ?_⟩
  -- Most moves have every task look again whether its wait is over. The others leave its reasons.
  rcases mem_move hun ht hphase.drives htaken hdropped with hmem | ⟨hmem, hnow, hcancelled⟩
  · have hrests := rests_roused (m.move a) t
    refine ⟨_, hmem, hrests.number, hrests.halted.trans hgoes, Task.kept_roused.trans hkept, ?_⟩
    rw [hrests.work]
    exact hphase.move hsane ht a
  · refine ⟨t, hmem, rfl, hgoes, hkept, ?_⟩
    rwa [hnow, isCancelled, hcancelled]

/-- A call that has ended has ended for good. -/
theorem Over.move (h : Over p c k m l) (a : Move) :
    l.next k m a = l ∧ Over p c k (m.move a) l := by
  obtain ⟨v, o, hended, hlength, hcloses⟩ := h.closes
  refine ⟨next_eq_self (inHand?_of_gone h.gone) fun hnone => ?_, h.gone.move a, v, o, hended,
    hlength, hcloses.imp_right fun ⟨hcancelled, hid⟩ => ⟨isCancelled_move hcancelled a, hid⟩⟩
  rw [hnone] at hended
  cases hended

/-! ### The task is taken up -/

section TakeUp

variable (hsane : Sane m) (ht : t ∈ m.tasks) (hqueued : t.number ∈ m.queue)
  (hgoes : t.halted = false) (hkept : t.kept = true)

/-- Taking up a queued task is what the move does. -/
theorem move_takeUp (hqueued : t.number ∈ m.queue) :
    m.move (.takeUp t.number) = m.takeUp t.number := if_pos hqueued

/-- Taking up a task cancels no token. -/
theorem isCancelled_takeUp (m : Mesh) (number : Nat) (token : Option Nat) :
    (m.takeUp number).isCancelled token = m.isCancelled token := by
  rw [isCancelled, cancelled_takeUp, isCancelled]

include hsane ht hqueued hgoes hkept

/-- The call ends when the task is taken up. -/
theorem over_of_done (hnone : l.ended = none) {o : Except Failure (Response Json)} {took : Span}
    (hrun : (m.taken t).run t.work = (m', .done (.called ⟨o, took⟩)))
    {sent : List Instant} {answers : List (Instant × Except Failure (Response Json))}
    (hsent : l.sent ++ (if (m.taken t).sends t.work then [m.now] else []) = sent)
    (hanswers : l.answers ++ (((m.taken t).answer? t.work).map (m.now, ·)).toList = answers)
    (hcloses :
      CallLog.Closes p c (m.isCancelled c.token) ⟨sent, answers, some (m.now, o)⟩ m.now o) :
    l.next t.number m (.takeUp t.number) = ⟨sent, answers, some (m.now, o)⟩ ∧
      Over p c t.number (m.takeUp t.number) ⟨sent, answers, some (m.now, o)⟩ := by
  obtain ⟨hgone, hresult⟩ := takeUp_of_done hsane ht hgoes hkept hrun
  have hend : (m.takeUp t.number).callEnd? t.number = some ⟨o, took⟩ := by
    rw [callEnd?, hresult]
  constructor
  · rw [next_of_some (inHand?_of_queued hsane ht hqueued hgoes) hnone, hsent, hanswers,
      move_takeUp hqueued, hend, now_takeUp]
    rfl
  · refine ⟨hgone, m.now, o, rfl, ?_⟩
    rw [isCancelled_takeUp]
    exact hcloses

/-- The call goes on when the task is taken up. -/
theorem live_of_waits (h : Live p c t.number m l) {w : Work} {wait : Wait}
    (hrun : (m.taken t).run t.work = (m', .waits w wait))
    {sent : List Instant} {answers : List (Instant × Except Failure (Response Json))}
    (hsent : l.sent ++ (if (m.taken t).sends t.work then [m.now] else []) = sent)
    (hanswers : l.answers ++ (((m.taken t).answer? t.work).map (m.now, ·)).toList = answers)
    (hphase : CallPhase p c m.now (m.isCancelled c.token) w
      ({ t with work := w, wait := some wait }.roused (m.takeUp t.number).isDue false).wait
      ⟨sent, answers, none⟩) :
    l.next t.number m (.takeUp t.number) = ⟨sent, answers, none⟩ ∧
      Live p c t.number (m.takeUp t.number) ⟨sent, answers, none⟩ := by
  obtain ⟨hmem, hresult⟩ := takeUp_of_waits hsane ht hgoes hrun hphase.drives
  have hnone := hresult h.unanswered
  constructor
  · rw [next_of_some (inHand?_of_queued hsane ht hqueued hgoes) h.unended, hsent, hanswers,
      move_takeUp hqueued, callEnd?_of_none hnone]
    rfl
  · have hrests := rests_roused (m.takeUp t.number) { t with work := w, wait := some wait }
    refine ⟨rfl, hnone, _, hmem, hrests.number, hrests.halted.trans hgoes,
      Task.kept_roused.trans hkept, ?_⟩
    rw [hrests.work, now_takeUp, isCancelled_takeUp]
    exact hphase

section Answered

variable (h : Live p c t.number m l) {sent : List Instant}
  (hsent : l.sent ++ (if (m.taken t).sends t.work then [m.now] else []) = sent)
  (hlawful : CallLog.Lawful p { l with sent }) (hlength : sent.length = l.answers.length + 1)

include h hsent hlawful hlength

/-- An attempt ends and settles the call. -/
theorem Live.settles {result : Except Failure (Response Json)} {took : Span}
    (hanswer : (m.taken t).answer? t.work = some result) (hsettles : p.Settles sent.length result)
    (hrun : (m.taken t).run t.work = (m', .done (.called ⟨result, took⟩))) :
    Stands p c t.number (m.takeUp t.number) (l.next t.number m (.takeUp t.number)) := by
  have hlengths : (l.answers ++ [(m.now, result)]).length = sent.length := by simp [hlength]
  obtain ⟨hlog, hover⟩ := over_of_done (c := c) hsane ht hqueued hgoes hkept h.unended hrun hsent
    (by rw [hanswer]; rfl) ⟨hlengths, .inl ⟨List.getLast?_concat, hsettles⟩⟩
  rw [hlog]
  exact ⟨hlawful.answer h.unended hlength fun _ => rfl, .inr hover⟩

/-- An attempt ends and another one is allowed. -/
theorem Live.pauses {r : Response Json} {since : Instant} {retry : Retry} {jitter : Span}
    (hanswer : (m.taken t).answer? t.work = some (.ok r))
    (hunsettled : ¬ p.Settles sent.length (Except.ok (ε := Failure) r))
    (hid : Text.correlationForm r.id = r.id) (hcount : retry.attempts.toNat = sent.length)
    (hjitter : jitter ≤ Span.ofMillis p.jitter.toNat)
    (hrun : (m.taken t).run t.work =
      (m', .waits (.callAgain ⟨c, since, { retry with lastId := some r.id }⟩)
        (.timeOr (m.now + (p.backoffSpan retry.attempts + jitter)) c.token))) :
    Stands p c t.number (m.takeUp t.number) (l.next t.number m (.takeUp t.number)) := by
  have hlengths : (l.answers ++ [(m.now, Except.ok r)]).length = sent.length := by simp [hlength]
  have hattempts : UInt32.ofNat sent.length = retry.attempts := by
    rw [← hcount]
    exact UInt32.ofNat_toNat
  have hearliest : m.now + p.backoffSpan (.ofNat sent.length) ≤
      m.now + (p.backoffSpan retry.attempts + jitter) := by
    rw [hattempts, ← Nat.add_assoc]
    exact Nat.le_add_right _ _
  have hlatest : m.now + (p.backoffSpan retry.attempts + jitter) ≤
      m.now + p.backoffSpan (.ofNat sent.length) + Span.ofMillis p.jitter.toNat := by
    rw [hattempts, ← Nat.add_assoc]
    exact Nat.add_le_add_left hjitter _
  -- The pause is over at once if it has no length or the token is cancelled already.
  have hpauses := pauses_roused (m := m.takeUp t.number) (c := c)
    (t := { t with
      work := .callAgain ⟨c, since, { retry with lastId := some r.id }⟩
      wait := some (.timeOr (m.now + (p.backoffSpan retry.attempts + jitter)) c.token) })
    rfl (by rw [now_takeUp]; exact Nat.le_add_right _ _)
  rw [now_takeUp, isCancelled_takeUp] at hpauses
  obtain ⟨hlog, hlive⟩ := live_of_waits hsane ht hqueued hgoes hkept h hrun hsent
    (by rw [hanswer]; rfl)
    (.pausing hcount hlengths List.getLast?_concat rfl hid hunsettled hearliest hlatest hpauses)
  rw [hlog]
  exact ⟨hlawful.answer h.unended hlength fun hs => absurd hs hunsettled, .inl hlive⟩

end Answered

variable (hm : m.Orderly) (hrepeated : c.repeated = true) {n : Node}
  (hn : m.nodes[c.node]? = some n)

include hm hrepeated hn

/-- What follows when the task is taken up and makes an attempt, or goes on with one. -/
theorem Live.follow (h : Live n.setup.policy.retry c t.number m l) (cs : CallState)
    (hcs : cs.call = c) {plain : Work}
    (hrun : (m.taken t).run t.work = cs.follow ((m.taken t).run plain))
    (hplain : cs.Plain ((m.taken t).run plain).2)
    (hrequest : (m.taken t).request? t.work = some plain) {sent : List Instant}
    (hsent : l.sent ++ (if (m.taken t).sends t.work then [m.now] else []) = sent)
    (hlawful : CallLog.Lawful n.setup.policy.retry { l with sent })
    (hlength : sent.length = l.answers.length + 1)
    (hcount : cs.retry.attempts.toNat = sent.length) :
    Stands n.setup.policy.retry c t.number (m.takeUp t.number)
      (l.next t.number m (.takeUp t.number)) := by
  obtain ⟨call, since, retry⟩ := cs
  obtain rfl : call = c := hcs
  have herrands := errands_run (m.taken t) plain
  cases hran : (m.taken t).run plain with
  | mk m' progress =>
  rw [hran] at hrun hplain herrands
  have hnow : m'.now = m.now := herrands.now
  obtain ⟨n', hn', hsetup⟩ := herrands.setup (m := m.taken t) hm hn
  have hanswer : (m.taken t).answer? t.work = progress.result? := by
    rw [answer?, hrequest, Option.bind_some, hran]
  -- The plain call ends or waits, and a response settles the repeated call or leads to a pause.
  cases hplain with
  | @waits pending withdrawn wait hid =>
    obtain ⟨hlog, hlive⟩ := live_of_waits hsane ht hqueued hgoes hkept h hrun hsent
      (by rw [hanswer]; exact List.append_nil _) (.waiting hid hcount hlength)
    rw [hlog]
    exact ⟨h.unended ▸ hlawful, .inl hlive⟩
  | @ended result took hid =>
    cases result with
    | error f =>
      exact h.settles hsane ht hqueued hgoes hkept hsent hlawful hlength hanswer
        (RetryPolicy.settles_error _ _ f) hrun
    | ok r =>
      have hafter : (m.taken t).run t.work = m'.afterResponse ⟨call, since, retry⟩ r := hrun
      by_cases hsettles : n.setup.policy.retry.Settles sent.length (Except.ok (ε := Failure) r)
      · have hsettled := afterResponse_of_settles (c := ⟨call, since, retry⟩) hrepeated hn'
          (by rw [hsetup, hcount]; exact hsettles)
        exact h.settles hsane ht hqueued hgoes hkept hsent hlawful hlength hanswer hsettles
          (hafter.trans hsettled)
      · obtain ⟨jitter, hjitter, hpaused⟩ :=
          afterResponse_of_not_settles (c := ⟨call, since, retry⟩) hrepeated hn'
            (by rw [hsetup, hcount]; exact hsettles)
        rw [hsetup, hnow] at hpaused
        rw [hsetup] at hjitter
        exact h.pauses hsane ht hqueued hgoes hkept hsent hlawful hlength hanswer hsettles
          (hid r rfl) hcount hjitter (hafter.trans hpaused)

/-- What follows when the task is taken up before an attempt. -/
theorem Live.attempt (h : Live n.setup.policy.retry c t.number m l)
    (hlawful : l.Lawful n.setup.policy.retry) (cs : CallState) (hcs : cs.call = c)
    (hwork : t.work = .call cs ∨ t.work = .callAgain cs)
    (hphase : CallPhase n.setup.policy.retry c m.now (m.isCancelled c.token) t.work t.wait l)
    (hlength : l.answers.length = l.sent.length)
    (hends : ∀ s : Supply, ∃ id, (cs.retry.attempt.cancelled.run s).1 =
      Node.cancelledResponse (α := Json) id ∧ c.EndsUnder n.setup.policy.retry l id)
    (hfollows : m.isCancelled c.token = false → ∀ i, l.sent.length = i + 1 →
      l.Follows n.setup.policy.retry i m.now) :
    Stands n.setup.policy.retry c t.number (m.takeUp t.number)
      (l.next t.number m (.takeUp t.number)) := by
  subst hcs
  obtain ⟨hcount, hbound⟩ := hphase.counted hwork
  have hrun : (m.taken t).run t.work = (m.taken t).runCall cs := by
    rcases hwork with hwork | hwork <;> rw [hwork] <;> rfl
  have hrequest : (m.taken t).request? t.work =
      if m.isCancelled cs.call.token then none else some (.call cs.once) := by
    rcases hwork with hwork | hwork <;> rw [hwork] <;> rfl
  -- With the token cancelled the call ends without an attempt, otherwise it makes one more.
  cases hcancelled : m.isCancelled cs.call.token with
  | true =>
    rw [hcancelled, if_pos rfl] at hrequest
    obtain ⟨took, hended⟩ := runCall_of_cancelled (m := m.taken t) hrepeated hn hcancelled
    obtain ⟨id, hid, hends⟩ := hends n.supply
    rw [hid] at hended
    have hsent : l.sent ++ (if (m.taken t).sends t.work then [m.now] else []) = l.sent := by
      simp [sends, hrequest]
    have hanswers : l.answers ++ (((m.taken t).answer? t.work).map (m.now, ·)).toList =
        l.answers := by
      simp [answer?, hrequest]
    obtain ⟨hlog, hover⟩ := over_of_done hsane ht hqueued hgoes hkept h.unended (hrun.trans hended)
      hsent hanswers ⟨hlength, .inr ⟨hcancelled, id, rfl, hends.closed⟩⟩
    rw [hlog]
    exact ⟨hlawful.close h.unended _, .inr hover⟩
  | false =>
    rw [hcancelled, if_neg Bool.false_ne_true] at hrequest
    -- The counter holds the attempts that were made, and this one is counted as it begins.
    have hcounted : cs.retry.attempt.attempts.toNat = (l.sent ++ [m.now]).length := by
      rw [Retry.toNat_attempt (hcount ▸ hbound), hcount, List.length_append, List.length_singleton]
    exact h.follow hsane ht hqueued hgoes hkept hm hrepeated hn
      { cs with retry := cs.retry.attempt } rfl
      (hrun.trans (runCall_of_going hrepeated hcancelled))
      (plain_call _ { cs with retry := cs.retry.attempt }) hrequest
      (by simp [sends, hrequest])
      (hlawful.send h.unended (hfollows hcancelled))
      (by rw [List.length_append, List.length_singleton, hlength]) hcounted

/-- What follows when the task is taken up. -/
theorem Live.takeUp (h : Live n.setup.policy.retry c t.number m l)
    (hlawful : l.Lawful n.setup.policy.retry)
    (hphase : CallPhase n.setup.policy.retry c m.now (m.isCancelled c.token) t.work t.wait l) :
    Stands n.setup.policy.retry c t.number (m.takeUp t.number)
      (l.next t.number m (.takeUp t.number)) := by
  have hready : t.wait = none := (hsane.tidy.queued t ht).mpr (.inl hqueued)
  have hstands := hphase
  rw [hready] at hstands
  generalize hwork : t.work = w at hstands
  cases hstands with
  | @fresh since =>
    refine h.attempt hsane ht hqueued hgoes hkept hm hrepeated hn hlawful
      ⟨c, since, { lastId := c.letter.options.correlation }⟩ rfl (.inl hwork) hphase rfl
      (fun s => ?_) (fun _ i hi => nomatch hi)
    cases hasked : c.letter.options.correlation with
    | some id => exact ⟨_, Retry.cancelled_of_some rfl s, .asked rfl hasked⟩
    | none =>
      exact ⟨_, Retry.cancelled_of_none rfl s,
        .fresh rfl hasked s.correlationForm_fresh_ne_empty⟩
  -- An attempt that is under way has been counted already.
  | @waiting since retry pending withdrawn _ _ hid hcount hlength =>
    exact h.follow hsane ht hqueued hgoes hkept hm hrepeated hn ⟨c, since, retry⟩ rfl
      (hwork ▸ run_callWaits_eq (m.taken t) ⟨c, since, retry⟩ pending withdrawn)
      (plain_callWaits (m.taken t) ⟨c, since, retry⟩ hid withdrawn) (by rw [hwork]; rfl)
      (by rw [hwork]; exact List.append_nil _) hlawful hlength hcount
  | @pausing since retry _ _ u d r _ hlength hlast hlastId hid hunsettled hearliest hlatest
      hpauses =>
    refine h.attempt hsane ht hqueued hgoes hkept hm hrepeated hn hlawful
      ⟨c, since, retry⟩ rfl (.inr hwork) hphase hlength (fun s => ?_)
      (fun hgoes i hi => ?_)
    · refine ⟨r.id, ?_, .latest hlast hunsettled⟩
      rw [Retry.cancelled_of_some (r := retry.attempt) hlastId, hid]
    · -- Nobody has cancelled, so the pause is over because its time has come.
      cases hpauses with
      | past _ hreason =>
        have hnow : m.now = d := hreason.resolve_right (by simp [hgoes])
        rw [hi] at hunsettled hearliest hlatest
        rw [List.getLast?_eq_getElem?, hlength, hi] at hlast
        exact ⟨u, r, hlast, hunsettled, hnow ▸ hearliest, hnow ▸ hlatest⟩

end TakeUp

/-! ### Whatever happens -/

/-- The number of the call was given out before. -/
theorem Stands.lt_next (h : Stands p c k m l) (hsane : Sane m) : k < m.next := by
  rcases h.task with hlive | hover
  · obtain ⟨t, ht, rfl, -⟩ := hlive.loop
    exact hsane.tidy.fresh t ht
  · exact hover.gone.past

/-- Whatever happens, the task stands where the log says, unless its host drops it. -/
theorem Repeats.move (h : Repeats p c k m l) (hsane : Sane m) (hm : m.Orderly)
    (hrepeated : c.repeated = true) (hfair : a.IsFair) (hdropped : a ≠ .drop k) :
    Repeats p c k (m.move a) (l.next k m a) := by
  obtain ⟨n, hn, rfl⟩ := h.policy
  obtain ⟨n', hn', hsetup⟩ := setup_move hm hfair hn
  refine ⟨⟨n', hn', by rw [hsetup]⟩, unawaited_move h.unawaited (h.stands.lt_next hsane) hfair, ?_⟩
  rcases h.stands.task with hlive | hover
  · by_cases htaken : a = .takeUp k
    · subst htaken
      by_cases hqueued : k ∈ m.queue
      · obtain ⟨t, ht, rfl, hgoes, hkept, hphase⟩ := hlive.loop
        rw [move_takeUp hqueued]
        exact hlive.takeUp hsane ht hqueued hgoes hkept hm hrepeated hn h.stands.lawful hphase
      · -- Only a queued task can be taken up, so nothing happens.
        have hsame : m.move (.takeUp k) = m := if_neg hqueued
        rw [next_eq_self (inHand?_of_idle hqueued) fun _ => hsame.symm ▸ hlive.unanswered, hsame]
        exact h.stands
    · obtain ⟨hlog, hlive'⟩ := hlive.bypass hsane h.unawaited htaken hdropped
      rw [hlog]
      exact ⟨h.stands.lawful, .inl hlive'⟩
  · -- The call has ended, so nothing is added to its log.
    obtain ⟨hlog, hover'⟩ := hover.move a
    rw [hlog]
    exact ⟨h.stands.lawful, .inr hover'⟩

/-- Throughout moves in turn the task stands where the log says. -/
theorem repeats_moves (h : Repeats p c k m l) (hsane : Sane m) (hm : m.Orderly)
    (hrepeated : c.repeated = true) {ms : List Move}
    (hms : ∀ a ∈ ms, a.IsFair ∧ a ≠ .drop k) : Repeats p c k (m.moves ms) (l.after k m ms) := by
  induction ms generalizing m l with
  | nil => exact h
  | cons a ms ih =>
    obtain ⟨⟨hfair, hdropped⟩, hms⟩ := List.forall_mem_cons.mp hms
    exact ih (h.move hsane hm hrepeated hfair hdropped) (hsane.move hfair) (orderly_move hm hfair)
      hms

/-- A call that begins stands where an empty log says. -/
theorem repeats_beginCall (hsane : Sane m) (hrecorded : Recorded m) {n : Node}
    (hn : m.nodes[c.node]? = some n) :
    Repeats n.setup.policy.retry c m.next (m.beginCall c).1 {} where
  policy := ⟨n, hn, rfl⟩
  unawaited := by
    intro t ht run hrun
    rcases List.mem_append.mp ht with ht | ht
    · exact Nat.ne_of_lt (hsane.owned t ht run hrun).1
    · rw [List.mem_singleton.mp ht] at hrun
      cases hrun
  stands := by
    refine ⟨CallLog.lawful_empty _, .inl ⟨rfl, hrecorded m.next (Nat.le_refl _), ?_⟩⟩
    exact ⟨_, List.mem_append_right _ (List.mem_singleton_self _), rfl, rfl, rfl, .fresh⟩

/-! ### The contract -/

/-- The task that is in hand is one of the mesh and has the number that is asked for. -/
theorem inHand?_eq_some (h : m.inHand? k a = some t) : t ∈ m.tasks ∧ t.number = k := by
  cases a with
  | takeUp number =>
    unfold inHand? at h
    dsimp only at h
    split at h
    · exact task?_eq_some (Option.filter_eq_some_iff.mp h).1
    · cases h
  | wait | act | launch | drop | cancel | choose | rewire | forget => cases h

/-- Once the token is cancelled no attempt is made any more. -/
theorem CallPhase.sends_eq_false {now : Instant} {w : Work} {wait : Option Wait}
    (h : CallPhase p c now true w wait l) (hcancelled : m.isCancelled c.token = true) :
    m.sends w = false := by
  cases h with
  | fresh | pausing => simp [sends, request?, hcancelled]
  | waiting => rfl

/-- Once the token is cancelled a move adds no attempt to the log. -/
theorem Stands.sent_next (h : Stands p c k m l) (hsane : Sane m)
    (hcancelled : m.isCancelled c.token = true) (a : Move) : (l.next k m a).sent = l.sent := by
  rcases h.task with hlive | hover
  · have hsends : ((m.inHand? k a).any fun t => (m.taken t).sends t.work) = false := by
      rw [Option.any_eq_false]
      intro t hhand
      obtain ⟨hmem, rfl⟩ := inHand?_eq_some hhand
      obtain ⟨u, hu, hnumber, -, -, hphase⟩ := hlive.loop
      obtain rfl := hsane.tidy.eq_of_number hu hmem hnumber
      rw [hcancelled] at hphase
      exact hphase.sends_eq_false (m := m.taken u) hcancelled
    unfold CallLog.next
    rw [hsends]
    exact List.append_nil _
  · rw [(hover.move a).1]

/-- Once the token is cancelled no attempt is made any more, whatever happens. -/
theorem sent_after (h : Repeats p c k m l) (hsane : Sane m) (hm : m.Orderly)
    (hrepeated : c.repeated = true) (hcancelled : m.isCancelled c.token = true) {ms : List Move}
    (hms : ∀ a ∈ ms, a.IsFair ∧ a ≠ .drop k) : (l.after k m ms).sent = l.sent := by
  induction ms generalizing m l with
  | nil => rfl
  | cons a ms ih =>
    obtain ⟨⟨hfair, hdropped⟩, hms⟩ := List.forall_mem_cons.mp hms
    calc (l.after k m (a :: ms)).sent
      _ = (l.next k m a).sent := ih (h.move hsane hm hrepeated hfair hdropped) (hsane.move hfair)
        (orderly_move hm hfair) (isCancelled_move hcancelled a) hms
      _ = l.sent := h.stands.sent_next hsane hcancelled a

/-- Wherever the task stands, what is taken for an attempt is a plain call. -/
theorem CallPhase.attempts {w : Work} {wait : Option Wait}
    (h : CallPhase p c m.now (m.isCancelled c.token) w wait l) (hrepeated : c.repeated = true)
    {n : Node} (hn : m.nodes[c.node]? = some n) : m.Attempts c w := by
  -- The two points before an attempt are alike.
  have hbefore {w : Work} {cs : CallState} (hcs : cs.call = c) (hrun : m.run w = m.runCall cs)
      (hrequest : m.request? w = if m.isCancelled c.token then none else some (.call cs.once)) :
      m.Attempts c w := by
    subst hcs
    unfold Attempts
    rw [hrequest]
    cases hcancelled : m.isCancelled cs.call.token with
    | true =>
      obtain ⟨took, hended⟩ := runCall_of_cancelled hrepeated hn hcancelled
      obtain ⟨id, hid⟩ := cs.retry.attempt.exists_cancelled (α := Json) n.supply
      rw [hid] at hended
      exact ⟨cs.retry.attempt.cancelled, id, took, hrun.trans hended⟩
    | false =>
      exact ⟨{ cs with retry := cs.retry.attempt }, rfl,
        hrun.trans (runCall_of_going hrepeated hcancelled)⟩
  cases h with
  | fresh => exact hbefore rfl rfl rfl
  | pausing => exact hbefore rfl rfl rfl
  | waiting => exact ⟨_, rfl, run_callWaits_eq m _ _ _⟩

/-- What a repeated call promises at any time. -/
structure Contract (p : RetryPolicy) (c : Call) (k : Nat) (m : Mesh) (l : CallLog) : Prop where
  /-- Attempts are made one after the other. -/
  inTurn : l.answers.length ≤ l.sent.length ∧ l.sent.length ≤ l.answers.length + 1
  /-- There are no more than are allowed. The first one always is. -/
  bounded : l.sent.length ≤ max 1 p.maxAttempts.toNat
  /-- Another one is made only if no answer came in time, and after a pause. -/
  spaced : ∀ i s, l.sent[i + 1]? = some s → l.Follows p i s
  /-- Whatever else an attempt gives, and whatever the last one gives, the call gives at once. -/
  settled : ∀ i u o, l.answers[i]? = some (u, o) → p.Settles (i + 1) o →
    l.ended = some (u, o) ∧ l.sent.length = i + 1
  /-- It ends in no other way, unless it is cancelled before an attempt. -/
  closes : ∀ v o, l.ended = some (v, o) → l.Closes p c (m.isCancelled c.token) v o
  /-- It goes on until then: once everybody waits, an attempt is under way, or the call pauses, its
  token is not cancelled and the pause is not over. -/
  goesOn : m.queue = [] → l.ended = none → l.sent.length = l.answers.length + 1 ∨
    m.isCancelled c.token = false ∧ ∃ u r, l.answers.getLast? = some (u, .ok r) ∧
      ¬ p.Settles l.sent.length (Except.ok (ε := Failure) r) ∧
      m.now < u + p.backoffSpan (.ofNat l.sent.length) + Span.ofMillis p.jitter.toNat
  /-- What is taken for an attempt is one. -/
  attempts : ∀ t ∈ m.tasks, t.number = k → (m.taken t).Attempts c t.work
  /-- The counter is right and does not overflow. -/
  counted : ∀ t ∈ m.tasks, t.number = k → ∀ cs, t.work = .call cs ∨ t.work = .callAgain cs →
    cs.retry.attempts.toNat = l.sent.length ∧ l.sent.length + 1 < UInt32.size

/-- The task of a call that has not ended is the one that the log is about. -/
theorem Stands.phase (h : Stands p c k m l) (hsane : Sane m) (ht : t ∈ m.tasks)
    (hnumber : t.number = k) : l.ended = none ∧
      CallPhase p c m.now (m.isCancelled c.token) t.work t.wait l := by
  rcases h.task with hlive | hover
  · obtain ⟨u, hu, rfl, -, -, hphase⟩ := hlive.loop
    obtain rfl := hsane.tidy.eq_of_number ht hu hnumber
    exact ⟨hlive.unended, hphase⟩
  · exact absurd hnumber (hover.gone.nobody t ht)

/-- A call that stands where its log says keeps its contract. -/
theorem Repeats.contract (h : Repeats p c k m l) (hsane : Sane m) (hrepeated : c.repeated = true) :
    Contract p c k m l where
  inTurn := by
    rcases h.stands.task with hlive | hover
    · obtain ⟨t, -, -, -, -, hphase⟩ := hlive.loop
      generalize t.work = w at hphase
      generalize t.wait = wait at hphase
      cases hphase with
      | fresh => exact ⟨Nat.le_refl _, Nat.zero_le _⟩
      | waiting _ _ hlength => omega
      | pausing _ hlength => omega
    · obtain ⟨v, o, -, hlength, -⟩ := hover.closes
      omega
  bounded := h.stands.lawful.length_sent_le
  spaced := h.stands.lawful.spaced
  settled := h.stands.lawful.settled
  closes := by
    intro v o hended
    rcases h.stands.task with hlive | hover
    · rw [hlive.unended] at hended
      cases hended
    · obtain ⟨v', o', hended', hcloses⟩ := hover.closes
      obtain ⟨rfl, rfl⟩ := Prod.mk.inj (Option.some.inj (hended.symm.trans hended'))
      exact hcloses
  goesOn := by
    intro hidle hnone
    rcases h.stands.task with hlive | hover
    · obtain ⟨t, ht, -, -, -, hphase⟩ := hlive.loop
      have hwaits := hsane.tidy.wait_ne_none hidle ht
      generalize t.work = w at hphase
      generalize t.wait = wait at hphase hwaits
      cases hphase with
      | fresh => exact absurd rfl hwaits
      | waiting _ _ hlength => exact .inl hlength
      | pausing _ _ hlast _ _ hunsettled _ hlatest hpauses =>
        cases hpauses with
        | on hlater hgoes =>
          exact .inr ⟨hgoes, _, _, hlast, hunsettled, Nat.lt_of_lt_of_le hlater hlatest⟩
        | past => exact absurd rfl hwaits
    · obtain ⟨v, o, hended, -⟩ := hover.closes
      rw [hnone] at hended
      cases hended
  attempts := by
    intro t ht hnumber
    obtain ⟨n, hn, -⟩ := h.policy
    obtain ⟨-, hphase⟩ := h.stands.phase hsane ht hnumber
    exact CallPhase.attempts (m := m.taken t) hphase hrepeated hn
  counted t ht hnumber _ hw := (h.stands.phase hsane ht hnumber).2.counted hw

/-- A repeated call keeps its contract, whatever happens in the mesh, as long as its host does not
drop it. Once its token is cancelled no attempt is made any more. -/
theorem repeated_call_keeps_contract (hsane : Sane m) (hm : m.Orderly) (hrecorded : Recorded m)
    (hrepeated : c.repeated = true) {n : Node} (hn : m.nodes[c.node]? = some n) {ms : List Move}
    (hms : ∀ a ∈ ms, a.IsFair ∧ a ≠ .drop m.next) :
    let begun := (m.beginCall c).1
    let log := ({} : CallLog).after m.next begun
    Contract n.setup.policy.retry c m.next (begun.moves ms) (log ms) ∧
      ∀ ms₁ ms₂, ms = ms₁ ++ ms₂ → (begun.moves ms₁).isCancelled c.token = true →
        (log ms).sent = (log ms₁).sent := by
  intro begun log
  have hbegun : Sane begun := hsane.spawn rfl rfl true
  -- Beginning the call adds a task and changes no node.
  have horderly : begun.Orderly := hm
  have hrepeats := repeats_beginCall hsane hrecorded hn
  constructor
  · exact (repeats_moves hrepeats hbegun horderly hrepeated hms).contract
      (hbegun.moves fun a ha => (hms a ha).1) hrepeated
  · rintro ms₁ ms₂ rfl hcancelled
    -- The log is kept up to the moment at which the token is cancelled, and from there on.
    obtain ⟨hms₁, hms₂⟩ := List.forall_mem_append.mp hms
    have hfair (a : Move) (ha : a ∈ ms₁) : a.IsFair := (hms₁ a ha).1
    show (({} : CallLog).after m.next begun (ms₁ ++ ms₂)).sent = _
    rw [CallLog.after_append]
    exact sent_after (repeats_moves hrepeats hbegun horderly hrepeated hms₁) (hbegun.moves hfair)
      (orderly_moves horderly hfair) hrepeated hcancelled hms₂

/-- A node that nobody answers. -/
def loneNode : Blueprint where
  name := "till"
  service := some "a"
  link := some .bus

/-- A call that waits a tenth of a second for an answer. -/
def loneCall : Call where
  node := 0
  letter :=
    { channel := "stock", kind := "item", action := "count", body := .ok []
      options := { correlation := some " ab ", wait := some (Span.ofMillis 100) } }
  token := some 7
  repeated := true
  read := fun _ => .error (.codec "no answer is expected")

/-- Two attempts are made in vain, and the call is cancelled during the pause after the second. -/
def loneMoves : List Move :=
  [.act 0 .start, .takeUp 0, .takeUp 1, .takeUp 2, .takeUp 3, .takeUp 2,
    .wait (Span.ofMillis 200), .act 0 (.sweep (Span.ofMillis 200)), .takeUp 0,
    .wait (Span.ofMillis 400), .takeUp 0,
    .wait (Span.ofMillis 600), .act 0 (.sweep (Span.ofMillis 600)), .takeUp 0,
    .cancel 7, .takeUp 0]

/-- A call that is cancelled while it pauses ends under the id of its latest attempt. -/
theorem cancelled_call_keeps_contract :
    ∃ n, loneNode.build { scope := 0 } 0 = .ok n ∧
      let begun := ((connectAll [n]).1.beginCall loneCall).1
      let l := ({} : CallLog).after 0 begun loneMoves
      Contract n.setup.policy.retry loneCall 0 (begun.moves loneMoves) l ∧
        l.sent = [0, Span.ofMillis 400] ∧
        (l.ended.map fun e => (e.1, e.2.toOption.map fun r => (r.id, r.status))) =
          some (Span.ofMillis 600, some ("AB", Node.cancelledStatus)) := by
  have hrun : (loneNode.build { scope := 0 } 0).toOption.any (fun n =>
      let l := ({} : CallLog).after 0 ((connectAll [n]).1.beginCall loneCall).1 loneMoves
      l.sent == [0, Span.ofMillis 400] &&
        (l.ended.map fun e => (e.1, e.2.toOption.map fun r => (r.id, r.status))) ==
          some (Span.ofMillis 600, some ("AB", Node.cancelledStatus))) = true := by
    decide +kernel
  simp only [Option.any_eq_true, Bool.and_eq_true, beq_iff_eq] at hrun
  obtain ⟨n, hbuilt, hsent, hended⟩ := hrun
  have hbuilt := ok_of_toOption hbuilt
  obtain ⟨hnew, -⟩ := Blueprint.isNew_of_build hbuilt
  have horderly : (connectAll [n]).1.Orderly := by
    simpa [Orderly, connectAll] using ⟨hnew.settled, hnew.inStep⟩
  have hfair : ∀ a ∈ loneMoves, a.IsFair ∧ a ≠ .drop 0 := by
    simp [loneMoves, Move.IsFair]
  have hkept := repeated_call_keeps_contract (sane_connectAll [n]) horderly
    (recorded_connectAll [n]) (c := loneCall) rfl (n := n) rfl hfair
  exact ⟨n, hbuilt, hkept.1, hsent, hended⟩

end Mesh

end CommandMesh
