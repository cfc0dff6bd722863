import CommandMesh.Proofs.Node.Discretion
import CommandMesh.Proofs.Text.NormalForm

/-!
# `CommandMesh.Proofs.Node.Retrying`: what a repeated request does next

A request may be repeated while no answer comes in time. What an attempt gave `Settles` the call
unless it tells of a time-out and another attempt is allowed. `Retry.after` says what follows, and
`Retry.cancelled` what a caller gets that has cancelled in between.

Attempts are counted in 32 bits, from one on, and the policy bounds them in 32 bits as well. A
policy that allows none still makes the first attempt: it settles the call whatever it gives. The
pause before the next attempt is that of the backoff and a jitter on top, which is drawn at random
and is at most that of the policy; nothing else is assumed about it. A failure settles a call at
once, and only the status 408 counts as a time-out, whether the node gave it itself or the other
side answered with it.

Between its attempts a call remembers how many there were and the id of the latest one, as the
response gave it. Ids are put into normal form as a request begins, so the normal form that is made
of a remembered id is the id itself. The theorems:

* `Retry.after_of_settles`, `Retry.after_of_not_settles`: the call ends, or a pause follows.
* `Retry.toNat_attempt`: attempts are counted without overflow.
* `Node.normal_beginSend`, `Node.id_continueSend`: a request waits and ends under one id in normal
  form, so the response to a caller that has cancelled has just the id of the latest attempt.
-/

set_option autoImplicit false

namespace CommandMesh

variable {α : Type}

namespace RetryPolicy

variable {p : RetryPolicy} {attempt : Nat} {result : Except Failure (Response α)}

/-- What the attempt of that number gave is what the call gives: a failure, a response other than
that no answer came in time, or whatever the last attempt gave that is allowed. -/
def Settles (p : RetryPolicy) (attempt : Nat) (result : Except Failure (Response α)) : Prop :=
  ∀ r, result = .ok r → r.status = Node.timeoutStatus → p.maxAttempts.toNat ≤ attempt

/-- A failure settles the call, however many attempts are allowed. -/
theorem settles_error (p : RetryPolicy) (attempt : Nat) (f : Failure) :
    p.Settles attempt (.error f : Except Failure (Response α)) := by
  intro r hr
  cases hr

/-- What an attempt gave does not settle the call exactly if it tells of a time-out and another
attempt is allowed. -/
theorem not_settles_iff : ¬ p.Settles attempt result ↔
    ∃ r, result = .ok r ∧ r.status = Node.timeoutStatus ∧ attempt < p.maxAttempts.toNat := by
  unfold Settles
  push Not
  rfl

/-- Whether a response settles the call is what a repeated call asks of it. -/
theorem settles_ok_iff {r : Response α} : p.Settles attempt (.ok r) ↔
    (!r.isTimeout || decide (p.maxAttempts.toNat ≤ attempt)) = true := by
  have htimeout : r.isTimeout = true ↔ r.status = Node.timeoutStatus := beq_iff_eq
  rw [Bool.or_eq_true, Bool.not_eq_true', ← Bool.not_eq_true, htimeout, decide_eq_true_eq,
    ← imp_iff_not_or]
  constructor
  · intro h
    exact h r rfl
  · intro h r' hr'
    obtain rfl := Except.ok.inj hr'
    exact h

end RetryPolicy

namespace Retry

variable {p : RetryPolicy} {r : Retry} {response : Response α}

/-- The jitter is at most that of the policy. -/
theorem jitter_le (p : RetryPolicy) (draw : Nat) :
    jitter p draw ≤ Span.ofMillis p.jitter.toNat := by
  have hdraw : draw % (p.jitter.toNat + 1) ≤ p.jitter.toNat :=
    Nat.le_of_lt_succ (Nat.mod_lt draw (Nat.succ_pos _))
  unfold jitter Span.ofMillis
  exact Nat.mul_le_mul_right _ hdraw

/-- The call ends with the response. -/
theorem after_of_settles (h : p.Settles r.attempts.toNat (.ok response)) (draw : Nat) :
    r.after p response draw = ({ r with lastId := some response.id }, .done response) :=
  if_pos (RetryPolicy.settles_ok_iff.mp h)

/-- Another attempt follows after a pause, and the id of this one is remembered. -/
theorem after_of_not_settles (h : ¬ p.Settles r.attempts.toNat (.ok response)) (draw : Nat) :
    r.after p response draw = ({ r with lastId := some response.id },
      .pause (p.backoffSpan r.attempts + jitter p draw)) :=
  if_neg (mt RetryPolicy.settles_ok_iff.mpr h)

/-- Attempts are counted without overflow, as long as another one is allowed or none was made. -/
theorem toNat_attempt (h : r.attempts.toNat + 1 < UInt32.size) :
    r.attempt.attempts.toNat = r.attempts.toNat + 1 := by
  show (r.attempts + 1).toNat = _
  rw [UInt32.toNat_add]
  exact Nat.mod_eq_of_lt h

/-- A caller that has cancelled after an attempt gets the id of the latest one in normal form. -/
theorem cancelled_of_some {id : String} (h : r.lastId = some id) (s : Supply) :
    ((r.cancelled (α := α)).run s).1 = Node.cancelledResponse (Text.correlationForm id) := by
  unfold cancelled
  rw [h]
  rfl

/-- A caller that has cancelled before any attempt has ended gets a fresh id. -/
theorem cancelled_of_none (h : r.lastId = none) (s : Supply) :
    ((r.cancelled (α := α)).run s).1 =
      Node.cancelledResponse (Text.correlationForm (Supply.fresh.run s).1) := by
  unfold cancelled
  rw [h]
  rfl

/-- A caller that has cancelled gets a response that says so, under some id. -/
theorem exists_cancelled (r : Retry) (s : Supply) :
    ∃ id, ((r.cancelled (α := α)).run s).1 = Node.cancelledResponse id := by
  cases h : r.lastId with
  | some id => exact ⟨_, cancelled_of_some h s⟩
  | none => exact ⟨_, cancelled_of_none h s⟩

end Retry

/-! ### Ids -/

/-- A fresh id is not lost when it is put into normal form. -/
theorem Supply.correlationForm_fresh_ne_empty (s : Supply) :
    Text.correlationForm (fresh.run s).1 ≠ "" := by
  have hname : (fresh.run s).1 = name s.scope s.next := rfl
  have hmem : 'f' ∈ (name s.scope s.next).toList := by simp [name]
  rw [hname]
  exact Text.correlationForm_ne_empty hmem (by decide)

/-- The request goes on or ends under an id in normal form. -/
def SendStart.Normal : SendStart α → Prop
  | .failed _ => True
  | .ended r => Text.correlationForm r.id = r.id
  | .waits p => Text.correlationForm p.id = p.id

namespace Node

/-- A request that is sent waits or ends under the normal form of its key. -/
theorem normal_dispatch (n : Node) (options : SendOptions) (e : Envelope) (now : Instant) :
    (n.dispatch (α := α) options e now).2.Normal := by
  have hnormal := Text.correlationForm_correlationForm e.key
  unfold dispatch
  dsimp only
  split
  · trivial
  · split
    · exact hnormal
    · split
      · exact hnormal
      · exact hnormal

/-- A request that begins fails, or it waits or ends under an id in normal form. -/
theorem normal_beginSend (n : Node) (l : Letter) (now : Instant) :
    (n.beginSend (α := α) l now).2.Normal := by
  unfold beginSend
  split
  · trivial
  · split
    · trivial
    · exact normal_dispatch _ _ _ _

/-- A request that waited ends under the id under which it waited. -/
theorem id_continueSend {n n' : Node} {read : List UInt8 → Except Failure α} {p : Pending}
    {cancelled : Bool} {first : Glance} {r : Response α}
    (h : n.continueSend read p cancelled first = (n', some r)) : r.id = p.id := by
  -- Whatever the outcome, it is told under the id under which the request waited.
  have hsettled (m : Node) (o : Outcome) : (m.settleSend read p o).2.id = p.id := by
    cases o with
    | timedOut | cancelled => rfl
    | answered e =>
      unfold settleSend
      dsimp only
      split
      · rfl
      · split <;> rfl
  cases hresumed : n.resumeSend p cancelled first with
  | mk m o =>
    cases o with
    | none =>
      rw [continueSend_of_none hresumed] at h
      simp at h
    | some o =>
      rw [continueSend_of_some hresumed] at h
      rw [← Option.some.inj (Prod.mk.inj h).2]
      exact hsettled m o

end Node

end CommandMesh
