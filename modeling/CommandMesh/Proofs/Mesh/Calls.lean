import CommandMesh.Proofs.Mesh.Bystanders
import CommandMesh.Proofs.Mesh.Upkeep
import CommandMesh.Proofs.Node.Retrying

/-!
# `CommandMesh.Proofs.Mesh.Calls`: repeated calls as plain ones in turn

A call that is not repeated sends one request and gives what becomes of it. Each attempt of a
repeated call is such a plain call (`CallState.once`), and `CallState.follow` says what is made of
it: a response is passed to `Mesh.afterResponse`, anything else is left as it is.

So everything that is known of plain calls holds of the attempts of a repeated one: that the request
is answered, times out or is withdrawn, that it leaves nothing behind, and under which id. What a
repeated call adds is only whether it goes on, and after which pause.

A call belongs to a node by its place in the mesh. If there is no such node, the request fails as
that of a node that was not started does. A token may be cancelled at any moment, but a call looks
at it only as it is taken up; while it pauses it is taken up at once when the token is cancelled.
The theorems:

* `attempt_eq`, `run_callWaits_eq`: an attempt, or a call that waits, does what the plain call does,
  and then what follows from it.
* `plain_call`, `plain_callWaits`: a plain call ends or waits for the outcome of its request, under
  an id in normal form.
* `runCall_of_going`, `runCall_of_cancelled`: a repeated call that is taken up makes an attempt, or
  it ends because its token is cancelled.
* `afterResponse_of_settles`, `afterResponse_of_not_settles`: what follows from a response.
-/

set_option autoImplicit false

namespace CommandMesh

/-- The call, but as a plain one: it sends one request. -/
def CallState.once (c : CallState) : CallState where
  call := { c.call with repeated := false }
  since := c.since
  retry := { lastId := none }

/-- What a call gave that ended. -/
def Progress.result? : Progress → Option (Except Failure (Response Json))
  | .done (.called e) => some e.result
  | _ => none

/-- What a call makes of what has become of its plain request. -/
def CallState.follow (c : CallState) : Mesh × Progress → Mesh × Progress
  | (m, .done (.called ⟨.ok r, _⟩)) => m.afterResponse c r
  | (m, .waits (.callWaits _ p withdrawn) wait) => (m, .waits (.callWaits c p withdrawn) wait)
  | x => x

/-- A plain call has ended, or it waits for the outcome of its request. Its id is in normal form. -/
inductive CallState.Plain (c : CallState) : Progress → Prop where
  | ended {result : Except Failure (Response Json)} {took : Span} :
      (∀ r, result = .ok r → Text.correlationForm r.id = r.id) →
      c.Plain (.done (.called ⟨result, took⟩))
  | waits {p : Pending} {withdrawn : Bool} {wait : Wait} : Text.correlationForm p.id = p.id →
      c.Plain (.waits (.callWaits c.once p withdrawn) wait)

namespace Mesh

variable {m m' : Mesh} {c : CallState} {p : Pending} {withdrawn : Bool} {r : Response Json}

/-! ### Plain calls -/

/-- Whether a call that waits withdraws its request now. -/
def withdraws (m : Mesh) (c : CallState) (withdrawn : Bool) : Bool :=
  !withdrawn && m.isCancelled c.call.token

/-- What a call that waits gets to know about its request. -/
def resumed (m : Mesh) (c : CallState) (p : Pending) (withdrawn : Bool) :
    Mesh × Option (Response Json) :=
  m.choose.1.resumeCall c p (m.withdraws c withdrawn) (glance m.choose.2)

/-- A call that waits goes on waiting as long as there is no response. -/
theorem runCallWaits_of_none (h : m.resumed c p withdrawn = (m', none)) :
    m.runCallWaits c p withdrawn =
      (m', .waits (.callWaits c p (withdrawn || m.withdraws c withdrawn))
        (.outcome c.call.node p.ticket
          (if withdrawn || m.withdraws c withdrawn then none else c.call.token))) := by
  have hresumed : m.choose.1.resumeCall c p (!withdrawn && m.choose.1.isCancelled c.call.token)
      (glance m.choose.2) = (m', none) := h
  unfold runCallWaits
  dsimp only
  rw [hresumed]
  rfl

/-- A call that waits goes on with what follows from the response, once there is one. -/
theorem runCallWaits_of_some (h : m.resumed c p withdrawn = (m', some r)) :
    m.runCallWaits c p withdrawn = m'.afterResponse c r := by
  have hresumed : m.choose.1.resumeCall c p (!withdrawn && m.choose.1.isCancelled c.call.token)
      (glance m.choose.2) = (m', some r) := h
  unfold runCallWaits
  dsimp only
  rw [hresumed]

/-- The response has the id under which the request waited. -/
theorem id_of_resumed (h : m.resumed c p withdrawn = (m', some r)) : r.id = p.id := by
  unfold resumed resumeCall onNode at h
  dsimp only at h
  split at h
  · simp at h
  · next n _ =>
    exact Node.id_continueSend (Prod.ext rfl (Prod.mk.inj h).2)

/-- A call that waits does what the plain call does, and then what follows from it. -/
theorem run_callWaits_eq (m : Mesh) (c : CallState) (p : Pending) (withdrawn : Bool) :
    m.run (.callWaits c p withdrawn) = c.follow (m.run (.callWaits c.once p withdrawn)) := by
  show m.runCallWaits c p withdrawn = c.follow (m.runCallWaits c.once p withdrawn)
  have honce : m.resumed c.once p withdrawn = m.resumed c p withdrawn := rfl
  cases h : m.resumed c p withdrawn with
  | mk m' o =>
    rw [h] at honce
    cases o with
    | none =>
      rw [runCallWaits_of_none h, runCallWaits_of_none honce]
      rfl
    | some r =>
      rw [runCallWaits_of_some h, runCallWaits_of_some honce]
      rfl

/-- A plain call that waits ends or goes on waiting. -/
theorem plain_callWaits (m : Mesh) (c : CallState) (hp : Text.correlationForm p.id = p.id)
    (withdrawn : Bool) : c.Plain (m.run (.callWaits c.once p withdrawn)).2 := by
  show c.Plain (m.runCallWaits c.once p withdrawn).2
  cases h : m.resumed c.once p withdrawn with
  | mk m' o =>
    cases o with
    | none =>
      rw [runCallWaits_of_none h]
      exact .waits hp
    | some r =>
      rw [runCallWaits_of_some h]
      refine .ended fun r' hr' => ?_
      rw [← Except.ok.inj hr', id_of_resumed h]
      exact hp

/-- The request of an attempt begins. -/
def begin (m : Mesh) (c : CallState) : Mesh × SendStart Json :=
  m.onNode c.call.node (.failed (.notStarted "")) fun n => n.beginSend c.call.letter m.now

/-- The request of an attempt fails, or it waits or ends under an id in normal form. -/
theorem normal_begin (m : Mesh) (c : CallState) : (m.begin c).2.Normal := by
  unfold begin onNode
  split
  · trivial
  · exact Node.normal_beginSend _ _ _

/-- What an attempt comes to after its request has begun. -/
theorem attempt_of_begin {s : SendStart Json} (h : m.begin c = (m', s)) :
    m.attempt c = match s with
      | .failed f => m'.endCall c (.error f)
      | .ended r => m'.afterResponse c r
      | .waits p => m'.runCallWaits c p false := by
  have hbegun : (m.onNode c.call.node (.failed (.notStarted "")) fun n =>
      n.beginSend c.call.letter m.now) = (m', s) := h
  unfold attempt
  dsimp only
  rw [hbegun]
  cases s <;> rfl

/-- An attempt does what the plain call does, and then what follows from it. -/
theorem attempt_eq (m : Mesh) (c : CallState) :
    m.attempt c = c.follow (m.run (.call c.once)) := by
  show m.attempt c = c.follow (m.attempt c.once)
  -- How the request begins does not depend on whether the call is repeated.
  have honce : m.begin c.once = m.begin c := rfl
  cases h : m.begin c with
  | mk m' s =>
    rw [h] at honce
    rw [attempt_of_begin h, attempt_of_begin honce]
    cases s with
    | failed f => rfl
    | ended r => rfl
    | waits p => exact run_callWaits_eq m' c p false

/-- A plain call that begins ends or waits. -/
theorem plain_call (m : Mesh) (c : CallState) : c.Plain (m.run (.call c.once)).2 := by
  show c.Plain (m.attempt c.once).2
  have hnormal := m.normal_begin c.once
  cases h : m.begin c.once with
  | mk m' s =>
    rw [h] at hnormal
    rw [attempt_of_begin h]
    cases s with
    | failed f => exact .ended fun r hr => by cases hr
    | ended r =>
      refine .ended fun r' hr' => ?_
      rw [← Except.ok.inj hr']
      exact hnormal
    | waits p => exact plain_callWaits m' c hnormal false

/-! ### Repeated calls -/

section Repeated

variable {n : Node} (hrepeated : c.call.repeated = true)
  (hn : m.nodes[c.call.node]? = some n)

include hrepeated

/-- A repeated call that is not cancelled makes an attempt. -/
theorem runCall_of_going (hgoes : m.isCancelled c.call.token = false) :
    m.runCall c = { c with retry := c.retry.attempt }.follow (m.run (.call c.once)) := by
  have hattempt := m.attempt_eq { c with retry := c.retry.attempt }
  unfold runCall
  rw [hrepeated]
  dsimp only
  rw [hgoes]
  exact hattempt

include hn

/-- A repeated call that finds its token cancelled ends with a response that says so. All that it
asks of the node is an id. -/
theorem runCall_of_cancelled (hcancelled : m.isCancelled c.call.token = true) :
    ∃ took, m.runCall c =
      (m.updateNode c.call.node fun n => (n.draw c.retry.attempt.cancelled (α := Response Json)).1,
        .done (.called ⟨.ok ((c.retry.attempt.cancelled.run n.supply).1), took⟩)) := by
  unfold runCall
  rw [hrepeated]
  dsimp only
  rw [hcancelled, ← fst_onNode m c.call.node (Node.cancelledResponse "")]
  simp only [onNode, hn]
  exact ⟨_, rfl⟩

/-- A response that settles the call ends it. -/
theorem afterResponse_of_settles
    (h : n.setup.policy.retry.Settles c.retry.attempts.toNat (.ok r)) :
    m.afterResponse c r = (m.choose.1, .done (.called ⟨.ok r, m.now - c.since⟩)) := by
  have hafter := Retry.after_of_settles h m.choose.2
  unfold afterResponse
  rw [hrepeated, hn]
  dsimp only
  rw [hafter]
  rfl

/-- After any other response the call pauses, unless it is cancelled meanwhile. -/
theorem afterResponse_of_not_settles
    (h : ¬ n.setup.policy.retry.Settles c.retry.attempts.toNat (.ok r)) :
    ∃ jitter ≤ Span.ofMillis n.setup.policy.retry.jitter.toNat, m.afterResponse c r =
      (m.choose.1, .waits (.callAgain { c with retry := { c.retry with lastId := some r.id } })
        (.timeOr (m.now + (n.setup.policy.retry.backoffSpan c.retry.attempts + jitter))
          c.call.token)) := by
  have hafter := Retry.after_of_not_settles h m.choose.2
  refine ⟨_, Retry.jitter_le _ m.choose.2, ?_⟩
  unfold afterResponse
  rw [hrepeated, hn]
  dsimp only
  rw [hafter]
  rfl

end Repeated

end Mesh

end CommandMesh
