import CommandMesh.Election.Basic
import CommandMesh.Router.Table

/-!
# `CommandMesh.Policy`: the settings of a node

`RetryPolicy` and `NodePolicy` have a default for every setting, so a file needs to name only what
it changes. `RetryPolicy.backoff` is the time before a retry: it doubles from one retry to the next
and is capped.

Settings are words of 32 and 64 bits, as they are written in a file, and any word is admitted. The
arithmetic of the backoff is that of words: the power of two is got by a shift of 16 places at most,
and the product is the greatest word where it would not fit, so that nothing wraps before the cap is
put on. Spans of nanoseconds are made of the result.
-/

set_option autoImplicit false

namespace CommandMesh

/-- How requests are repeated that had no answer in time. Spans are in milliseconds. -/
structure RetryPolicy where
  maxAttempts : UInt32
  initialBackoff : UInt64
  maxBackoff : UInt64
  /-- The most that is added at random to the time before a retry. -/
  jitter : UInt64
deriving DecidableEq

namespace RetryPolicy

/-- Three attempts, a fifth of a second apart at first. -/
def default : RetryPolicy where
  maxAttempts := 3
  initialBackoff := 200
  maxBackoff := 5000
  jitter := 100

/-- The product, or the greatest word if it does not fit. -/
def saturatingMul (a b : UInt64) : UInt64 :=
  if a.toNat * b.toNat < UInt64.size then a * b else UInt64.ofNat (UInt64.size - 1)

/-- How often the first time is doubled before retry number `retry`: once for each retry after the
first, sixteen times at most. -/
def doublings (retry : UInt32) : UInt64 :=
  if retry = 0 then 0 else min (retry.toUInt64 - 1) 16

/-- The milliseconds before retry number `retry`, counted from one, without jitter. -/
def backoff (p : RetryPolicy) (retry : UInt32) : UInt64 :=
  min (saturatingMul p.initialBackoff (1 <<< doublings retry)) p.maxBackoff

/-- The time before a retry, without jitter. -/
def backoffSpan (p : RetryPolicy) (retry : UInt32) : Span := .ofMillis (p.backoff retry).toNat

/-- The layout of a policy. Members that are left out have their default values. -/
def wire : Wire .value RetryPolicy :=
  .iso
    (.record <| .withDefault "max_attempts" .word32 default.maxAttempts
      <| .withDefault "initial_backoff_ms" .word64 default.initialBackoff
      <| .withDefault "max_backoff_ms" .word64 default.maxBackoff
      <| .withDefault "jitter_ms" .word64 default.jitter .done)
    (fun (a, i, m, j, ()) => ⟨a, i, m, j⟩)
    (fun p => (p.maxAttempts, p.initialBackoff, p.maxBackoff, p.jitter, ()))
    (fun _ => rfl) (fun _ => rfl)

end RetryPolicy

/-- The settings of a node. Spans are in milliseconds. -/
structure NodePolicy where
  /-- The channel that answers to the node's requests are addressed to. -/
  responseChannel : String
  requestTimeout : UInt64
  /-- How often requests that wait for an answer are checked for their time. -/
  sweepInterval : UInt64
  allowBlockingSend : Bool
  /-- The most headers whose resolution is remembered. -/
  routeCacheCapacity : UInt64
  retry : RetryPolicy
  election : ElectionPolicy
deriving DecidableEq

namespace NodePolicy

/-- The settings when nothing else is asked for. -/
def default : NodePolicy where
  responseChannel := "response"
  requestTimeout := 30000
  sweepInterval := 1000
  allowBlockingSend := false
  routeCacheCapacity := UInt64.ofNat Router.defaultCapacity
  retry := .default
  election := .default

/-- How long a request waits for its answer. -/
def requestSpan (p : NodePolicy) : Span := .ofMillis p.requestTimeout.toNat

/-- The time between sweeps, a millisecond at least. -/
def sweepSpan (p : NodePolicy) : Span := .ofMillis (max p.sweepInterval.toNat 1)

/-- The layout of the settings. Members that are left out have their default values. -/
def wire : Wire .value NodePolicy :=
  .iso
    (.record <| .withDefault "response_channel_id" .text default.responseChannel
      <| .withDefault "default_request_timeout_ms" .word64 default.requestTimeout
      <| .withDefault "outgoing_sweep_interval_ms" .word64 default.sweepInterval
      <| .withDefault "allow_blocking_send" .bool default.allowBlockingSend
      <| .withDefault "route_cache_capacity" .word64 default.routeCacheCapacity
      <| .withDefault "retry" RetryPolicy.wire default.retry
      <| .withDefault "master_job" ElectionPolicy.wire default.election .done)
    (fun (c, t, s, b, r, p, e, ()) => ⟨c, t, s, b, r, p, e⟩)
    (fun p => (p.responseChannel, p.requestTimeout, p.sweepInterval, p.allowBlockingSend,
      p.routeCacheCapacity, p.retry, p.election, ()))
    (fun _ => rfl) (fun _ => rfl)

end NodePolicy

end CommandMesh
