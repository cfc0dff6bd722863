import CommandMesh.Policy
import Mathlib.Algebra.Group.Nat.Defs

/-!
# `CommandMesh.Proofs.Backoff`: how long a repeated request waits

A request that failed is repeated after a time that doubles from one retry to the next, up to a cap.
`RetryPolicy.backoff` computes the time in words: the first time is multiplied by a power of two
that a shift gives, the product saturates at the greatest word, and the cap is applied last. A retry
has a number of 32 bits, counted from one; the first time and the cap are milliseconds in 64 bits.

The question is whether the bounds of the words ever show. They do not, for three reasons. A retry
doubles sixteen times at most, so that the shift is by less than the width of a word and no digit is
lost. A product that does not fit becomes the greatest word, and no cap is above that, so that under
the cap the saturated product cannot be told from the true one. And the milliseconds become
nanoseconds only after the cap was applied, in unbounded numbers.

No policy is excluded. The first time may be above the cap, the cap may be zero, and a retry may
have the number zero, which nothing is doubled for. The jitter that is added to the time is not part
of it, and neither is whether a request is repeated at all: which calls are made and when is
followed in `CommandMesh.Proofs.Mesh.Retries`, which takes the time before a retry as it is defined.

The theorems:

* `RetryPolicy.doublings_lt`, `RetryPolicy.toNat_factor`: the shift is by less than the width of a
  word, and no digit is lost.
* `RetryPolicy.min_saturatingMul`: a product that saturates is below no cap, and neither is the true
  one.
* `RetryPolicy.toNat_backoff`: the time is therefore what unbounded numbers would give.
* `RetryPolicy.backoffSpan_mono`: a later retry waits at least as long, and so does one under a
  policy with a longer first time or a higher cap.
* `RetryPolicy.backoffSpan_succ_of_lt`, `RetryPolicy.backoffSpan_succ_of_ge`: each retry waits twice
  as long as the one before, up to the cap, and from the seventeenth on as long.
* `RetryPolicy.backoff_doubles_up_to_cap`: all of this together.

`RetryPolicy.steep` is a policy whose product saturates below its cap, so that the cases in which a
word is too small are not empty.
-/

set_option autoImplicit false

namespace CommandMesh

/-! ### Words -/

/-- The lesser of two words stands for the lesser of their numbers. -/
theorem toNat_min (a b : UInt64) : (min a b).toNat = min a.toNat b.toNat := by
  show (if a ≤ b then a else b).toNat = _
  split
  case isTrue h => exact (Nat.min_eq_left (UInt64.le_iff_toNat_le.mp h)).symm
  case isFalse h =>
    have hlt : b.toNat < a.toNat := Nat.lt_of_not_le (mt UInt64.le_iff_toNat_le.mpr h)
    exact (Nat.min_eq_right (Nat.le_of_lt hlt)).symm

namespace RetryPolicy

/-- A product that does not fit is the greatest word. -/
theorem toNat_saturatingMul (a b : UInt64) :
    (saturatingMul a b).toNat = min (a.toNat * b.toNat) (UInt64.size - 1) := by
  unfold saturatingMul
  split
  case isTrue h =>
    rw [UInt64.toNat_mul, Nat.mod_eq_of_lt h]
    omega
  case isFalse h =>
    -- The bound of the words is the greatest word itself.
    rw [UInt64.toNat_ofNat_of_lt' (by decide)]
    omega

/-- Under a cap nobody can tell that a product saturates, for no cap is above the greatest word. -/
theorem min_saturatingMul (a b cap : UInt64) :
    min cap.toNat (saturatingMul a b).toNat = min cap.toNat (a.toNat * b.toNat) := by
  have hcap : cap.toNat < UInt64.size := cap.toNat_lt
  rw [toNat_saturatingMul]
  omega

/-! ### Doublings -/

/-- The first time is doubled once for each retry before, sixteen times at most. -/
theorem toNat_doublings (retry : UInt32) : (doublings retry).toNat = min (retry.toNat - 1) 16 := by
  unfold doublings
  split
  case isTrue h =>
    subst h
    rfl
  case isFalse h =>
    have hpos : 1 ≤ retry.toNat :=
      Nat.one_le_iff_ne_zero.mpr fun hzero => h (UInt32.toNat_inj.mp hzero)
    -- Nothing wraps when one is taken away from the word.
    have hword : (1 : UInt64) ≤ retry.toUInt64 := by
      rw [UInt64.le_iff_toNat_le, UInt32.toNat_toUInt64]
      exact hpos
    rw [toNat_min, UInt64.toNat_sub_of_le _ _ hword, UInt32.toNat_toUInt64]
    rfl

/-- The shift is by less than the width of a word, whatever the number of the retry is. -/
theorem doublings_lt (retry : UInt32) : (doublings retry).toNat < 64 := by
  rw [toNat_doublings]
  omega

/-- The power of two that the shift gives is the true one: no digit is shifted out. -/
theorem toNat_factor (retry : UInt32) :
    ((1 : UInt64) <<< doublings retry).toNat = 2 ^ min (retry.toNat - 1) 16 := by
  have hfits : 2 ^ (doublings retry).toNat < 2 ^ 64 :=
    Nat.pow_lt_pow_right (by decide) (doublings_lt retry)
  rw [UInt64.toNat_shiftLeft, Nat.mod_eq_of_lt (doublings_lt retry), UInt64.toNat_one,
    Nat.one_shiftLeft, Nat.mod_eq_of_lt hfits, toNat_doublings]

/-! ### The time before a retry -/

variable {p q : RetryPolicy} {retry next later : UInt32}

/-- The milliseconds before a retry, in unbounded numbers. -/
theorem toNat_backoff (p : RetryPolicy) (retry : UInt32) :
    (p.backoff retry).toNat =
      min p.maxBackoff.toNat (p.initialBackoff.toNat * 2 ^ min (retry.toNat - 1) 16) := by
  unfold backoff
  -- The cap is put first, for it is under the cap that the product may be taken for the true one.
  rw [toNat_min, Nat.min_comm, min_saturatingMul, toNat_factor]

/-- The time before a retry, to the nanosecond, in unbounded numbers. -/
theorem backoffSpan_eq (p : RetryPolicy) (retry : UInt32) :
    p.backoffSpan retry = .ofMillis
      (min p.maxBackoff.toNat (p.initialBackoff.toNat * 2 ^ min (retry.toNat - 1) 16)) :=
  congrArg Span.ofMillis (toNat_backoff p retry)

/-- A later retry waits at least as long, also under a policy that starts with a longer time or has
a higher cap. -/
theorem backoffSpan_mono (hinitial : p.initialBackoff ≤ q.initialBackoff)
    (hcap : p.maxBackoff ≤ q.maxBackoff) (hlater : retry ≤ later) :
    p.backoffSpan retry ≤ q.backoffSpan later := by
  have hcap : p.maxBackoff.toNat ≤ q.maxBackoff.toNat := UInt64.le_iff_toNat_le.mp hcap
  have hlater : retry.toNat ≤ later.toNat := UInt32.le_iff_toNat_le.mp hlater
  have hdoublings : min (retry.toNat - 1) 16 ≤ min (later.toNat - 1) 16 := by omega
  have hproduct : p.initialBackoff.toNat * 2 ^ min (retry.toNat - 1) 16 ≤
      q.initialBackoff.toNat * 2 ^ min (later.toNat - 1) 16 :=
    Nat.mul_le_mul (UInt64.le_iff_toNat_le.mp hinitial)
      (Nat.pow_le_pow_right (by decide) hdoublings)
  rw [backoffSpan_eq, backoffSpan_eq]
  unfold Span.ofMillis
  exact Nat.mul_le_mul_right _ (by omega)

/-- Up to the seventeenth retry each waits twice as long as the one before, or as long as the cap
says. -/
theorem backoffSpan_succ_of_lt (hpos : 0 < retry.toNat) (hnext : next.toNat = retry.toNat + 1)
    (hlt : retry.toNat < 17) :
    p.backoffSpan next = 2 * p.backoffSpan retry ∨
      p.backoffSpan next = .ofMillis p.maxBackoff.toNat := by
  have hdoublings : min (next.toNat - 1) 16 = min (retry.toNat - 1) 16 + 1 := by omega
  rw [backoffSpan_eq, backoffSpan_eq, hdoublings, Nat.pow_succ, ← Nat.mul_assoc]
  generalize p.initialBackoff.toNat * 2 ^ min (retry.toNat - 1) 16 = product
  cases Nat.le_total p.maxBackoff.toNat (product * 2) with
  | inl hcapped =>
    right
    rw [Nat.min_eq_left hcapped]
  | inr huncapped =>
    -- What is below the cap after it is doubled was so before.
    left
    have hbefore : product ≤ p.maxBackoff.toNat := by omega
    rw [Nat.min_eq_right huncapped, Nat.min_eq_right hbefore, Nat.mul_comm product 2]
    exact Nat.mul_assoc 2 product _

/-- From the seventeenth retry on each waits as long as the one before. -/
theorem backoffSpan_succ_of_ge (hnext : next.toNat = retry.toNat + 1) (hge : 17 ≤ retry.toNat) :
    p.backoffSpan next = p.backoffSpan retry := by
  have hdoublings : min (next.toNat - 1) 16 = min (retry.toNat - 1) 16 := by omega
  rw [backoffSpan_eq, backoffSpan_eq, hdoublings]

/-- The time before a retry is exact, capped and never gets shorter. Let `p` be any policy and
`retry` any number of a retry, zero and the greatest one included.

* The shift is by less than the width of a word and gives the power of two.
* Under the cap the product that saturates cannot be told from the true one.
* So the time is, to the nanosecond, the milliseconds that unbounded numbers give.
* It is no longer than that before the same or a later retry under a policy that starts with the
  same or a longer time and has the same or a higher cap.
* Before the next retry it is twice as long or as long as the cap says. From the seventeenth on it
  stays as it is. -/
theorem backoff_doubles_up_to_cap (p : RetryPolicy) (retry : UInt32) :
    ((doublings retry).toNat < 64 ∧
      ((1 : UInt64) <<< doublings retry).toNat = 2 ^ min (retry.toNat - 1) 16) ∧
    min p.maxBackoff.toNat (saturatingMul p.initialBackoff (1 <<< doublings retry)).toNat =
      min p.maxBackoff.toNat (p.initialBackoff.toNat * 2 ^ min (retry.toNat - 1) 16) ∧
    p.backoffSpan retry = .ofMillis
      (min p.maxBackoff.toNat (p.initialBackoff.toNat * 2 ^ min (retry.toNat - 1) 16)) ∧
    (∀ (q : RetryPolicy) (later : UInt32),
      p.initialBackoff ≤ q.initialBackoff → p.maxBackoff ≤ q.maxBackoff → retry ≤ later →
        p.backoffSpan retry ≤ q.backoffSpan later) ∧
    (∀ next : UInt32, 0 < retry.toNat → next.toNat = retry.toNat + 1 →
      (retry.toNat < 17 → p.backoffSpan next = 2 * p.backoffSpan retry ∨
        p.backoffSpan next = .ofMillis p.maxBackoff.toNat) ∧
      (17 ≤ retry.toNat → p.backoffSpan next = p.backoffSpan retry)) := by
  refine ⟨⟨doublings_lt retry, toNat_factor retry⟩, ?_, backoffSpan_eq p retry,
    fun q later => backoffSpan_mono, fun next hpos hnext => ⟨?_, ?_⟩⟩
  · -- Under the cap the product is the true one.
    rw [min_saturatingMul, toNat_factor]
  · exact backoffSpan_succ_of_lt hpos hnext
  · exact backoffSpan_succ_of_ge hnext

/-- A policy under which the fourth doubling does not fit into a word. -/
def steep : RetryPolicy where
  maxAttempts := 20
  initialBackoff := 0x1000000000000000
  maxBackoff := 0xFFFFFFFFFFFFFF00
  jitter := 0

/-- The product before the fifth retry saturates, and the cap is what is waited from then on. -/
theorem steep_backoff_reaches_cap :
    0 < (4 : UInt32).toNat ∧ (5 : UInt32).toNat = (4 : UInt32).toNat + 1 ∧
      steep.backoffSpan 5 = .ofMillis steep.maxBackoff.toNat ∧
      steep.backoffSpan 4 ≤ steep.backoffSpan 5 ∧
      steep.backoffSpan 18 = steep.backoffSpan 17 := by
  obtain ⟨-, -, -, hmono, hfourth⟩ := backoff_doubles_up_to_cap steep 4
  obtain ⟨-, -, -, -, hseventeenth⟩ := backoff_doubles_up_to_cap steep 17
  refine ⟨by decide, rfl, ?_, hmono steep 5 (by decide) (by decide) (by decide),
    (hseventeenth 18 (by decide) rfl).2 (by decide)⟩
  -- The fifth retry does not wait twice as long as the fourth, so that the cap is what is left.
  exact ((hfourth 5 (by decide) rfl).1 (by decide)).resolve_left (by decide)

end RetryPolicy

end CommandMesh
