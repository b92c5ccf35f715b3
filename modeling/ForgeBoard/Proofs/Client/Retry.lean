import ForgeBoard.Client.Error
import Mathlib.Algebra.Group.Nat.Defs
import Mathlib.Order.Bounds.Basic

/-!
# Repeated reads are bounded

An operation that is repeated comes to one outcome after the other, and each outcome either ends the
run (`Ends`) or is an error that is retried. The run is watched from outside: `callOn` gives the
outcomes in order and `sleepOn` does nothing, and both write down in a `Watch` what they were asked
for.

* `nanoseconds_backoff`: the delay after an attempt is the first delay times the factor of the
  attempt, up to the limit. No product is lost: one that is out of range is above every limit.
* `backoff_le_maxDelay`, `backoff_mono`: delays keep to the limit and never get shorter, also where
  the factor has reached its greatest value.
* `run_retryFrom`: what a run does from any attempt on, by induction on the repetitions that are
  left.

Result: `bounded_run`.
-/

namespace ForgeBoard

theorem Delay.le_iff {a b : Delay} : a ≤ b ↔ a.nanoseconds ≤ b.nanoseconds :=
  Iff.rfl

theorem Delay.nanoseconds_min (a b : Delay) :
    (min a b).nanoseconds = min a.nanoseconds b.nanoseconds := by
  rw [show min a b = if a ≤ b then a else b from rfl, Nat.min_def]
  exact apply_ite Delay.nanoseconds _ _ _

namespace RetryPolicy

/-! ## Delays -/

/-- The factor doubles with every attempt until it is the greatest word. -/
theorem toNat_factor (attempt : UInt32) :
    (factor attempt).toNat = min (2 ^ (attempt.toNat - 1)) (UInt32.size - 1) := by
  unfold factor
  dsimp only
  split
  · next h =>
    have hlt : 2 ^ (attempt.toNat - 1) < UInt32.size :=
      Nat.pow_lt_pow_right Nat.one_lt_two h
    rw [Nat.one_shiftLeft, UInt32.toNat_ofNat_of_lt' hlt, Nat.min_eq_left (by omega)]
  · next h =>
    have hle : 2 ^ 32 ≤ 2 ^ (attempt.toNat - 1) :=
      Nat.pow_le_pow_right Nat.two_pos (Nat.le_of_not_lt h)
    have hsize : UInt32.size = 2 ^ 32 := rfl
    rw [Nat.min_eq_right (by omega)]
    rfl

theorem factor_mono {a b : UInt32} (h : a ≤ b) : (factor a).toNat ≤ (factor b).toNat := by
  rw [toNat_factor, toNat_factor]
  have hpow : 2 ^ (a.toNat - 1) ≤ 2 ^ (b.toNat - 1) :=
    Nat.pow_le_pow_right Nat.two_pos (Nat.sub_le_sub_right (UInt32.le_iff_toNat_le.mp h) 1)
  omega

/-- **Delays are exact**, although products are checked: one that is out of range is above every
limit. -/
theorem nanoseconds_backoff (p : RetryPolicy) (attempt : UInt32) :
    (p.backoff attempt).nanoseconds =
      min (p.baseDelay.nanoseconds * (factor attempt).toNat) p.maxDelay.nanoseconds := by
  rw [backoff, Delay.nanoseconds_min]
  unfold Delay.times?
  split
  · rfl
  · next h =>
    have := p.maxDelay.inRange
    rw [Option.getD_none]
    omega

theorem backoff_le_maxDelay (p : RetryPolicy) (attempt : UInt32) :
    p.backoff attempt ≤ p.maxDelay := by
  rw [Delay.le_iff, nanoseconds_backoff]
  exact Nat.min_le_right _ _

theorem backoff_mono (p : RetryPolicy) {a b : UInt32} (h : a ≤ b) : p.backoff a ≤ p.backoff b := by
  rw [Delay.le_iff, nanoseconds_backoff, nanoseconds_backoff]
  have := Nat.mul_le_mul_left p.baseDelay.nanoseconds (factor_mono h)
  omega

/-! ## Runs that are watched -/

/-- What a run does to the world. -/
inductive Act where
  | call
  | sleep (d : Delay)
  deriving DecidableEq

/-- What was seen of a run: how often the operation was called, and all that was done, in order. -/
structure Watch where
  calls : Nat
  acts : List Act
  deriving DecidableEq

def Watch.start : Watch := ⟨0, []⟩

variable {α : Type}

/-- An operation that comes to the outcomes in their order, counted from 1. -/
def callOn (outcome : Nat → Except ClientError α) : StateM Watch (Except ClientError α) :=
  fun w => (outcome (w.calls + 1), ⟨w.calls + 1, w.acts ++ [.call]⟩)

def sleepOn (d : Delay) : StateM Watch Unit :=
  fun w => ((), { w with acts := w.acts ++ [.sleep d] })

/-- The outcome ends a run: it is a success, or an error that is not retried. -/
def Ends : Except ClientError α → Prop
  | .ok _ => True
  | .error e => e.isRetried = false

/-- The greatest number of attempts. -/
def attempts (p : RetryPolicy) : Nat :=
  max 1 p.maxAttempts.toNat

/-- Attempts `i` to `n`: a call in each, and a delay after each but the last. -/
def actsOf (p : RetryPolicy) (i n : Nat) : List Act :=
  (List.range' i (n - i)).flatMap (fun j => [.call, .sleep (p.backoff (.ofNat j))]) ++ [.call]

theorem actsOf_self (p : RetryPolicy) (n : Nat) : p.actsOf n n = [.call] := by
  rw [actsOf, Nat.sub_self]
  rfl

theorem actsOf_of_lt (p : RetryPolicy) {i n : Nat} (h : i < n) :
    p.actsOf i n = .call :: .sleep (p.backoff (.ofNat i)) :: p.actsOf (i + 1) n := by
  rw [actsOf, show n - i = n - (i + 1) + 1 by omega, List.range'_succ, List.flatMap_cons]
  rfl

/-! ### One attempt -/

section

variable (p : RetryPolicy) {outcome : Nat → Except ClientError α} {w : Watch}

theorem run_callOn (outcome : Nat → Except ClientError α) (w : Watch) :
    (callOn outcome).run w = (outcome (w.calls + 1), ⟨w.calls + 1, w.acts ++ [.call]⟩) :=
  rfl

/-- An outcome that ends the run is the result, however many repetitions are left. -/
theorem run_retryFrom_of_ends (h : Ends (outcome (w.calls + 1))) (repeats : Nat)
    (attempt : UInt32) :
    (p.retryFrom sleepOn (callOn outcome) repeats attempt).run w =
      (outcome (w.calls + 1), ⟨w.calls + 1, w.acts ++ [.call]⟩) := by
  cases repeats with
  | zero => exact run_callOn outcome w
  | succ repeats =>
    rw [retryFrom, StateT.run_bind, run_callOn]
    cases ho : outcome (w.calls + 1) with
    | ok a => rfl
    | error e =>
      rw [ho] at h
      have he : ¬ e.isRetried = true := ne_true_of_eq_false h
      show StateT.run (ite (e.isRetried = true) _ _) _ = _
      rw [if_neg he]
      rfl

/-- After any other outcome there is a delay, and the next attempt follows. -/
theorem run_retryFrom_of_not_ends (h : ¬ Ends (outcome (w.calls + 1))) (repeats : Nat)
    (attempt : UInt32) :
    (p.retryFrom sleepOn (callOn outcome) (repeats + 1) attempt).run w =
      (p.retryFrom sleepOn (callOn outcome) repeats (attempt + 1)).run
        ⟨w.calls + 1, w.acts ++ [.call, .sleep (p.backoff attempt)]⟩ := by
  rw [retryFrom, StateT.run_bind, run_callOn]
  cases ho : outcome (w.calls + 1) with
  | ok a => exact absurd (ho ▸ trivial) h
  | error e =>
    rw [ho] at h
    have he : e.isRetried = true := Bool.of_not_eq_false h
    show StateT.run (ite (e.isRetried = true) _ _) _ = _
    rw [if_pos he, show w.acts ++ [.call, .sleep (p.backoff attempt)] =
      w.acts ++ [.call] ++ [.sleep (p.backoff attempt)] by simp]
    rfl

end

/-! ### The whole run -/

/-- **A run from any attempt on**, with so many repetitions left: it goes on to the first outcome
that ends it, or to the last attempt. By induction on the repetitions. -/
theorem run_retryFrom (p : RetryPolicy) (outcome : Nat → Except ClientError α)
    (repeats calls : Nat) (acts : List Act) :
    ∃ n, IsLeast {i | calls + 1 ≤ i ∧ (Ends (outcome i) ∨ i = calls + 1 + repeats)} n ∧
      (p.retryFrom sleepOn (callOn outcome) repeats (.ofNat (calls + 1))).run ⟨calls, acts⟩ =
        (outcome n, ⟨n, acts ++ p.actsOf (calls + 1) n⟩) := by
  induction repeats generalizing calls acts with
  | zero =>
    refine ⟨calls + 1, ⟨⟨Nat.le_refl _, .inr rfl⟩, fun i hi => hi.1⟩, ?_⟩
    rw [actsOf_self]
    rfl
  | succ repeats ih =>
    by_cases hends : Ends (outcome (calls + 1))
    · refine ⟨calls + 1, ⟨⟨Nat.le_refl _, .inl hends⟩, fun i hi => hi.1⟩, ?_⟩
      rw [run_retryFrom_of_ends p hends, actsOf_self]
    · obtain ⟨n, ⟨⟨hn, hlast⟩, hleast⟩, hrun⟩ := ih (calls + 1)
        (acts ++ [.call, .sleep (p.backoff (.ofNat (calls + 1)))])
      refine ⟨n, ⟨⟨by omega, hlast.imp_right (by omega)⟩, ?_⟩, ?_⟩
      · rintro i ⟨hi, hset⟩
        have hne : i ≠ calls + 1 := by
          rintro rfl
          exact hset.elim hends (by omega)
        exact hleast ⟨by omega, hset.imp_right (by omega)⟩
      · rw [run_retryFrom_of_not_ends p hends, ← UInt32.ofNat_one, ← UInt32.ofNat_add, hrun,
          p.actsOf_of_lt hn]
        simp

/-- **Repeated reads are bounded.** The run ends at the first outcome that ends it, or at the last
attempt that the policy allows. It calls the operation in each attempt up to this one, sleeps
between them for the delays of the attempts that failed, and has the last outcome as its result. The
number of attempts is a word, delays never get shorter, none is longer than the limit, and none is
lost to an overflow. -/
theorem bounded_run (p : RetryPolicy) (outcome : Nat → Except ClientError α) :
    (∃ n, IsLeast {i | 1 ≤ i ∧ (Ends (outcome i) ∨ i = p.attempts)} n ∧
      (p.retry sleepOn (callOn outcome)).run .start = (outcome n, ⟨n, p.actsOf 1 n⟩)) ∧
    p.attempts < UInt32.size ∧
    (∀ a b : UInt32, a ≤ b → p.backoff a ≤ p.backoff b) ∧
    (∀ a, p.backoff a ≤ p.maxDelay) ∧
    ∀ a, (p.backoff a).nanoseconds =
      min (p.baseDelay.nanoseconds * min (2 ^ (a.toNat - 1)) (UInt32.size - 1))
        p.maxDelay.nanoseconds := by
  have hattempts : 0 + 1 + (p.maxAttempts.toNat - 1) = p.attempts := by
    unfold attempts
    omega
  have hsize : p.attempts < UInt32.size := by
    have := p.maxAttempts.toNat_lt
    simp only [attempts, UInt32.size]
    omega
  have hrun := run_retryFrom p outcome (p.maxAttempts.toNat - 1) 0 []
  rw [hattempts] at hrun
  refine ⟨hrun, hsize, fun _ _ => p.backoff_mono, p.backoff_le_maxDelay, fun a => ?_⟩
  rw [nanoseconds_backoff, toNat_factor]

example :
    (standard.retry sleepOn (callOn fun i =>
      if i < 3 then .error (.status "gitlab" 502 none) else .ok i)).run .start =
      (.ok 3, ⟨3, [.call, .sleep (.ofMilliseconds 200), .call, .sleep (.ofMilliseconds 400),
        .call]⟩) := by
  rfl

end RetryPolicy

end ForgeBoard
