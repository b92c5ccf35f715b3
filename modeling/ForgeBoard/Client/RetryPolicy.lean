/-!
# Retry policies

How often a failed request is repeated, and how long to wait before each repetition: twice as long
every time, up to a limit. A delay that grows out of range is as long as the limit.
-/

namespace ForgeBoard

/-- Delays are shorter than 2^64 seconds. -/
def Delay.limit : Nat := UInt64.size * 1000000000

/-- A length of time to wait. -/
structure Delay where
  nanoseconds : Nat
  inRange : nanoseconds < Delay.limit
  deriving DecidableEq

namespace Delay

/-- A delay of whole milliseconds. -/
def ofMilliseconds (ms : UInt64) : Delay where
  nanoseconds := ms.toNat * 1000000
  inRange := by
    have := ms.toNat_lt
    simp only [limit, UInt64.size]
    omega

/-- The whole milliseconds of a delay. -/
def milliseconds (d : Delay) : Nat :=
  d.nanoseconds / 1000000

instance : LE Delay where
  le a b := a.nanoseconds ≤ b.nanoseconds

instance (a b : Delay) : Decidable (a ≤ b) :=
  inferInstanceAs (Decidable (a.nanoseconds ≤ b.nanoseconds))

instance : Min Delay := minOfLe

/-- The delay so many times over, if that is in range. -/
def times? (d : Delay) (n : UInt32) : Option Delay :=
  if h : d.nanoseconds * n.toNat < limit then some ⟨d.nanoseconds * n.toNat, h⟩ else none

end Delay

/-- Bounds on repeated requests. -/
structure RetryPolicy where
  maxAttempts : UInt32
  baseDelay : Delay
  maxDelay : Delay
  deriving DecidableEq

namespace RetryPolicy

def standard : RetryPolicy := ⟨3, .ofMilliseconds 200, .ofMilliseconds 2000⟩

/-- The greatest factor by which the first delay grows. -/
def maxFactor : UInt32 := UInt32.ofNat (UInt32.size - 1)

/-- The factor after a failed attempt, counted from 1: one, and then twice as much every time. -/
def factor (attempt : UInt32) : UInt32 :=
  let doublings := attempt.toNat - 1
  if doublings < 32 then UInt32.ofNat (1 <<< doublings) else maxFactor

/-- The delay after a failed attempt, counted from 1. -/
def backoff (p : RetryPolicy) (attempt : UInt32) : Delay :=
  min ((p.baseDelay.times? (factor attempt)).getD p.maxDelay) p.maxDelay

end RetryPolicy

end ForgeBoard
