import BatchFetch.Number.Power
import BatchFetch.Time.Span

/-! # Backoff

The wait before a repeated attempt doubles from one to the next. Jitter lengthens a wait by a random
number of milliseconds, less than a tenth of it. -/

namespace BatchFetch.Backoff

/-- The largest factor by which a base delay is multiplied. -/
def maxFactor : Nat := 4294967295

def factor (n : Nat) : Nat := if n < 32 then twoTo n else maxFactor

/-- The wait before retry number `attempt`: the base delay, doubled with each retry after the first, at
    most `cap`. Before the initial attempt, number zero, there is none. -/
def delay (attempt : UInt32) (base : Span) (cap : Option Span) : Span :=
  if attempt = 0 then Span.zero
  else
    let d := base.scale (factor (attempt.toNat - 1))
    match cap with
    | some c => min d c
    | none => d

/-- How many lengths of jitter there are for a delay: the milliseconds of a tenth of it, as far as 64
    bits can count them. -/
def jitterRange (d : Span) : Nat := min (d.millis / 10) 18446744073709551615

/-- A delay with the jitter that a random number draws; without, if there is no jitter to draw or the
    sum is too long. -/
def withJitter (draw : Nat) (d : Span) : Span :=
  if jitterRange d = 0 then d
  else (d.add? (Span.ofNanos (draw % jitterRange d * 1000000))).getD d

theorem delay_zero (base : Span) (cap : Option Span) : delay 0 base cap = Span.zero := rfl

theorem factor_le (n : Nat) : factor n ≤ maxFactor := by
  unfold factor maxFactor
  split
  · exact Nat.le_trans (twoTo_le (Nat.le_of_lt_succ ‹_›)) (by decide)
  · exact Nat.le_refl _

end BatchFetch.Backoff
