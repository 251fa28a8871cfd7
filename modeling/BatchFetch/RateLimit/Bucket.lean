import BatchFetch.Config.Basic
import BatchFetch.Number.Written
import BatchFetch.Time.Clock

/-! # Token buckets

A bucket gains tokens at a steady rate up to its capacity, and an admission takes one token. It is
refilled only when it is looked at. The arithmetic is that of rationals, each result rounded as the
limits say: exactly in the theory, to double precision in a running batch. -/

namespace BatchFetch

/-- What governs a bucket: how results are rounded, how many tokens it holds, and how many it gains in
    a second. -/
structure Limits where
  round : Rounding
  capacity : Rat
  rate : Rat

namespace Limits

/-- The smallest normal double precision number, which stands in for a rate that is no positive
    number. -/
def leastRate : Rat := mkRat 1 (twoTo 1022)

/-- Limits in double precision: a capacity of at least one, and a rate that is a positive number. -/
def make (rate : Binary64) (capacity : UInt32) : Limits :=
  { round := .binary64
    capacity := ((max capacity.toNat 1 : Nat) : Rat)
    rate := if rate.isPositive then rate.toRat?.getD leastRate else leastRate }

def ofConfig (c : Config.RateLimit) : Limits := make c.requestsPerSecond c.burstSize

end Limits

/-- A bucket: the tokens that it held when it was last looked at. -/
structure Bucket where
  tokens : Rat
  updated : Nat
deriving DecidableEq

namespace Bucket

def full (l : Limits) (now : Nat) : Bucket := { tokens := l.capacity, updated := now }

/-- Adds the tokens gained since the last look. -/
def refill (l : Limits) (now : Nat) (b : Bucket) : Bucket :=
  let gained := l.round ((Clock.since now b.updated).inSeconds l.round * l.rate)
  let tokens := l.round (b.tokens + gained)
  { tokens := if tokens ≤ l.capacity then tokens else l.capacity, updated := now }

/-- The wait until a bucket with fewer than one token holds one: the missing part over the rate, to the
    nearest nanosecond, or the longest span if it is longer. -/
def wait (l : Limits) (b : Bucket) : Span :=
  let seconds := l.round (l.round (1 - b.tokens) / l.rate)
  Span.ofNanos (roundEven (seconds.num.toNat * 1000000000) seconds.den)

/-- The answer to a caller who wants a token. -/
inductive Answer where
  | granted
  | wait (d : Span)
deriving DecidableEq, Repr

/-- Takes a token, or says how long to wait for one. -/
def take (l : Limits) (now : Nat) (b : Bucket) : Answer × Bucket :=
  let b := b.refill l now
  if 1 ≤ b.tokens then (.granted, { b with tokens := l.round (b.tokens - 1) })
  else (.wait (b.wait l), b)

/-- The tokens of a bucket after a look at it. -/
def available (l : Limits) (now : Nat) (b : Bucket) : Rat × Bucket :=
  let b := b.refill l now
  (b.tokens, b)

end Bucket

end BatchFetch
