import BatchFetch.Config.Basic
import BatchFetch.Fetch.Outcome
import BatchFetch.Retry.Backoff

/-! # Retry policies

A policy decides whether a failed attempt is repeated, and after which wait. It never waits itself. -/

namespace BatchFetch

/-- Which failures are repeated, how often, and after which waits. -/
structure RetryPolicy where
  maxRetries : UInt32
  baseDelay : Span
  maxDelay : Option Span := none
  jitter : Bool := false
  retryServerErrors : Bool := true
deriving DecidableEq, Repr

namespace RetryPolicy

def ofConfig (c : Config.Retries) : RetryPolicy :=
  { maxRetries := c.maxRetries, baseDelay := Span.ofMillis c.baseDelayMs,
    maxDelay := c.maxDelayMs.map Span.ofMillis, jitter := c.jitter,
    retryServerErrors := c.retryServerErrors }

def never : RetryPolicy := { maxRetries := 0, baseDelay := Span.zero }

def standard : RetryPolicy := ofConfig {}

/-- Whether a failure is repeated after so many retries. -/
def shouldRetry (p : RetryPolicy) (retries : UInt32) (kind : ErrorKind) : Bool :=
  retries < p.maxRetries &&
    match kind with
    | .serverError => p.retryServerErrors
    | kind => kind.isRetryable

/-- Whether there were retries, and none is left. -/
def exhausted (p : RetryPolicy) (retries : UInt32) : Bool :=
  0 < retries && p.maxRetries ≤ retries

/-- The wait before a retry, the first of which has number one; `draw` is the random number that
    jitter uses. -/
def delay (p : RetryPolicy) (draw : Nat) (retry : UInt32) : Span :=
  let d := Backoff.delay retry p.baseDelay p.maxDelay
  if p.jitter then Backoff.withJitter draw d else d

end RetryPolicy

end BatchFetch
