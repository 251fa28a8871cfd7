import BatchFetch.Metrics
import BatchFetch.RateLimit.Line

/-! # A limiter over time

A limiter is used by one caller after another: tries, looks and waits, with time passing in between. -/

namespace BatchFetch.Bucket

/-- A limiter in use: the time, its bucket, and what was recorded. -/
structure Session where
  now : Nat
  bucket : Bucket
  metrics : List Metric := []

/-- One use of a limiter. -/
inductive Use where
  | advance (d : Span)
  | tryTake
  | available
  /-- A caller waits for a token, until it is cancelled after so many milliseconds. -/
  | acquire (cancelMs : Option Nat)
  | acquireMany (callers : Nat)
deriving DecidableEq, Repr

/-- What came of a use. -/
inductive Use.Answer where
  | passed
  | taken (granted : Bool)
  | tokens (count : Rat)
  | admitted (waited : Span)
  | cancelled (waited : Span)
  | admittedAll (times : List Nat)
deriving DecidableEq

def cancelledMessage : String := "rate limiter wait cancelled"

namespace Session

/-- A session with a full bucket at the start of the clock. -/
def start (l : Limits) : Session := { now := 0, bucket := full l 0 }

/-- The session after a line, with the waits of those who were let through. -/
def settle (s : Session) (q : Line) : List Span × Session :=
  let waits := q.admitted.map (Clock.since · s.now)
  (waits, { now := q.now, bucket := q.bucket, metrics := s.metrics ++ waits.map .tokenWait })

def step (l : Limits) (s : Session) : Use → Use.Answer × Session
  | .advance d => (.passed, { s with now := s.now + d.nanos })
  | .tryTake =>
    let (answer, b) := s.bucket.take l s.now
    (.taken (answer = .granted), { s with bucket := b })
  | .available =>
    let (tokens, b) := s.bucket.available l s.now
    (.tokens tokens, { s with bucket := b })
  | .acquire cancelMs =>
    let cancelAt := cancelMs.map fun ms => Clock.due s.now (Span.ofNanos (ms * 1000000))
    let q := (Line.arrive s.now s.bucket 1).run l cancelAt (Line.looks 1)
    match s.settle q with
    | (waited :: _, t) => (.admitted waited, t)
    | ([], t) => (.cancelled (Clock.since t.now s.now), t)
  | .acquireMany n =>
    let q := (Line.arrive s.now s.bucket n).run l none (Line.looks n)
    (.admittedAll q.admitted, (s.settle q).2)

end Session

end BatchFetch.Bucket
