import BatchFetch.Breaker.Basic

/-! # Outcomes

What came of a fetch: a status and a size, or a kind of failure with its text. An `Outcome` is what one
attempt yields; a `FetchResult` says which target it belongs to, after how many attempts and how much
time. -/

namespace BatchFetch

/-- Why a fetch did not produce a usable response. -/
inductive ErrorKind where
  /-- No connection could be made. -/
  | connection
  /-- A deadline of the request elapsed. -/
  | timeout
  /-- A response arrived, but its body could not be read. -/
  | read
  /-- The batch was cancelled or timed out first. -/
  | cancelled
  /-- The circuit breaker refused the call. -/
  | circuitOpen
  /-- The target is no request that can be made. -/
  | invalidRequest
  /-- The endpoint answered with a status from 500 to 599. -/
  | serverError
  /-- The worker broke off before it had a result. -/
  | internal
deriving DecidableEq, Repr

namespace ErrorKind

/-- All kinds. -/
def all : List ErrorKind :=
  [connection, timeout, read, cancelled, circuitOpen, invalidRequest, serverError, internal]

/-- The name of a kind in documents and metrics. -/
def name : ErrorKind → String
  | connection => "connection"
  | timeout => "timeout"
  | read => "read"
  | cancelled => "cancelled"
  | circuitOpen => "circuit_open"
  | invalidRequest => "invalid_request"
  | serverError => "server_error"
  | internal => "internal"

/-- The words for a kind in a line of text. -/
def words : ErrorKind → String
  | connection => "connection error"
  | timeout => "timeout"
  | read => "read error"
  | cancelled => "cancelled"
  | circuitOpen => "circuit open"
  | invalidRequest => "invalid request"
  | serverError => "server error"
  | internal => "internal error"

/-- Whether another attempt could succeed. -/
def isRetryable : ErrorKind → Bool
  | connection | timeout | read | serverError => true
  | cancelled | circuitOpen | invalidRequest | internal => false

/-- Whether a failure says something about the endpoint: exactly the retryable ones do, since the
    others are the caller's own doing. -/
def countsAgainstBreaker (k : ErrorKind) : Bool := k.isRetryable

/-- The kind of a name. -/
def ofName? (s : String) : Option ErrorKind := all.find? (·.name == s)

theorem ofName?_name (k : ErrorKind) : ofName? k.name = some k := by
  cases k <;> decide

end ErrorKind

/-- What one attempt yields. -/
structure Outcome where
  status : Option Nat := none
  size : Option Nat := none
  kind : Option ErrorKind := none
  error : Option String := none
deriving DecidableEq, Repr

namespace Outcome

/-- A response whose body was read to its end. -/
def completed (status size : Nat) : Outcome := { status := some status, size := some size }

/-- A failure. -/
def failed (kind : ErrorKind) (message : String) : Outcome :=
  { kind := some kind, error := some message }

/-- The failure of an attempt that the batch did not wait for. -/
def cancelled : Outcome := failed .cancelled "batch cancelled"

/-- The failure of an attempt that the breaker refused. -/
def refused (r : CircuitOpen) : Outcome := failed .circuitOpen r.message

/-- The same outcome with the status of a response. -/
def withStatus (status : Nat) (o : Outcome) : Outcome := { o with status := some status }

/-- No failure, and a status from 200 to 399. -/
def isSuccess (o : Outcome) : Bool :=
  o.kind.isNone && o.status.any fun s => 200 ≤ s && s < 400

/-- What an outcome says about the endpoint. -/
def verdict (o : Outcome) : Verdict :=
  match o.kind with
  | none => .success
  | some k => if k.countsAgainstBreaker then .failure else .neutral

end Outcome

/-- What came of one target. -/
structure FetchResult where
  target : String
  outcome : Outcome
  elapsed : Span
  attempts : Nat := 1
deriving DecidableEq, Repr

namespace FetchResult

/-- A result of a number of attempts, at least one, and the time that they took. -/
def finished (target : String) (o : Outcome) (attempts : Nat) (elapsed : Span) : FetchResult :=
  { target, outcome := o, elapsed, attempts := max attempts 1 }

/-- No failure, and a status from 200 to 399. -/
def isSuccess (r : FetchResult) : Bool := r.outcome.isSuccess

@[simp] theorem target_finished (t : String) (o : Outcome) (n : Nat) (d : Span) :
    (finished t o n d).target = t := rfl

theorem one_le_attempts_finished (t : String) (o : Outcome) (n : Nat) (d : Span) :
    1 ≤ (finished t o n d).attempts := Nat.le_max_right n 1

end FetchResult

end BatchFetch
