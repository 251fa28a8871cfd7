import BatchFetch.Fetch.Outcome

/-! # Exchanges

An exchange is what a network makes of one request: it fails, or there is a response whose body arrives in
chunks. An exchange has an outcome and takes some time; both depend on how long the body may take. -/

namespace BatchFetch

namespace Exchange

/-- What was being done when an exchange failed. -/
inductive Stage where
  | builder
  | request
  | redirect
  | body
  | decode
deriving DecidableEq, Repr

/-- The words for a stage at which an exchange failed. -/
def Stage.words : Stage → String
  | builder => "builder error"
  | request => "error sending request"
  | redirect => "error following redirect"
  | body => "request or response body error"
  | decode => "error decoding response body"

/-- Why an exchange failed. -/
structure Fault where
  stage : Stage
  timedOut : Bool := false
  url : Option (List Char) := none
deriving DecidableEq, Repr

namespace Fault

def message (e : Fault) : String :=
  e.stage.words ++ (e.url.map fun u => " for url (" ++ String.ofList u ++ ")").getD ""

/-- The kind of a fault: a deadline counts before the stage does. -/
def kind (e : Fault) : ErrorKind :=
  if e.timedOut then .timeout
  else match e.stage with
    | .builder => .invalidRequest
    | .body | .decode => .read
    | .request | .redirect => .connection

def outcome (e : Fault) : Outcome := .failed e.kind e.message

end Fault

/-- A part of a body, and the time until it is there. -/
structure Chunk where
  after : Span := Span.zero
  size : Nat
deriving DecidableEq, Repr

def totalSize : List Chunk → Nat
  | [] => 0
  | c :: cs => c.size + totalSize cs

/-- The nanoseconds that some chunks take to arrive. -/
def totalNanos : List Chunk → Nat
  | [] => 0
  | c :: cs => c.after.nanos + totalNanos cs

/-- What follows the last chunk of a body. -/
inductive BodyEnd where
  | complete
  | broken (e : Fault)
  | stalled
deriving DecidableEq, Repr

/-- A body as it arrives. -/
structure Body where
  chunks : List Chunk := []
  after : Span := Span.zero
  ending : BodyEnd
deriving DecidableEq, Repr

/-- What reading a body yields. -/
inductive Reading where
  | whole (size : Nat)
  | broken (e : Fault)
  | late
deriving DecidableEq, Repr

namespace Body

def size (b : Body) : Nat := totalSize b.chunks

/-- The nanoseconds until a body ends, if it does. -/
def nanos (b : Body) : Nat := totalNanos b.chunks + b.after.nanos

/-- Reads a body for at most the span `limit`; a body that ends right then is still in time. -/
def read (limit : Span) (b : Body) : Reading :=
  if limit.nanos < b.nanos then .late
  else match b.ending with
    | .complete => .whole b.size
    | .broken e => .broken e
    | .stalled => .late

def readingTime (limit : Span) (b : Body) : Span :=
  if b.ending = .stalled then limit else min limit (Span.ofNanos b.nanos)

end Body

/-! ### Statuses -/

/-- Whether a status is that of a failing server. -/
def isServerError (status : Nat) : Bool := 500 ≤ status && status < 600

/-- The phrase of a status of a failing server. -/
def phrase? : Nat → Option String
  | 500 => some "Internal Server Error"
  | 501 => some "Not Implemented"
  | 502 => some "Bad Gateway"
  | 503 => some "Service Unavailable"
  | 504 => some "Gateway Timeout"
  | 505 => some "HTTP Version Not Supported"
  | 506 => some "Variant Also Negotiates"
  | 507 => some "Insufficient Storage"
  | 508 => some "Loop Detected"
  | 510 => some "Not Extended"
  | 511 => some "Network Authentication Required"
  | _ => none

def statusText (status : Nat) : String :=
  Decimal.text status ++ " " ++ (phrase? status).getD "<unknown status code>"

end Exchange

/-- What a network makes of a request, and after which time it fails or its response begins. -/
inductive Exchange where
  | failed (after : Span) (e : Exchange.Fault)
  | response (after : Span) (status : Nat) (body : Exchange.Body)
deriving DecidableEq, Repr

namespace Exchange

/-- The outcome of a response whose body was read. A status of a failing server keeps its size; a body
    that was not read to its end has none. -/
def responseOutcome (limit : Span) (status : Nat) : Reading → Outcome
  | .whole size =>
    if isServerError status then
      { Outcome.failed .serverError (statusText status) with status := some status, size := some size }
    else .completed status size
  | .broken e => e.outcome.withStatus status
  | .late => (Outcome.failed .timeout ("body read exceeded " ++ limit.text)).withStatus status

/-- The outcome of an exchange whose body may take the span `limit`. -/
def outcome (limit : Span) : Exchange → Outcome
  | failed _ e => e.outcome
  | response _ status body => responseOutcome limit status (body.read limit)

def duration (limit : Span) : Exchange → Span
  | failed after _ => after
  | response after _ body => Span.ofNanos (after.nanos + (body.readingTime limit).nanos)

end Exchange

end BatchFetch
