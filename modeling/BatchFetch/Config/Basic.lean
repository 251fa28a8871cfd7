import BatchFetch.Number.Binary64
import BatchFetch.Time.Span

/-! # Configuration

The settings of a batch fetch, in six sections, each field with its default. -/

namespace BatchFetch

/-- Which targets share a circuit breaker. -/
inductive Scope where
  /-- Targets that are equal. -/
  | url
  /-- Targets with the same scheme, host and port. -/
  | host
  /-- All targets. -/
  | everything
deriving DecidableEq, Repr

namespace Scope

/-- All scopes. -/
def all : List Scope := [url, host, everything]

/-- The name of a scope. -/
def name : Scope → String
  | url => "url"
  | host => "host"
  | everything => "global"

/-- Whether two texts are equal up to the case of ASCII letters. -/
def sameIgnoringCase (a b : String) : Bool :=
  a.toList.map Char.toLower == b.toList.map Char.toLower

/-- The scope of a name, whose letters may be of any case if `ignoreCase` holds. -/
def ofName? (s : String) (ignoreCase : Bool := false) : Option Scope :=
  all.find? fun x => if ignoreCase then sameIgnoringCase x.name s else x.name == s

/-- What is said about a name that no scope has. -/
def unknownMessage (s : String) : String := "invalid variant: " ++ s

theorem ofName?_name (x : Scope) : ofName? x.name = some x := by
  cases x <;> decide

end Scope

/-- How log lines are written. -/
inductive LogFormat where
  | pretty
  | json
deriving DecidableEq, Repr

namespace LogFormat

/-- All formats. -/
def all : List LogFormat := [pretty, json]

/-- The name of a format. -/
def name : LogFormat → String
  | pretty => "pretty"
  | json => "json"

end LogFormat

namespace Config

/-- Admission of requests: tokens per second, and how many can be saved up. -/
structure RateLimit where
  requestsPerSecond : Binary64 := ⟨0x4014000000000000⟩
  burstSize : UInt32 := 5
deriving DecidableEq, Repr

/-- Repeated attempts: how many beyond the first, and the waits before them. -/
structure Retries where
  maxRetries : UInt32 := 3
  baseDelayMs : UInt64 := 1000
  maxDelayMs : Option UInt64 := none
  jitter : Bool := false
  retryServerErrors : Bool := true
deriving DecidableEq, Repr

/-- Circuit breakers: when they open, for how long, and what they guard. -/
structure CircuitBreaker where
  failureThreshold : UInt32 := 3
  openDurationMs : UInt64 := 60000
  scope : Scope := .host
deriving DecidableEq, Repr

/-- A batch: how many workers may run at once, and its deadline. -/
structure Dispatch where
  maxConcurrency : Option UInt64 := none
  batchTimeoutSecs : UInt64 := 30
deriving DecidableEq, Repr

/-- Connections and requests. -/
structure Transport where
  connectTimeoutMs : UInt64 := 5000
  requestTimeoutMs : UInt64 := 10000
  readTimeoutMs : UInt64 := 10000
  poolMaxIdlePerHost : UInt64 := 10
  poolIdleTimeoutSecs : UInt64 := 90
  userAgent : String := "resilient-fetch/0.1.0"
deriving DecidableEq, Repr

/-- Logs and metrics. -/
structure Observability where
  logLevel : String := "info"
  logFormat : LogFormat := .pretty
  metricsEnabled : Bool := false
  metricsAddress : String := "0.0.0.0:9090"
deriving DecidableEq, Repr

end Config

/-- The whole configuration. -/
structure Config where
  rateLimit : Config.RateLimit := {}
  retries : Config.Retries := {}
  circuitBreaker : Config.CircuitBreaker := {}
  dispatch : Config.Dispatch := {}
  transport : Config.Transport := {}
  observability : Config.Observability := {}
deriving DecidableEq, Repr

end BatchFetch
