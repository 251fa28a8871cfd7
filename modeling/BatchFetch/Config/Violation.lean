import BatchFetch.Config.Basic
import BatchFetch.Config.SocketAddress
import BatchFetch.Number.Written

/-! # Violations

What is wrong with the values of a configuration. Every check is made, so that all violations are known
at once. -/

namespace BatchFetch

/-- A value that a configuration must not have. -/
inductive Violation where
  | rate (x : Binary64)
  | burst
  | longestWait (baseDelayMs : UInt64)
  | threshold
  | openDuration
  | concurrency
  | batchTimeout
  | connectTimeout
  | requestTimeout
  | readTimeout
  | address (text : String)
deriving DecidableEq, Repr

namespace Violation

def field : Violation → String
  | rate _ => "rate_limit.requests_per_second"
  | burst => "rate_limit.burst_size"
  | longestWait _ => "retries.max_delay_ms"
  | threshold => "circuit_breaker.failure_threshold"
  | openDuration => "circuit_breaker.open_duration_ms"
  | concurrency => "dispatch.max_concurrency"
  | batchTimeout => "dispatch.batch_timeout_secs"
  | connectTimeout => "transport.connect_timeout_ms"
  | requestTimeout => "transport.request_timeout_ms"
  | readTimeout => "transport.read_timeout_ms"
  | address _ => "observability.metrics_address"

def message : Violation → String
  | rate x => "must be a positive number, got " ++ x.text
  | burst | threshold => "must be at least 1"
  | longestWait base => "must not be below base_delay_ms (" ++ Decimal.text base.toNat ++ ")"
  | concurrency => "must be at least 1 when set"
  | openDuration | batchTimeout | connectTimeout | requestTimeout | readTimeout => "must be greater than 0"
  | address text => "'" ++ text ++ "' is not a socket address"

def text (v : Violation) : String := v.field ++ ": " ++ v.message

end Violation

namespace Config

def require (ok : Bool) (v : Violation) : List Violation := if ok then [] else [v]

/-- Whether the longest wait between attempts is at least the first one. -/
def Retries.waitsFit (r : Retries) : Bool := r.maxDelayMs.all (r.baseDelayMs ≤ ·)

/-- Whether the address for metrics is one, if it is used. -/
def Observability.addressFits (o : Observability) : Bool :=
  !o.metricsEnabled || SocketAddress.isValid o.metricsAddress

/-- All violations of a configuration, in the order of its fields. -/
def violations (c : Config) : List Violation :=
  require c.rateLimit.requestsPerSecond.isPositive (.rate c.rateLimit.requestsPerSecond) ++
  require (c.rateLimit.burstSize != 0) .burst ++
  require c.retries.waitsFit (.longestWait c.retries.baseDelayMs) ++
  require (c.circuitBreaker.failureThreshold != 0) .threshold ++
  require (c.circuitBreaker.openDurationMs != 0) .openDuration ++
  require (c.dispatch.maxConcurrency != some 0) .concurrency ++
  require (c.dispatch.batchTimeoutSecs != 0) .batchTimeout ++
  require (c.transport.connectTimeoutMs != 0) .connectTimeout ++
  require (c.transport.requestTimeoutMs != 0) .requestTimeout ++
  require (c.transport.readTimeoutMs != 0) .readTimeout ++
  require c.observability.addressFits (.address c.observability.metricsAddress)

def isValid (c : Config) : Bool := c.violations.isEmpty

theorem require_eq_nil_iff {ok : Bool} {v : Violation} : require ok v = [] ↔ ok = true := by
  unfold require
  cases ok <;> simp

theorem isValid_iff {c : Config} : c.isValid = true ↔
    c.rateLimit.requestsPerSecond.isPositive = true ∧ c.rateLimit.burstSize ≠ 0 ∧ c.retries.waitsFit = true ∧
      c.circuitBreaker.failureThreshold ≠ 0 ∧ c.circuitBreaker.openDurationMs ≠ 0 ∧
      c.dispatch.maxConcurrency ≠ some 0 ∧ c.dispatch.batchTimeoutSecs ≠ 0 ∧ c.transport.connectTimeoutMs ≠ 0 ∧
      c.transport.requestTimeoutMs ≠ 0 ∧ c.transport.readTimeoutMs ≠ 0 ∧ c.observability.addressFits = true := by
  unfold isValid violations
  simp only [List.isEmpty_iff, List.append_eq_nil_iff, require_eq_nil_iff, bne_iff_ne, and_assoc]

end Config

end BatchFetch
