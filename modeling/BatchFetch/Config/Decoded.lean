import BatchFetch.Config.Basic
import BatchFetch.Number.Written
import BatchFetch.Toml.Value

/-! # Decoded configurations

A configuration is decoded field by field. Of a section, each field that is present has to have a value
that fits it; a missing field has its default, and what is not a field does not matter. A section may
also be an array of its fields in order. -/

namespace BatchFetch.Config

/-! ### Values of fields -/

/-- What the value of a field is, if it fits. -/
abbrev Fit (α : Type) := Toml → Option α

namespace Fit

def uint32 : Fit UInt32
  | .integer n => if 0 ≤ n ∧ n < 0x100000000 then some (UInt32.ofNat n.toNat) else none
  | _ => none

def uint64 : Fit UInt64
  | .integer n => if 0 ≤ n ∧ n < 0x10000000000000000 then some (UInt64.ofNat n.toNat) else none
  | _ => none

/-- A double precision number, which may be written as an integer. -/
def binary64 : Fit Binary64
  | .float x => some x
  | .integer n => some (Binary64.ofFraction (n < 0) n.natAbs 1)
  | _ => none

def boolean : Fit Bool
  | .boolean b => some b
  | _ => none

def string : Fit String
  | .string s => some s
  | _ => none

def isEmpty : Toml → Bool
  | .table members => members.isEmpty
  | .array items => items.isEmpty
  | _ => false

/-- One of several names, alone or as the only key of a table with an empty value. -/
def oneOf {α : Type} (name : α → String) (all : List α) : Fit α
  | .string s => all.find? (name · == s)
  | .table [(k, v)] => if isEmpty v then all.find? (name · == k) else none
  | _ => none

end Fit

/-! ### Sections -/

/-- A field of a section: its name, and what a value makes of the section. -/
structure Field (σ : Type) where
  name : String
  set : σ → Toml → Option σ

def field {σ α : Type} (name : String) (fit : Fit α) (put : σ → α → σ) : Field σ :=
  { name, set := fun s v => (fit v).map (put s) }

def ofMembers {σ : Type} (fields : List (Field σ)) (members : List (String × Toml)) (s : σ) : Option σ :=
  fields.foldlM (fun s f => match members.lookup f.name with
    | some v => f.set s v
    | none => some s) s

/-- Sets the fields in order, as far as there are items. -/
def ofItems {σ : Type} (fields : List (Field σ)) (items : List Toml) (s : σ) : Option σ :=
  (fields.zip items).foldlM (fun s (f, v) => f.set s v) s

/-- A section: a table, or an array of its fields in order. A date in its place says nothing. -/
def ofSection {σ : Type} (fields : List (Field σ)) (s : σ) : Fit σ
  | .table members => ofMembers fields members s
  | .array items => ofItems fields items s
  | .dateTime => some s
  | _ => none

def RateLimit.fields : List (Field RateLimit) :=
  [field "requests_per_second" Fit.binary64 fun s x => { s with requestsPerSecond := x },
    field "burst_size" Fit.uint32 fun s x => { s with burstSize := x }]

def Retries.fields : List (Field Retries) :=
  [field "max_retries" Fit.uint32 fun s x => { s with maxRetries := x },
    field "base_delay_ms" Fit.uint64 fun s x => { s with baseDelayMs := x },
    field "max_delay_ms" Fit.uint64 fun s x => { s with maxDelayMs := some x },
    field "jitter" Fit.boolean fun s x => { s with jitter := x },
    field "retry_server_errors" Fit.boolean fun s x => { s with retryServerErrors := x }]

def CircuitBreaker.fields : List (Field CircuitBreaker) :=
  [field "failure_threshold" Fit.uint32 fun s x => { s with failureThreshold := x },
    field "open_duration_ms" Fit.uint64 fun s x => { s with openDurationMs := x },
    field "scope" (Fit.oneOf Scope.name Scope.all) fun s x => { s with scope := x }]

def Dispatch.fields : List (Field Dispatch) :=
  [field "max_concurrency" Fit.uint64 fun s x => { s with maxConcurrency := some x },
    field "batch_timeout_secs" Fit.uint64 fun s x => { s with batchTimeoutSecs := x }]

def Transport.fields : List (Field Transport) :=
  [field "connect_timeout_ms" Fit.uint64 fun s x => { s with connectTimeoutMs := x },
    field "request_timeout_ms" Fit.uint64 fun s x => { s with requestTimeoutMs := x },
    field "read_timeout_ms" Fit.uint64 fun s x => { s with readTimeoutMs := x },
    field "pool_max_idle_per_host" Fit.uint64 fun s x => { s with poolMaxIdlePerHost := x },
    field "pool_idle_timeout_secs" Fit.uint64 fun s x => { s with poolIdleTimeoutSecs := x },
    field "user_agent" Fit.string fun s x => { s with userAgent := x }]

def Observability.fields : List (Field Observability) :=
  [field "log_level" Fit.string fun s x => { s with logLevel := x },
    field "log_format" (Fit.oneOf LogFormat.name LogFormat.all) fun s x => { s with logFormat := x },
    field "metrics_enabled" Fit.boolean fun s x => { s with metricsEnabled := x },
    field "metrics_address" Fit.string fun s x => { s with metricsAddress := x }]

def fields : List (Field Config) :=
  [field "rate_limit" (ofSection RateLimit.fields {}) fun c x => { c with rateLimit := x },
    field "retries" (ofSection Retries.fields {}) fun c x => { c with retries := x },
    field "circuit_breaker" (ofSection CircuitBreaker.fields {}) fun c x => { c with circuitBreaker := x },
    field "dispatch" (ofSection Dispatch.fields {}) fun c x => { c with dispatch := x },
    field "transport" (ofSection Transport.fields {}) fun c x => { c with transport := x },
    field "observability" (ofSection Observability.fields {}) fun c x => { c with observability := x }]

/-- The configuration that a document holds, if every value fits its field. -/
def ofDocument? (members : List (String × Toml)) : Option Config := ofMembers fields members {}

end BatchFetch.Config
