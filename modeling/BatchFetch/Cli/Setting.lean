import BatchFetch.Config.Basic

/-! # Options of the command line

Each option has a name, and some have a letter too. All but one take a value. -/

namespace BatchFetch.Cli

/-- How results are printed. -/
inductive Format where
  | text
  | json
deriving DecidableEq, Repr

namespace Format

def all : List Format := [text, json]

def name : Format → String
  | text => "text"
  | json => "json"

def ofName? (s : String) : Option Format := all.find? (·.name == s)

theorem ofName?_name (x : Format) : ofName? x.name = some x := by
  cases x <;> decide

end Format

/-- An option that takes a value. -/
inductive Setting where
  | config
  | rps
  | burst
  | maxConcurrency
  | maxRetries
  | baseDelayMs
  | failureThreshold
  | openDurationMs
  | breakerScope
  | timeoutSecs
  | format
  | logLevel
deriving DecidableEq, Repr

namespace Setting

def all : List Setting :=
  [config, rps, burst, maxConcurrency, maxRetries, baseDelayMs, failureThreshold, openDurationMs, breakerScope,
    timeoutSecs, format, logLevel]

def name : Setting → String
  | config => "config"
  | rps => "rps"
  | burst => "burst"
  | maxConcurrency => "max-concurrency"
  | maxRetries => "max-retries"
  | baseDelayMs => "base-delay-ms"
  | failureThreshold => "failure-threshold"
  | openDurationMs => "open-duration-ms"
  | breakerScope => "breaker-scope"
  | timeoutSecs => "timeout-secs"
  | format => "format"
  | logLevel => "log-level"

def letter? : Setting → Option Char
  | config => some 'c'
  | format => some 'f'
  | _ => none

def purpose : Setting → String
  | config => "TOML configuration file"
  | rps => "Requests per second across the whole batch"
  | burst => "Token bucket capacity"
  | maxConcurrency => "Maximum number of requests in flight"
  | maxRetries => "Retries after the first attempt"
  | baseDelayMs => "Backoff base delay in milliseconds"
  | failureThreshold => "Consecutive failures that open an endpoint's circuit"
  | openDurationMs => "How long an open circuit rejects calls, in milliseconds"
  | breakerScope => "What a circuit breaker guards"
  | timeoutSecs => "Whole-batch deadline in seconds"
  | format => "Output format"
  | logLevel => "Log level"

def ofName? (s : String) : Option Setting := all.find? (·.name == s)

def ofLetter? (c : Char) : Option Setting := all.find? (·.letter? == some c)

theorem ofName?_name (x : Setting) : ofName? x.name = some x := by
  cases x <;> decide

end Setting

end BatchFetch.Cli
