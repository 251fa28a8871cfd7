import BatchFetch.Cli.Setting
import BatchFetch.Config.Basic
import BatchFetch.Number.Read

/-! # The command line

A command names the targets and what differs from the configuration. It is read from left to right; the
first argument that does not fit, or that asks for help, settles the matter. No option may be given
twice. -/

namespace BatchFetch.Cli

/-- A command. -/
structure Command where
  targets : List String := []
  file : Option String := none
  rps : Option Binary64 := none
  burst : Option UInt32 := none
  maxConcurrency : Option UInt64 := none
  maxRetries : Option UInt32 := none
  baseDelayMs : Option UInt64 := none
  failureThreshold : Option UInt32 := none
  openDurationMs : Option UInt64 := none
  scope : Option Scope := none
  timeoutSecs : Option UInt64 := none
  format : Option Format := none
  logLevel : Option String := none
  jsonLogs : Bool := false
deriving DecidableEq, Repr

/-- Why there is no command. -/
inductive Stop where
  | usage
  | help (long : Bool)
deriving DecidableEq, Repr

/-- What an argument is by itself. -/
inductive Argument where
  | target
  | separator
  /-- An option, with a value that is part of the argument. -/
  | setting (key : Setting) (value : Option String)
  | jsonLogs
  | help (long : Bool)
  | unknown
deriving DecidableEq, Repr

namespace Argument

def splitValue (cs : List Char) : List Char × Option (List Char) :=
  let (name, value) := cs.span (· != '=')
  (name, value.tail?)

def ofName (cs : List Char) : Argument :=
  let (name, value) := splitValue cs
  match Setting.ofName? (String.ofList name), String.ofList name, value with
  | some key, _, value => .setting key (value.map String.ofList)
  | none, "json-logs", none => .jsonLogs
  | none, "help", none => .help true
  | none, _, _ => .unknown

/-- The value that follows a letter, with or without an equals sign. -/
def valueAfterLetter : List Char → Option String
  | [] => none
  | '=' :: cs => some (String.ofList cs)
  | cs => some (String.ofList cs)

def ofLetter (c : Char) (cs : List Char) : Argument :=
  match Setting.ofLetter? c with
  | some key => .setting key (valueAfterLetter cs)
  | none => if c = 'h' then .help false else .unknown

def ofString (s : String) : Argument :=
  match s.toList with
  | ['-', '-'] => .separator
  | '-' :: '-' :: cs => ofName cs
  | '-' :: c :: cs => ofLetter c cs
  | _ => .target

end Argument

namespace Command

/-- A new value where there was none; a value that cannot be read is none either. -/
def once {α : Type} (old new : Option α) : Option α :=
  match old with
  | none => new
  | some _ => none

def path? (s : String) : Option String := if s.isEmpty then none else some s

/-- A command with the value of one more option. -/
def set? (c : Command) (key : Setting) (s : String) : Option Command :=
  match key with
  | .config => (once c.file (path? s)).map fun x => { c with file := some x }
  | .rps => (once c.rps (Binary64.read? s)).map fun x => { c with rps := some x }
  | .burst => (once c.burst (readUInt32? s)).map fun x => { c with burst := some x }
  | .maxConcurrency => (once c.maxConcurrency (readUInt64? s)).map fun x => { c with maxConcurrency := some x }
  | .maxRetries => (once c.maxRetries (readUInt32? s)).map fun x => { c with maxRetries := some x }
  | .baseDelayMs => (once c.baseDelayMs (readUInt64? s)).map fun x => { c with baseDelayMs := some x }
  | .failureThreshold =>
    (once c.failureThreshold (readUInt32? s)).map fun x => { c with failureThreshold := some x }
  | .openDurationMs => (once c.openDurationMs (readUInt64? s)).map fun x => { c with openDurationMs := some x }
  | .breakerScope => (once c.scope (Scope.ofName? s)).map fun x => { c with scope := some x }
  | .timeoutSecs => (once c.timeoutSecs (readUInt64? s)).map fun x => { c with timeoutSecs := some x }
  | .format => (once c.format (Format.ofName? s)).map fun x => { c with format := some x }
  | .logLevel => (once c.logLevel (some s)).map fun x => { c with logLevel := some x }

def addTarget (c : Command) (s : String) : Command := { c with targets := c.targets ++ [s] }

/-- A command with what the arguments add. An option whose value is not part of its argument takes the
    next one, unless that is an option itself. -/
def extend : List String → Command → Except Stop Command
  | [], c => .ok c
  | arg :: args, c =>
    match Argument.ofString arg with
    | .target => extend args (c.addTarget arg)
    | .separator => .ok { c with targets := c.targets ++ args }
    | .setting key (some value) =>
      match c.set? key value with
      | some c => extend args c
      | none => .error .usage
    | .setting key none =>
      match args with
      | [] => .error .usage
      | value :: args =>
        match Argument.ofString value, c.set? key value with
        | .target, some c => extend args c
        | _, _ => .error .usage
    | .jsonLogs => if c.jsonLogs then .error .usage else extend args { c with jsonLogs := true }
    | .help long => .error (.help long)
    | .unknown => .error .usage

/-- The command of a list of arguments. There is at least one target. -/
def ofArguments (args : List String) : Except Stop Command :=
  match extend args {} with
  | .ok c => if c.targets.isEmpty then .error .usage else .ok c
  | .error e => .error e

/-- A configuration with the values of a command in the place of its own. -/
def apply (c : Command) (config : Config) : Config :=
  { config with
    rateLimit :=
      { config.rateLimit with
        requestsPerSecond := c.rps.getD config.rateLimit.requestsPerSecond
        burstSize := c.burst.getD config.rateLimit.burstSize }
    retries :=
      { config.retries with
        maxRetries := c.maxRetries.getD config.retries.maxRetries
        baseDelayMs := c.baseDelayMs.getD config.retries.baseDelayMs }
    circuitBreaker :=
      { failureThreshold := c.failureThreshold.getD config.circuitBreaker.failureThreshold
        openDurationMs := c.openDurationMs.getD config.circuitBreaker.openDurationMs
        scope := c.scope.getD config.circuitBreaker.scope }
    dispatch :=
      { maxConcurrency := c.maxConcurrency.or config.dispatch.maxConcurrency
        batchTimeoutSecs := c.timeoutSecs.getD config.dispatch.batchTimeoutSecs }
    observability :=
      { config.observability with
        logLevel := c.logLevel.getD config.observability.logLevel
        logFormat := if c.jsonLogs then .json else config.observability.logFormat } }

end Command

end BatchFetch.Cli
