import BatchFetch.Config.Basic
import BatchFetch.Time.Clock

/-! # Circuit breakers

A breaker watches the calls to one endpoint. It is closed while calls pass, open while they are
refused, and half-open while a single trial call finds out whether the endpoint has recovered. Enough
failures since the latest success open it; when the cool-down after the latest failure is over, one
trial is let through; a success closes it. Every success and failure counts, whenever its call was
let through; only the trial slot belongs to the half-open window in which it was given away. -/

namespace BatchFetch

/-- The states of a breaker. -/
inductive CircuitState where
  | closed
  | opened
  | halfOpen
deriving DecidableEq, Repr

/-- The name of a state in answers and metrics. -/
def CircuitState.name : CircuitState → String
  | .closed => "closed"
  | .opened => "open"
  | .halfOpen => "half_open"

/-- What the end of a call says about the endpoint: nothing, for a neutral one. -/
inductive Verdict where
  | success
  | failure
  | neutral
deriving DecidableEq, Repr

def Verdict.name : Verdict → String
  | .success => "success"
  | .failure => "failure"
  | .neutral => "neutral"

/-- A call that was let through: the window in which it was, and whether it is the trial. -/
structure Permit where
  window : Nat
  trial : Bool
deriving DecidableEq, Repr

/-- The answer to a caller: a permit, or the time until a trial may be let through, which is zero while
    a trial is running. -/
inductive Admission where
  | granted (permit : Permit)
  | refused (retryIn : Span)
deriving DecidableEq, Repr

/-- What a breaker does is counted: each change of state and each refusal. -/
inductive Breaker.Note where
  | moved (next : CircuitState)
  | refused
deriving DecidableEq, Repr

/-- How many failures open a breaker, and how long it then cools down. -/
structure Breaker.Settings where
  threshold : Nat
  coolDown : Span
deriving DecidableEq, Repr

/-- Settings with a threshold of at least one. -/
def Breaker.Settings.make (threshold : UInt32) (coolDown : Span) : Breaker.Settings :=
  { threshold := max threshold.toNat 1, coolDown }

def Breaker.Settings.ofConfig (c : Config.CircuitBreaker) : Breaker.Settings :=
  make c.failureThreshold (Span.ofMillis c.openDurationMs)

/-- A breaker: its state, the failures since the latest success and the time of the last of them,
    whether a trial is running, and the number of changes of state so far. A new one is closed. -/
structure Breaker where
  state : CircuitState := .closed
  failures : Nat := 0
  lastFailure : Option Nat := none
  trialRunning : Bool := false
  window : Nat := 0
deriving DecidableEq, Repr

namespace Breaker

/-- The largest count of failures; further ones do not raise it. -/
def maxFailures : Nat := 4294967295

/-- Whether the cool-down after the latest failure is over. -/
def cooled (s : Settings) (now : Nat) (b : Breaker) : Bool :=
  match b.lastFailure with
  | some t => s.coolDown.nanos ≤ now - t
  | none => true

/-- The state that a caller arriving now sees: an open breaker that has cooled down is half-open. -/
def stateAt (s : Settings) (now : Nat) (b : Breaker) : CircuitState :=
  if b.state = .opened ∧ b.cooled s now then .halfOpen else b.state

/-- A change of state starts a window of its own, in which no trial runs yet. -/
def moveTo (next : CircuitState) (b : Breaker) : Breaker :=
  { b with state := next, window := b.window + 1, trialRunning := false }

def giveTrial (b : Breaker) : Breaker := { b with trialRunning := true }

def remaining (s : Settings) (now : Nat) (b : Breaker) : Span :=
  match b.lastFailure with
  | some t => s.coolDown.minus (now - t)
  | none => s.coolDown

/-- A breaker after an answer or a report, with what is to be counted. -/
structure Turn (α : Type) where
  answer : α
  breaker : Breaker
  notes : List Note := []
deriving Repr

def ask (s : Settings) (now : Nat) (b : Breaker) : Turn Admission :=
  match b.state with
  | .closed => { answer := .granted ⟨b.window, false⟩, breaker := b }
  | .opened =>
    if b.cooled s now then
      let b := (b.moveTo .halfOpen).giveTrial
      { answer := .granted ⟨b.window, true⟩, breaker := b, notes := [.moved .halfOpen] }
    else { answer := .refused (b.remaining s now), breaker := b, notes := [.refused] }
  | .halfOpen =>
    if b.trialRunning then { answer := .refused Span.zero, breaker := b, notes := [.refused] }
    else { answer := .granted ⟨b.window, true⟩, breaker := b.giveTrial }

/-- A trial that ends in its own window frees the slot. -/
def freeTrial (p : Permit) (b : Breaker) : Breaker :=
  if p.trial ∧ p.window = b.window then { b with trialRunning := false } else b

def report (s : Settings) (now : Nat) (p : Permit) (v : Verdict) (b : Breaker) : Turn Unit :=
  let b := b.freeTrial p
  match v with
  | .neutral => { answer := (), breaker := b }
  | .success =>
    let b := { b with failures := 0, lastFailure := none }
    if b.state = .closed then { answer := (), breaker := b }
    else { answer := (), breaker := b.moveTo .closed, notes := [.moved .closed] }
  | .failure =>
    let b := { b with failures := min (b.failures + 1) maxFailures, lastFailure := some now }
    if b.state = .halfOpen ∨ b.state = .closed ∧ s.threshold ≤ b.failures then
      { answer := (), breaker := b.moveTo .opened, notes := [.moved .opened] }
    else { answer := (), breaker := b }

end Breaker

/-- A refusal by the breaker of an endpoint. -/
structure CircuitOpen where
  endpoint : String
  retryIn : Span
deriving DecidableEq, Repr

def CircuitOpen.message (r : CircuitOpen) : String :=
  "circuit open for " ++ r.endpoint ++ ", next trial in " ++ r.retryIn.text

end BatchFetch
