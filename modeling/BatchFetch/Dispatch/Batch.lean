import BatchFetch.Config.Basic
import BatchFetch.Dispatch.Transport
import BatchFetch.Endpoint.Key
import BatchFetch.Endpoint.Registry
import BatchFetch.Metrics
import BatchFetch.RateLimit.Bucket
import BatchFetch.Retry.Policy

/-! # Batches

A batch fetches each of its targets with a worker of its own. What is fixed for a batch stands in `Batch`,
what changes while it runs in `Batch.State`. Everything that happens is logged; calls, results, metrics
and the number of calls in flight are read off the log. -/

namespace BatchFetch

/-- What is fixed for a batch. -/
structure Batch where
  /-- The targets; a worker is known by the place of its target. -/
  targets : List String
  start : Nat
  limits : Limits
  breaker : Breaker.Settings
  scope : Scope
  retry : RetryPolicy
  /-- How many workers may be past the gate at once; without a number there is no gate. -/
  permits : Option Nat
  transport : Transport
  /-- The calls that the transport has answered before this batch. -/
  earlier : List Call := []
  /-- The random number for a worker's retry. -/
  draw : Nat → UInt32 → Nat := fun _ _ => 0
  /-- When the caller gives the batch up. -/
  cancelAt : Option Nat := none
  /-- When the batch is over at the latest. -/
  deadline : Nat

namespace Batch

/-- Where a worker stands. -/
inductive Phase where
  | fresh
  /-- It waits at the gate for a permit. -/
  | queued
  /-- It wants a token since some time, and looks at the bucket again at another. -/
  | waiting (since wake : Nat)
  /-- A call is in flight after so many retries; it ends by itself at some time, as its reply says. -/
  | calling (retries : UInt32) (permit : Permit) (ends : Nat) (reply : Reply)
  /-- It waits for its next attempt, which is this retry. -/
  | backingOff (retry : UInt32) (wake : Nat)
  | done
deriving DecidableEq, Repr

/-- How a worker ends. -/
inductive Exit where
  | result (r : FetchResult)
  | panic (message : String)
deriving DecidableEq, Repr

/-- What happens in a batch. -/
inductive Event where
  | tokenTaken (worker : Nat) (waited : Span)
  /-- A worker's attempt was refused by the breaker of its endpoint. -/
  | refused (worker time : Nat) (refusal : CircuitOpen)
  /-- A worker's attempt was let through, and a call began. -/
  | called (worker : Nat) (call : Call) (key : String) (trial : Bool)
  | ended (worker time : Nat) (outcome : Outcome)
  | brokeOff (worker time : Nat) (message : String)
  /-- The breaker of an endpoint did something to be counted. -/
  | breaker (key : String) (note : Breaker.Note)
  | finished (worker : Nat) (result : FetchResult)
deriving DecidableEq, Repr

namespace Event

def call? : Event → Option Call
  | .called _ c _ _ => some c
  | _ => none

/-- The result that is delivered with an event. -/
def result? : Event → Option FetchResult
  | .finished _ r => some r
  | _ => none

def metric? : Event → Option Metric
  | .tokenTaken _ waited => some (.tokenWait waited)
  | .refused _ _ _ => some (.attempt (some .circuitOpen))
  | .ended _ _ o => some (.attempt o.kind)
  | .breaker _ note => some (.breaker note)
  | .finished _ r => some (.result r.isSuccess r.elapsed)
  | .called _ _ _ _ | .brokeOff _ _ _ => none

/-- How an event changes the number of calls in flight. -/
def inFlight (n : Nat) : Event → Nat
  | .called _ _ _ _ => n + 1
  | .ended _ _ _ | .brokeOff _ _ _ => n - 1
  | _ => n

end Event

/-- A batch that is running. -/
structure State where
  now : Nat
  bucket : Bucket
  phases : List Phase
  /-- The workers in the order in which they are served when several can move. -/
  line : List Nat
  gate : List Nat := []
  free : Nat := 0
  registry : Registry := {}
  /-- The workers that have ended and are not collected yet, in the order in which they ended. -/
  exits : List (Nat × Exit) := []
  /-- The targets of the workers that are not collected yet. -/
  pending : List (Nat × String)
  /-- Whether the batch was given up or ran out of time. -/
  stopped : Bool := false
  givenUp : Bool := false
  log : List Event := []

namespace State

def phase (s : State) (i : Nat) : Phase := (s.phases[i]?).getD .done

def calls (s : State) : List Call := s.log.filterMap Event.call?

def results (s : State) : List FetchResult := s.log.filterMap Event.result?

def metrics (s : State) : List Metric := s.log.filterMap Event.metric?

/-- The largest number of calls that were in flight at once. -/
def peak (s : State) : Nat :=
  (s.log.foldl (fun (n, most) e => (e.inFlight n, max most (e.inFlight n))) (0, 0)).2

/-- Whether every worker has ended and is collected. -/
def isOver (s : State) : Bool := s.phases.all (· == .done) && s.exits.isEmpty

def note (s : State) (es : List Event) : State := { s with log := s.log ++ es }

def enter (s : State) (i : Nat) (p : Phase) : State := { s with phases := s.phases.set i p }

def toEnd (s : State) (i : Nat) : State := { s with line := s.line.erase i ++ [i] }

/-- Puts a worker into a phase that lasts until a time; if that is still to come, the worker is served
    after those that are waiting already. -/
def sleep (s : State) (i : Nat) (p : Phase) (wake : Nat) : State :=
  if s.now < wake then (s.enter i p).toEnd i else s.enter i p

end State

def mostPermits : Nat := 0x1fffffffffffffff

/-- The batch of a configuration; none if there cannot be so many permits. -/
def ofConfig? (c : Config) (targets : List String) (start : Nat) (cancelAfter : Option UInt64)
    (transport : Transport) (earlier : List Call) (draw : Nat → UInt32 → Nat) : Option Batch :=
  let permits := c.dispatch.maxConcurrency.map fun n => max n.toNat 1
  if permits.any (mostPermits < ·) then none
  else
    some
      { targets, start, limits := .ofConfig c.rateLimit, breaker := .ofConfig c.circuitBreaker
        scope := c.circuitBreaker.scope, retry := .ofConfig c.retries, permits, transport, earlier, draw
        cancelAt := cancelAfter.map fun ms => Clock.due start (Span.ofMillis ms)
        deadline := Clock.timer start (Span.ofSeconds c.dispatch.batchTimeoutSecs) }

/-- What a batch is that was built. -/
theorem eq_ofConfig {c : Config} {targets : List String} {start : Nat} {cancelAfter : Option UInt64}
    {transport : Transport} {earlier : List Call} {draw : Nat → UInt32 → Nat} {b : Batch}
    (built : ofConfig? c targets start cancelAfter transport earlier draw = some b) :
    b =
      { targets, start, limits := .ofConfig c.rateLimit, breaker := .ofConfig c.circuitBreaker
        scope := c.circuitBreaker.scope, retry := .ofConfig c.retries
        permits := c.dispatch.maxConcurrency.map fun n => max n.toNat 1, transport, earlier, draw
        cancelAt := cancelAfter.map fun ms => Clock.due start (Span.ofMillis ms)
        deadline := Clock.timer start (Span.ofSeconds c.dispatch.batchTimeoutSecs) } := by
  unfold ofConfig? at built
  dsimp only at built
  split at built
  · cases built
  · cases built
    rfl

/-- A batch at its start. Its caller may have given it up before. -/
def initial (b : Batch) : State :=
  { now := b.start, bucket := .full b.limits b.start
    phases := b.targets.map fun _ => .fresh, line := List.range b.targets.length
    pending := (List.range b.targets.length).zip b.targets, free := b.permits.getD 0
    stopped := b.cancelAt.any (· ≤ b.start), givenUp := b.cancelAt.any (· ≤ b.start) }

def target (b : Batch) (i : Nat) : String := (b.targets[i]?).getD ""

/-- The key of the breaker that guards a worker's calls. -/
def key (b : Batch) (i : Nat) : String := Endpoint.key b.scope (b.target i)

end Batch

end BatchFetch
