import BatchFetch.Endpoint.Key
import BatchFetch.Endpoint.Registry
import BatchFetch.Metrics

/-! # A registry over time

A registry is used by callers who look up the breaker of a target, and who may also ask it for admission
and report at once how the call ended. -/

namespace BatchFetch.Registry

/-- A registry in use: the time, the breakers, and what was recorded. -/
structure Session where
  now : Nat := 0
  registry : Registry := {}
  metrics : List Metric := []

/-- One use of a registry. -/
inductive Use where
  | advance (d : Span)
  | lookup (target : String)
  /-- A call to a target is asked for, and ends at once if it is let through. -/
  | call (target : String) (verdict : Verdict)
deriving DecidableEq, Repr

/-- What is seen of the breaker of a target: its place among the keys, its key, the answer if admission
    was asked for, its state and its failures, and the number of keys. -/
structure Sight where
  place : Nat
  key : String
  admission : Option Admission := none
  state : CircuitState
  failures : Nat
  size : Nat
deriving DecidableEq, Repr

namespace Session

def see (c : Breaker.Settings) (s : Session) (key : String) (admission : Option Admission) : Sight :=
  let b := s.registry.get key
  { place := s.registry.place key, key, admission, state := b.stateAt c s.now, failures := b.failures
    size := s.registry.size }

/-- A call that is asked for and ends at once. -/
def call (c : Breaker.Settings) (s : Session) (key : String) (v : Verdict) : Admission × Session :=
  let (t, registry) := s.registry.ask c s.now key
  let s := { s with registry, metrics := s.metrics ++ t.notes.map .breaker }
  match t.answer with
  | .refused _ => (t.answer, s)
  | .granted p =>
    let (u, registry) := s.registry.report c s.now key p v
    (t.answer, { s with registry, metrics := s.metrics ++ u.notes.map .breaker })

def step (scope : Scope) (c : Breaker.Settings) (s : Session) : Use → Option Sight × Session
  | .advance d => (none, { s with now := s.now + d.nanos })
  | .lookup target =>
    let key := Endpoint.key scope target
    let s := { s with registry := s.registry.touch key }
    (some (s.see c key none), s)
  | .call target v =>
    let key := Endpoint.key scope target
    let (answer, s) := s.call c key v
    (some (s.see c key (some answer)), s)

end Session

end BatchFetch.Registry
