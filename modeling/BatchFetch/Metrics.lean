import BatchFetch.Fetch.Outcome
import BatchFetch.Number.Written

/-! # Metrics

Everything that is counted or timed is recorded as a `Metric`. Counters and histograms are read off the
list of what was recorded; one that nothing was recorded for is absent. -/

namespace BatchFetch

/-- One thing that was counted or timed. -/
inductive Metric where
  /-- An attempt of a worker, with the kind of its failure; a refusal by a breaker is one too. -/
  | attempt (kind : Option ErrorKind)
  /-- The result of a target and the time that it took. -/
  | result (success : Bool) (elapsed : Span)
  | tokenWait (waited : Span)
  | breaker (note : Breaker.Note)
deriving DecidableEq, Repr

namespace Metric

/-- A counter: its name, and a label with its value if it has one. -/
structure Counter where
  name : String
  label : Option (String × String) := none
deriving DecidableEq, Repr

def counter? : Metric → Option Counter
  | .attempt kind => some ⟨"fetch_attempts_total", some ("kind", (kind.map (·.name)).getD "ok")⟩
  | .result success _ =>
    some ⟨"fetch_results_total", some ("outcome", if success then "success" else "failure")⟩
  | .tokenWait _ => none
  | .breaker (.moved next) => some ⟨"circuit_breaker_transitions_total", some ("to", next.name)⟩
  | .breaker .refused => some ⟨"circuit_breaker_rejections_total", none⟩

/-- The histogram that a recording adds to, and the span that it adds. -/
def sample? : Metric → Option (String × Span)
  | .result _ elapsed => some ("fetch_duration_seconds", elapsed)
  | .tokenWait waited => some ("rate_limiter_wait_seconds", waited)
  | _ => none

/-- Every counter that was raised, with how often it was. -/
def counters (ms : List Metric) : List (Counter × Nat) :=
  let raised := ms.filterMap counter?
  raised.eraseDups.map fun c => (c, raised.count c)

/-- Every histogram that was added to, with its spans in ascending order. -/
def histograms (ms : List Metric) : List (String × List Span) :=
  let samples := ms.filterMap sample?
  (samples.map (·.1)).eraseDups.map fun name =>
    (name, ((samples.filter (·.1 == name)).map (·.2)).mergeSort fun a b => a.nanos ≤ b.nanos)

end Metric

end BatchFetch
