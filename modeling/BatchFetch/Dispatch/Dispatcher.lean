import BatchFetch.Dispatch.Run
import BatchFetch.Report.Summary

/-! # Dispatchers

A dispatcher runs one batch after another over one transport. Between batches only the clock goes on, and
the transport remembers its calls; tokens, breakers and permits are new for each batch. -/

namespace BatchFetch

/-- What came of a batch. -/
structure BatchReport where
  /-- The results in the order in which they were delivered. -/
  results : List FetchResult
  calls : List Call
  peak : Nat
  took : Span
  givenUp : Bool
  metrics : List Metric
deriving DecidableEq, Repr

namespace BatchReport

def ofState (b : Batch) (s : Batch.State) : BatchReport :=
  { results := s.results, calls := s.calls, peak := s.peak, took := Clock.since s.now b.start
    givenUp := s.givenUp, metrics := s.metrics }

def summary (r : BatchReport) : Summary := .ofResults r.results r.took

end BatchReport

/-- A dispatcher between batches: the time, and the calls that the transport has answered. -/
structure Dispatcher where
  now : Nat := 0
  calls : List Call := []
deriving DecidableEq, Repr

namespace Dispatcher

/-- Runs one batch; none if it cannot be built or does not come to its end. -/
def dispatch? (c : Config) (t : Transport) (draw : Nat → UInt32 → Nat) (targets : List String)
    (cancelAfter : Option UInt64) (d : Dispatcher) : Option (BatchReport × Dispatcher) :=
  (Batch.ofConfig? c targets d.now cancelAfter t d.calls draw).bind fun b =>
    b.final?.map fun s => (.ofState b s, { now := s.now, calls := d.calls ++ s.calls })

/-- Runs batches one after another; none if they cannot be built or one of them does not come to its end. -/
def dispatchAll? (c : Config) (t : Transport) (draw : Nat → UInt32 → Nat) (cancelAfter : Option UInt64) :
    List (List String) → Dispatcher → Option (List BatchReport)
  | [], _ => some []
  | targets :: batches, d =>
    match d.dispatch? c t draw targets cancelAfter with
    | some (report, d) => (dispatchAll? c t draw cancelAfter batches d).map (report :: ·)
    | none => none

end Dispatcher

end BatchFetch
