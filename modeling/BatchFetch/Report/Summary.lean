import BatchFetch.Fetch.Outcome
import BatchFetch.Number.Written

/-! # Summaries

The counts of a finished batch, and its lines of text: one for each result, and one for the counts. -/

namespace BatchFetch

/-- The counts of a batch and the time that it took. -/
structure Summary where
  total : Nat
  succeeded : Nat
  failed : Nat
  elapsed : Span
deriving DecidableEq, Repr

namespace Summary

def ofResults (results : List FetchResult) (elapsed : Span) : Summary :=
  let succeeded := results.countP (·.isSuccess)
  { total := results.length, succeeded, failed := results.length - succeeded, elapsed }

def allSucceeded (s : Summary) : Bool := s.failed == 0

/-- The line of a summary; its seconds have two digits after the point. -/
def line (s : Summary) : String :=
  "Total: " ++ Decimal.text s.total ++ " URLs in " ++ s.elapsed.asBinary64.fixed 2 ++ "s (" ++
    Decimal.text s.succeeded ++ " succeeded, " ++ Decimal.text s.failed ++ " failed)"

end Summary

def Outcome.reason (o : Outcome) : String :=
  match o.kind, o.error, o.status with
  | some kind, some message, _ => kind.words ++ ": " ++ message
  | some kind, none, _ => kind.words
  | none, _, some status => "HTTP " ++ Decimal.text status
  | none, _, none => "no response"

def FetchResult.line (r : FetchResult) : String :=
  let millis := Decimal.text r.elapsed.millis
  if r.isSuccess then
    "✅ " ++ r.target ++ " [" ++ Decimal.text (r.outcome.status.getD 0) ++ "] " ++
      Decimal.text (r.outcome.size.getD 0) ++ " bytes in " ++ millis ++ "ms"
  else
    "❌ " ++ r.target ++ " " ++ r.outcome.reason ++ " after " ++ Decimal.text r.attempts ++
      " attempt(s) in " ++ millis ++ "ms"

end BatchFetch
