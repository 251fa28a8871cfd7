import BatchFetch.Json.Written
import BatchFetch.Report.Summary

/-! # The report as a document

A finished batch as one JSON document: its counts, and for each result in order what came of it. The
text of a failure is left out where there is none; other fields that are missing are null. -/

namespace BatchFetch

/-- The milliseconds of a span in 64 bits, as documents give them. -/
def Span.millis64 (d : Span) : Nat := d.millis % 0x10000000000000000

def FetchResult.toJson (r : FetchResult) : Json :=
  .object ([("url", .text r.target),
    ("status_code", .ofOption .number r.outcome.status),
    ("size", .ofOption .number r.outcome.size),
    ("duration_ms", .number r.elapsed.millis64),
    ("error_kind", .ofOption (fun k => .text k.name) r.outcome.kind)] ++
    (r.outcome.error.map fun e => ("error", Json.text e)).toList ++
    [("attempts", .number r.attempts)])

namespace Report

def toJson (results : List FetchResult) (s : Summary) : Json :=
  .object [("total_urls", .number s.total), ("duration_ms", .number s.elapsed.millis64),
    ("results", .list (results.map (·.toJson))), ("success_count", .number s.succeeded),
    ("failure_count", .number s.failed)]

def document (results : List FetchResult) (s : Summary) : String := (toJson results s).document

end Report

end BatchFetch
