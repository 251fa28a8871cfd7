import BatchFetch.Proofs.Elements
import BatchFetch.Proofs.Json.Reading
import BatchFetch.Report.Document

/-! # What a report says

The document of a finished batch is one JSON document, and whoever reads it finds the counts of the batch and, result by
result, what came of each target. Two batches have the same document exactly if nothing that is reported differs. -/

namespace BatchFetch

/-! ### Members -/

namespace Json

def members : Json → List (String × Json)
  | object ms => ms
  | _ => []

def names (x : Json) : List String := x.members.map (·.1)

def member? (x : Json) (name : String) : Option Json := x.members.lookup name

def number? : Json → Option Nat
  | number n => some n
  | _ => none

def text? : Json → Option String
  | text s => some s
  | _ => none

def items? : Json → Option (List Json)
  | list xs => some xs
  | _ => none

/-- Reads a value that may be null. -/
def nullOr {α : Type} (read : Json → Option α) : Json → Option (Option α)
  | null => some none
  | x => (read x).map some

theorem nullOr_ofOption {α : Type} (f : α → Json) (read : Json → Option α) (notNull : ∀ a, f a ≠ null)
    (h : ∀ a, read (f a) = some a) (o : Option α) : nullOr read (ofOption f o) = some o := by
  cases o with
  | none => rfl
  | some a =>
    show nullOr read (f a) = _
    unfold nullOr
    split
    · rename_i heq
      exact absurd heq (notNull a)
    · rw [h, Option.map_some]

/-- Reads a member that may be missing. -/
def optional {α : Type} (read : Json → Option α) : Option Json → Option (Option α)
  | none => some none
  | some x => (read x).map some

theorem optional_map {α : Type} (f : α → Json) (read : Json → Option α) (h : ∀ a, read (f a) = some a) (o : Option α) :
    optional read (o.map f) = some o := by
  cases o with
  | none => rfl
  | some a => rw [Option.map_some, optional, h, Option.map_some]

theorem ofOption_comp {α β : Type} (f : β → Json) (g : α → β) (o : Option α) :
    ofOption (f ∘ g) o = ofOption f (o.map g) := by
  cases o <;> rfl

end Json

namespace Report
open Json

/-! ### What is reported -/

/-- What is reported of a result. -/
structure Entry where
  url : String
  status : Option Nat
  size : Option Nat
  millis : Nat
  kind : Option String
  error : Option String
  attempts : Nat
deriving DecidableEq, Repr

/-- What is reported of a batch. -/
structure Content where
  total : Nat
  millis : Nat
  entries : List Entry
  succeeded : Nat
  failed : Nat
deriving DecidableEq, Repr

/-- Whole milliseconds, in 64 bits. -/
def wholeMillis (d : Span) : Nat := d.nanos / 1000000 % 2 ^ 64

def Entry.of (r : FetchResult) : Entry where
  url := r.target
  status := r.outcome.status
  size := r.outcome.size
  millis := wholeMillis r.elapsed
  kind := r.outcome.kind.map (·.name)
  error := r.outcome.error
  attempts := r.attempts

def Content.of (results : List FetchResult) (s : Summary) : Content where
  total := s.total
  millis := wholeMillis s.elapsed
  entries := results.map .of
  succeeded := s.succeeded
  failed := s.failed

/-- Reads an entry. The text of a failure may be missing, but it is never null; all others are there. -/
def Entry.ofJson? (x : Json) : Option Entry := do
  some {
    url := ← (← x.member? "url").text?
    status := ← (← x.member? "status_code").nullOr number?
    size := ← (← x.member? "size").nullOr number?
    millis := ← (← x.member? "duration_ms").number?
    kind := ← (← x.member? "error_kind").nullOr text?
    error := ← optional text? (x.member? "error")
    attempts := ← (← x.member? "attempts").number? }

def Content.ofJson? (x : Json) : Option Content := do
  some {
    total := ← (← x.member? "total_urls").number?
    millis := ← (← x.member? "duration_ms").number?
    entries := ← (← (← x.member? "results").items?).mapM Entry.ofJson?
    succeeded := ← (← x.member? "success_count").number?
    failed := ← (← x.member? "failure_count").number? }

section Reading
variable {r r' : FetchResult} {results results' : List FetchResult} {s s' : Summary}

theorem names_toJson (r : FetchResult) : r.toJson.names =
    ["url", "status_code", "size", "duration_ms", "error_kind"] ++ (r.outcome.error.map fun _ => "error").toList ++
      ["attempts"] := by
  unfold FetchResult.toJson names members
  cases r.outcome.error <;> rfl

theorem Entry.ofJson?_toJson (r : FetchResult) : Entry.ofJson? r.toJson = some (.of r) := by
  have url : r.toJson.member? "url" = some (.text r.target) := rfl
  have status : r.toJson.member? "status_code" = some (.ofOption .number r.outcome.status) := rfl
  have size : r.toJson.member? "size" = some (.ofOption .number r.outcome.size) := rfl
  have millis : r.toJson.member? "duration_ms" = some (.number (wholeMillis r.elapsed)) := rfl
  have kind : r.toJson.member? "error_kind" = some (.ofOption .text (r.outcome.kind.map (·.name))) := by
    rw [← ofOption_comp]
    rfl
  have error : r.toJson.member? "error" = r.outcome.error.map .text := by
    unfold FetchResult.toJson member? members
    cases r.outcome.error <;> rfl
  have attempts : r.toJson.member? "attempts" = some (.number r.attempts) := by
    unfold FetchResult.toJson member? members
    cases r.outcome.error <;> rfl
  have number (o : Option Nat) := nullOr_ofOption .number number? (fun _ => by simp) (fun _ => rfl) o
  have text (o : Option String) := nullOr_ofOption .text text? (fun _ => by simp) (fun _ => rfl) o
  unfold Entry.ofJson?
  rw [url, status, size, millis, kind, error, attempts]
  have missing := optional_map .text text? (fun _ => rfl) r.outcome.error
  simp only [Option.bind_eq_bind, Option.bind_some, number, text, missing]
  rfl

theorem Content.ofJson?_toJson (results : List FetchResult) (s : Summary) :
    Content.ofJson? (toJson results s) = some (.of results s) := by
  have entries : (results.map (·.toJson)).mapM Entry.ofJson? = some (results.map .of) :=
    mapM_map fun r _ => Entry.ofJson?_toJson r
  show (((results.map (·.toJson)).mapM Entry.ofJson?).bind fun _ => _) = _
  rw [entries]
  rfl

theorem entry_congr (h : Entry.of r = Entry.of r') : r.toJson = r'.toJson := by
  obtain ⟨url, status, size, millis, kind, error, attempts⟩ := Entry.mk.inj h
  have hkind : ∀ r : FetchResult, ofOption (fun k => .text k.name) r.outcome.kind =
      ofOption .text (r.outcome.kind.map (·.name)) := fun r => ofOption_comp .text ErrorKind.name _
  have hmillis : r.elapsed.millis64 = r'.elapsed.millis64 := millis
  unfold FetchResult.toJson
  rw [hkind, hkind, kind, url, status, size, hmillis, error, attempts]

theorem results_congr (h : results.map Entry.of = results'.map Entry.of) :
    results.map (·.toJson) = results'.map (·.toJson) := by
  induction results generalizing results' with
  | nil =>
    cases results' with
    | nil => rfl
    | cons r' results' => cases h
  | cons r results ih =>
    cases results' with
    | nil => cases h
    | cons r' results' =>
      obtain ⟨hr, hresults⟩ := List.cons.inj h
      rw [List.map_cons, List.map_cons, entry_congr hr, ih hresults]

/-- What is not reported makes no difference. -/
theorem toJson_congr (h : Content.of results s = Content.of results' s') : toJson results s = toJson results' s' := by
  obtain ⟨total, millis, entries, succeeded, failed⟩ := Content.mk.inj h
  have hmillis : s.elapsed.millis64 = s'.elapsed.millis64 := millis
  unfold toJson
  rw [total, hmillis, results_congr entries, succeeded, failed]

end Reading

/-- A report is one JSON document, and all that can be read of it is what is reported: the counts of the batch, and for
    each result in order its members, of which the text of a failure is missing exactly if there is none. Two batches
    have the same document exactly if nothing that is reported differs. -/
theorem document_faithful (results : List FetchResult) (s : Summary) :
    (∃ x items, Json.IsDocument x (document results s) ∧ (∀ y, Json.IsDocument y (document results s) → y = x) ∧
      Json.read? (document results s) = some x ∧ Content.ofJson? x = some (.of results s) ∧
      x.names = ["total_urls", "duration_ms", "results", "success_count", "failure_count"] ∧
      x.member? "results" = some (.list items) ∧
      items.map names = results.map fun r =>
        ["url", "status_code", "size", "duration_ms", "error_kind"] ++ (r.outcome.error.map fun _ => "error").toList ++
          ["attempts"]) ∧
    ∀ (results' : List FetchResult) (s' : Summary),
      document results s = document results' s' ↔ Content.of results s = Content.of results' s' := by
  have written := Json.isDocument_document (toJson results s)
  refine ⟨⟨toJson results s, results.map (·.toJson), written, fun y hy => hy.unique written, Json.read?_document _,
    Content.ofJson?_toJson results s, rfl, rfl, ?_⟩, fun results' s' => ⟨fun same => ?_, fun same => ?_⟩⟩
  · rw [List.map_map]
    exact List.map_congr_left fun r _ => names_toJson r
  · have hjson := Json.document_injective same
    have hread := Content.ofJson?_toJson results s
    rw [hjson, Content.ofJson?_toJson] at hread
    exact (Option.some.inj hread).symm
  · exact congrArg Json.document (toJson_congr same)

end Report

end BatchFetch
