import BatchFetch.Cli.Run
import BatchFetch.Proofs.Dispatch.Building
import BatchFetch.Proofs.Dispatch.Live
import BatchFetch.Proofs.Report.Lines

/-! # The verdict of a run

The batch of a run always comes to its end. The run then prints what came of each target that it was given, in the order
in which their workers ended, and succeeds if every one of them was fetched. Its texts are as many as its targets and one
more, but a line break in a target makes more lines of them. -/

namespace BatchFetch

/-- Target `i` was fetched: its result has no failure, and a status from 200 to 399. -/
def Batch.State.Fetched (s : Batch.State) (i : Nat) : Prop :=
  ∃ r, (i, r) ∈ s.delivered ∧ r.outcome.kind = none ∧ ∃ status, r.outcome.status = some status ∧ 200 ≤ status ∧ status < 400

namespace Cli

/-! ### What is printed -/

section Printed
variable {r : Result} {report : BatchReport}

/-- The lines that are printed. Nothing follows the last line break. -/
def Result.lines (r : Result) : List String := (linesOf r.stdout).dropLast

theorem lines_eq (r : Result) : r.lines = r.output.flatMap linesOf := by
  have hsplit : ∀ texts : List String, ((texts.flatMap fun s => s.toList ++ ['\n']).splitOn '\n') =
      (texts.flatMap fun s => s.toList.splitOn '\n') ++ [[]] := fun texts => by
    induction texts with
    | nil => rfl
    | cons s texts ih =>
      rw [List.flatMap_cons, List.flatMap_cons, List.append_assoc, List.singleton_append, List.splitOn_append_cons_self,
        ih, List.append_assoc]
  unfold Result.lines Result.stdout linesOf
  rw [String.toList_ofList, hsplit, List.map_append, List.map_singleton, List.dropLast_concat, List.map_flatMap]

/-- In text there is one line for each result and one for the counts, unless a target or the reason of a failure has
    a line break. -/
theorem length_lines_text_iff :
    (Result.ofReport .text report).lines.length = report.results.length + 1 ↔
      ∀ x ∈ report.results, Unbroken x.target ∧ (x.isSuccess = false → Unbroken x.outcome.reason) := by
  have hlength : report.results.length + 1 = (outputOf .text report).length := by
    show _ = (report.results.map _ ++ [_]).length
    rw [List.length_append, List.length_map, List.length_singleton]
  rw [lines_eq, hlength]
  show ((outputOf .text report).flatMap linesOf).length = _ ↔ _
  rw [length_lines_iff]
  show (∀ s ∈ report.results.map _ ++ [_], Unbroken s) ↔ _
  simp only [List.forall_mem_append, List.forall_mem_map, List.forall_mem_singleton, Summary.unbroken_line, and_true,
    FetchResult.unbroken_line_iff]

end Printed

/-! ### What a run comes to -/

section Runs
variable {w : World} {args : List String} {c : Command} {config : Config}

theorem targets_ne_nil (parsed : Command.ofArguments args = .ok c) : c.targets ≠ [] := by
  unfold Command.ofArguments at parsed
  split at parsed
  · split at parsed
    · cases parsed
    · rename_i given
      cases parsed
      simpa using given
  · cases parsed

theorem isValid_of_checked {config' : Config} (h : config.checked = .ok config') : config'.isValid = true := by
  unfold Config.checked at h
  split at h
  · cases h
    assumption
  · cases h

theorem isValid_of_loaded (loaded : configOf w c = .ok config) : config.isValid = true := by
  unfold configOf at loaded
  split at loaded
  · exact isValid_of_checked loaded
  · split at loaded
    · exact isValid_of_checked loaded
    · cases loaded

theorem run_eq (parsed : Command.ofArguments args = .ok c) (loaded : configOf w c = .ok config) :
    run w args = runBatch w c config := by
  unfold run
  rw [parsed]
  dsimp only
  rw [loaded]

/-- A batch cannot be built if there would have to be more permits than there can be. -/
theorem unbuilt_iff (valid : config.isValid = true) :
    batchOf? w c config = none ↔ ∃ n, config.dispatch.maxConcurrency = some n ∧ Batch.mostPermits < n.toNat := by
  obtain ⟨-, -, -, -, -, concurrency, -⟩ := Config.isValid_iff.mp valid
  unfold batchOf?
  rw [Option.eq_none_iff_forall_ne_some, ← not_exists, Batch.exists_built_iff]
  push Not
  refine exists_congr fun n => and_congr_right fun hn => ?_
  rw [Batch.max_one_of_ne_some_zero concurrency hn]

theorem runBatch_of_unbuilt (client : Http.canBuild config.transport = true) (unbuilt : batchOf? w c config = none) :
    runBatch w c config = { exitCode := Result.brokenOff } := by
  unfold runBatch
  rw [client, unbuilt]
  rfl

theorem runBatch_of_built {b : Batch} (client : Http.canBuild config.transport = true)
    (built : batchOf? w c config = some b) :
    runBatch w c config = .ofReport (c.format.getD .text) (.ofState b (b.live w.lapse)) := by
  unfold runBatch
  rw [client, built]
  rfl

theorem heedsStop_of_built {b : Batch} (built : batchOf? w c config = some b) (calls : List Call) (target : String) :
    (b.transport calls target).heedsStop = true := by
  rw [Batch.eq_ofConfig built]
  rfl

end Runs

/-! ### The verdict -/

/-- What the ways of printing the report of a batch say about its targets. -/
structure Tells (b : Batch) (s : Batch.State) (report : BatchReport) : Prop where
  /-- Each target has one result. -/
  each : ∀ i < b.targets.length, ∃ r, s.delivered.filter (·.1 == i) = [(i, r)] ∧ b.targets[i]? = some r.target
  total : report.results.length = b.targets.length
  /-- The results are in the order in which the workers ended. -/
  inOrder : report.results = s.delivered.map (·.2) ∧
    ∀ i j, Batch.EndsBefore b i j s → [i, j].Sublist (s.delivered.map (·.1))
  exitCode : ∀ format, (Result.ofReport format report).exitCode = Result.success ∧ (∀ i < b.targets.length, s.Fetched i) ∨
    (Result.ofReport format report).exitCode = Result.failed ∧ ¬∀ i < b.targets.length, s.Fetched i
  counts : report.summary.succeeded + report.summary.failed = b.targets.length
  /-- There is a text for each result, and then one for the counts. -/
  texts : (Result.ofReport .text report).output = report.results.map (·.line) ++ [report.summary.line]
  marks : (Result.ofReport .text report).output.countP (startsWithMark '✅') = report.summary.succeeded ∧
    (Result.ofReport .text report).output.countP (startsWithMark '❌') = report.summary.failed
  /-- These texts are the lines that are printed unless there is a line break in a target or in the reason of a failure. -/
  lines : ((Result.ofReport .text report).lines = (Result.ofReport .text report).output ↔
      (Result.ofReport .text report).lines.length = b.targets.length + 1) ∧
    ((Result.ofReport .text report).lines.length = b.targets.length + 1 ↔
      ∀ r ∈ report.results, Unbroken r.target ∧ (r.isSuccess = false → Unbroken r.outcome.reason))
  document : ∃ millis, (Result.ofReport .json report).output =
    [(Json.object [("total_urls", .number b.targets.length), ("duration_ms", .number millis),
      ("results", .list (report.results.map (·.toJson))), ("success_count", .number report.summary.succeeded),
      ("failure_count", .number report.summary.failed)]).document]

section Verdict
variable {w : World} {args : List String} {c : Command} {config : Config} {b : Batch} {s : Batch.State}

theorem allSucceeded_iff (acc : Batch.Accounted b s) (ended : s.isOver = true) :
    (∀ r ∈ s.results, r.isSuccess = true) ↔ ∀ i < b.targets.length, s.Fetched i := by
  rw [Batch.results_eq_delivered]
  constructor
  · intro all i hi
    obtain ⟨r, hr⟩ := acc.exists_result hi (Batch.phase_of_isOver ended i)
    have hmem := (Batch.hasResult_iff_of_isOver ended).mp hr
    exact ⟨r, hmem, FetchResult.isSuccess_iff.mp (all r (List.mem_map.mpr ⟨_, hmem, rfl⟩))⟩
  · intro all r hr
    obtain ⟨⟨i, r⟩, hmem, rfl⟩ := List.mem_map.mp hr
    obtain ⟨r', hmem', hfetched⟩ := all i (acc.lt_of_hasResult (.inl hmem))
    rw [acc.hasResult_unique (.inl hmem) (.inl hmem')]
    exact FetchResult.isSuccess_iff.mpr hfetched

theorem tells_of_isOver (reach : Batch.LiveReachable b s) (ended : s.isOver = true) : Tells b s (.ofState b s) where
  each i hi := by
    have acc := reach.accounted
    obtain ⟨r, hr⟩ := acc.delivered_eq ended hi
    have hmem : (i, r) ∈ s.delivered :=
      (List.mem_filter.mp (hr ▸ List.mem_singleton_self (i, r) : (i, r) ∈ s.delivered.filter (·.1 == i))).1
    refine ⟨r, hr, ?_⟩
    rw [(acc.delivered i r hmem).1, Batch.target, List.getElem?_eq_getElem hi]
    rfl
  total := reach.accounted.length_results ended
  inOrder := ⟨Batch.results_eq_delivered s, fun _ _ before => before.sublist ended⟩
  exitCode format := by
    have hall : (BatchReport.ofState b s).summary.allSucceeded = true ↔ ∀ i < b.targets.length, s.Fetched i :=
      Summary.allSucceeded_iff.trans (allSucceeded_iff reach.accounted ended)
    by_cases h : (BatchReport.ofState b s).summary.allSucceeded = true
    · exact .inl ⟨if_pos h, hall.mp h⟩
    · exact .inr ⟨if_neg h, fun all => h (hall.mpr all)⟩
  counts := by
    have hle : s.results.countP (·.isSuccess) ≤ s.results.length := List.countP_le_length
    have hlength := reach.accounted.length_results ended
    show s.results.countP _ + (s.results.length - s.results.countP _) = _
    omega
  texts := rfl
  marks := by
    obtain ⟨fetched, failed⟩ := countP_marked s.results (BatchReport.ofState b s).summary
    exact ⟨fetched, failed.trans Summary.failed_eq.symm⟩
  lines := by
    have hlength : (BatchReport.ofState b s).results.length = b.targets.length := reach.accounted.length_results ended
    constructor
    · rw [lines_eq, lines_eq_iff, ← length_lines_iff, ← hlength]
      show _ = (s.results.map _ ++ [_]).length ↔ _
      rw [List.length_append, List.length_map, List.length_singleton]
      rfl
    · rw [← hlength]
      exact length_lines_text_iff
  document := by
    have hlength := reach.accounted.length_results ended
    refine ⟨(BatchReport.ofState b s).summary.elapsed.millis64, ?_⟩
    rw [← hlength]
    rfl

/-- What comes of a command whose configuration can be used. Without a client there is an error and nothing else; with more permits
    than there can be the run breaks off. Otherwise there is a batch of the targets of the command. It comes to its end however long
    its steps take, and what the run leaves is the report of that end. From all else that it can come to in real time, whatever the
    order in which its workers take their turns, it can go on to its end as well; and when it is over, what is left tells what came
    of the targets. -/
theorem verdict_of_run (parsed : Command.ofArguments args = .ok c) (loaded : configOf w c = .ok config) :
    c.targets ≠ [] ∧ config.isValid = true ∧
    (Http.canBuild config.transport = false → run w args = .ofFailure "Error") ∧
    (Http.canBuild config.transport = true → batchOf? w c config = none → run w args = { exitCode := Result.brokenOff }) ∧
    (batchOf? w c config = none ↔ ∃ n, config.dispatch.maxConcurrency = some n ∧ Batch.mostPermits < n.toNat) ∧
    ∀ b, Http.canBuild config.transport = true → batchOf? w c config = some b →
      b.targets = c.targets ∧ run w args = .ofReport (c.format.getD .text) (.ofState b (b.live w.lapse)) ∧
      Batch.LiveReachable b (b.live w.lapse) ∧ (b.live w.lapse).isOver = true ∧
      ∀ s, Batch.LiveReachable b s → (∀ lapse, ∃ n, (b.runLive lapse n s).isOver = true) ∧
        (s.isOver = true → Tells b s (.ofState b s)) := by
  have valid := isValid_of_loaded loaded
  rw [run_eq parsed loaded]
  refine ⟨targets_ne_nil parsed, valid, fun client => ?_, runBatch_of_unbuilt, ?_, fun b client built => ?_⟩
  · unfold runBatch
    rw [client]
    rfl
  · exact unbuilt_iff valid
  · have heeds := heedsStop_of_built built
    obtain ⟨reach, ended⟩ := Batch.live_spec heeds w.lapse
    refine ⟨Batch.targets_of_built built, runBatch_of_built client built, reach, ended, fun s reach => ⟨fun lapse => ?_, ?_⟩⟩
    · exact ⟨_, reach.isOver_runLive heeds lapse (Nat.le_refl _)⟩
    · exact tells_of_isOver reach

end Verdict

/-! ### A run with a fetched target and one that is no URL -/

/-- A network in which everything answers at once. -/
def promptWorld : World :=
  { file := fun _ => none
    network := fun _ _ _ => .response Span.zero 200 { chunks := [{ size := 3 }], ending := .complete } }

def pair : Command := { targets := ["http://[::1]/", "b"] }

theorem loaded_pair : configOf promptWorld pair = .ok {} := by
  have valid : ({} : Config).isValid = true := by decide +kernel
  show (pair.apply {}).checked = _
  rw [show pair.apply {} = {} from rfl, Config.checked, if_pos valid]

theorem verdict_of_run_pair :
    Command.ofArguments pair.targets = .ok pair ∧ configOf promptWorld pair = .ok {} ∧
      ∃ b, batchOf? promptWorld pair {} = some b ∧ (b.live promptWorld.lapse).isOver = true ∧
        run promptWorld pair.targets = .ofReport .text (.ofState b (b.live promptWorld.lapse)) ∧
        (Result.ofReport .text (.ofState b (b.live promptWorld.lapse))).lines.length = 3 ∧
        (Result.ofReport .text (.ofState b (b.live promptWorld.lapse))).exitCode = Result.failed := by
  have parsed : Command.ofArguments pair.targets = .ok pair := by decide +kernel
  obtain ⟨-, -, -, -, unbuilt, verdict⟩ := verdict_of_run parsed loaded_pair
  obtain ⟨b, built⟩ := Option.ne_none_iff_exists'.mp (mt unbuilt.mp (by decide))
  obtain ⟨targets, heq, reach, ended, tells⟩ := verdict b (by decide) built
  have told := (tells _ reach).2 ended
  refine ⟨parsed, loaded_pair, b, built, ended, heq, ?_, ?_⟩
  · have hlines := told.lines.2.mpr (by
      cases built
      decide +kernel)
    rw [hlines, targets]
    rfl
  · -- The second target was not fetched, so the run cannot have succeeded.
    rcases told.exitCode .text with ⟨-, all⟩ | ⟨failed, -⟩
    · obtain ⟨r, hr, hkind, -⟩ := all 1 (by rw [targets]; decide)
      have hfailed : ∀ x ∈ (b.live promptWorld.lapse).delivered, x.1 = 1 → x.2.outcome.kind ≠ none := by
        cases built
        decide +kernel
      exact absurd hkind (hfailed _ hr rfl)
    · exact failed

/-- The second worker may be short of so little of a token that it has nothing to wait for. It looks again, and later. -/
example :
    (run promptWorld ["--rps", "999.9999", "--burst", "1", "http://[::1]/", "b"]).exitCode = Result.failed ∧
      (run promptWorld ["--rps", "999.9999", "--burst", "1", "http://[::1]/", "b"]).output.length = 3 := by decide +kernel

/-- Of one target that was not fetched two lines are printed, and both have the mark of a failure. -/
theorem lines_of_broken_target :
    Command.ofArguments ["a\n❌ b"] = .ok { targets := ["a\n❌ b"] } ∧
      (run promptWorld ["a\n❌ b"]).lines =
        ["❌ a", "❌ b invalid request: relative URL without a base after 1 attempt(s) in 0ms",
          "Total: 1 URLs in 0.00s (0 succeeded, 1 failed)"] ∧
      (run promptWorld ["a\n❌ b"]).lines.countP (startsWithMark '❌') = 2 := by
  have lines : (run promptWorld ["a\n❌ b"]).lines =
      ["❌ a", "❌ b invalid request: relative URL without a base after 1 attempt(s) in 0ms",
        "Total: 1 URLs in 0.00s (0 succeeded, 1 failed)"] := by decide +kernel
  refine ⟨by decide +kernel, lines, ?_⟩
  rw [lines]
  decide

end Cli

end BatchFetch
