import BatchFetch.Proofs.Text.Decimal
import BatchFetch.Report.Summary

/-! # Lines of text

What is printed of a batch has a text for each result and one for the counts. Its mark tells whether the target of a
result was fetched. A text is a single line unless there is a line break in it, which only a target or the
reason of a failure can bring along. -/

namespace BatchFetch

/-! ### Line breaks -/

/-- A text without line breaks. -/
def Unbroken (s : String) : Prop := '\n' ∉ s.toList

instance : DecidablePred Unbroken := fun s => inferInstanceAs (Decidable ('\n' ∉ s.toList))

/-- The lines of a text. -/
def linesOf (s : String) : List String := (s.toList.splitOn '\n').map String.ofList

section Unbroken
variable {s t : String} {texts : List String}

@[simp] theorem unbroken_append : Unbroken (s ++ t) ↔ Unbroken s ∧ Unbroken t := by
  simp [Unbroken]

theorem linesOf_of_unbroken (h : Unbroken s) : linesOf s = [s] := by
  unfold linesOf
  rw [List.splitOn_eq_singleton h, List.map_singleton, String.ofList_toList]

theorem length_linesOf_pos (s : String) : 0 < (linesOf s).length := by
  unfold linesOf
  rw [List.length_map]
  exact List.length_pos_of_ne_nil (List.splitOn_ne_nil '\n' s.toList)

theorem one_lt_length_linesOf (h : ¬Unbroken s) : 1 < (linesOf s).length := by
  obtain ⟨before, after, heq⟩ := List.append_of_mem (not_not.mp h)
  have hbefore := List.length_pos_of_ne_nil (List.splitOn_ne_nil '\n' before)
  have hafter := List.length_pos_of_ne_nil (List.splitOn_ne_nil '\n' after)
  unfold linesOf
  rw [heq, List.splitOn_append_cons_self, List.length_map, List.length_append]
  omega

theorem length_le_length_lines (texts : List String) : texts.length ≤ (texts.flatMap linesOf).length := by
  induction texts with
  | nil => exact Nat.le_refl _
  | cons s texts ih =>
    have hs := length_linesOf_pos s
    rw [List.flatMap_cons, List.length_append, List.length_cons]
    omega

theorem lines_of_unbroken (h : ∀ s ∈ texts, Unbroken s) : texts.flatMap linesOf = texts := by
  induction texts with
  | nil => rfl
  | cons s texts ih =>
    obtain ⟨hs, htexts⟩ := List.forall_mem_cons.mp h
    rw [List.flatMap_cons, linesOf_of_unbroken hs, ih htexts, List.singleton_append]

/-- There is one line for each text exactly if no text has a line break. -/
theorem length_lines_iff : (texts.flatMap linesOf).length = texts.length ↔ ∀ s ∈ texts, Unbroken s := by
  refine ⟨fun h => ?_, fun h => by rw [lines_of_unbroken h]⟩
  induction texts with
  | nil => simp
  | cons s texts ih =>
    have hs := length_linesOf_pos s
    have htexts := length_le_length_lines texts
    rw [List.flatMap_cons, List.length_append, List.length_cons] at h
    refine List.forall_mem_cons.mpr ⟨?_, ih (by omega)⟩
    by_contra broken
    have := one_lt_length_linesOf broken
    omega

theorem lines_eq_iff : texts.flatMap linesOf = texts ↔ ∀ s ∈ texts, Unbroken s :=
  ⟨fun h => length_lines_iff.mp (congrArg List.length h), lines_of_unbroken⟩

end Unbroken

/-! ### Numbers -/

theorem unbroken_of_isDigit {cs : List Char} (h : ∀ c ∈ cs, c.isDigit = true) : Unbroken (String.ofList cs) := by
  intro hmem
  rw [String.toList_ofList] at hmem
  exact absurd (h '\n' hmem) (by decide)

@[simp] theorem Decimal.unbroken_text (n : Nat) : Unbroken (text n) :=
  unbroken_of_isDigit fun _ => isDigit_of_mem_digits

theorem Decimal.isDigit_of_mem_padded {width n : Nat} {c : Char} (h : c ∈ padded width n) : c.isDigit = true := by
  rcases List.mem_append.mp h with hzero | hdigit
  · rw [List.eq_of_mem_replicate hzero]
    decide
  · exact isDigit_of_mem_digits hdigit

theorem Binary64.unbroken_fixed (places : Nat) (x : Binary64) : Unbroken (x.fixed places) := by
  have hsign : Unbroken (if x.negative then "-" else "") := by
    split <;> simp [Unbroken]
  unfold fixed
  dsimp only
  split
  · simp [Unbroken]
  · exact unbroken_append.mpr ⟨hsign, by simp [Unbroken]⟩
  · refine unbroken_append.mpr ⟨unbroken_append.mpr ⟨hsign, Decimal.unbroken_text _⟩, ?_⟩
    split
    · simp [Unbroken]
    · exact unbroken_append.mpr ⟨by simp [Unbroken], unbroken_of_isDigit fun _ => Decimal.isDigit_of_mem_padded⟩

/-! ### Results -/

/-- Whether a text starts with a mark. -/
def startsWithMark (mark : Char) (s : String) : Bool := s.toList.head? == some mark

section Lines
variable {r : FetchResult} {mark : Char}

theorem head?_append {s t : String} (h : s.toList.head? = some mark) : (s ++ t).toList.head? = some mark := by
  rw [String.toList_append, List.head?_append, h, Option.some_or]

theorem FetchResult.isSuccess_iff :
    r.isSuccess = true ↔ r.outcome.kind = none ∧ ∃ status, r.outcome.status = some status ∧ 200 ≤ status ∧ status < 400 := by
  simp [isSuccess, Outcome.isSuccess, Option.any_eq_true]

theorem FetchResult.head?_line (r : FetchResult) :
    r.line.toList.head? = some (if r.isSuccess then '✅' else '❌') := by
  unfold line
  split
  · simp only [String.append_assoc]
    exact head?_append (by decide)
  · simp only [String.append_assoc]
    exact head?_append (by decide)

/-- A line break in the line of a result comes from its target, or from the reason of its failure. -/
theorem FetchResult.unbroken_line_iff :
    Unbroken r.line ↔ Unbroken r.target ∧ (r.isSuccess = false → Unbroken r.outcome.reason) := by
  have fetched : Unbroken "✅ " ∧ Unbroken " [" ∧ Unbroken "] " ∧ Unbroken " bytes in " := by decide
  have failed : Unbroken "❌ " ∧ Unbroken " " ∧ Unbroken " after " ∧ Unbroken " attempt(s) in " := by decide
  have millis : Unbroken "ms" := by decide
  unfold line
  split <;> rename_i h <;> simp [h, fetched, failed, millis]

theorem Summary.head?_line (s : Summary) : s.line.toList.head? = some 'T' := by
  unfold line
  simp only [String.append_assoc]
  exact head?_append (by decide)

theorem Summary.unbroken_line (s : Summary) : Unbroken s.line := by
  have words : Unbroken "Total: " ∧ Unbroken " URLs in " ∧ Unbroken "s (" ∧ Unbroken " succeeded, " ∧
      Unbroken " failed)" := by decide
  unfold line
  simp only [unbroken_append, Decimal.unbroken_text, Binary64.unbroken_fixed, words, and_self]

end Lines

/-! ### Counts -/

section Counts
variable {results : List FetchResult} {elapsed : Span}

theorem Summary.failed_eq :
    (Summary.ofResults results elapsed).failed = results.countP fun r => !r.isSuccess := by
  have := List.length_eq_countP_add_countP (fun r : FetchResult => r.isSuccess) (l := results)
  show results.length - results.countP _ = _
  simp only [Bool.not_eq_true, Bool.decide_eq_false] at this
  omega

theorem Summary.allSucceeded_iff :
    (Summary.ofResults results elapsed).allSucceeded = true ↔ ∀ r ∈ results, r.isSuccess = true := by
  simp [allSucceeded, failed_eq]

theorem countP_startsWithMark (mark : Char) (results : List FetchResult) :
    (results.map (·.line)).countP (startsWithMark mark) =
      results.countP fun r => (if r.isSuccess then '✅' else '❌') == mark := by
  rw [List.countP_map]
  refine List.countP_congr fun r _ => ?_
  simp only [Function.comp_apply, startsWithMark, FetchResult.head?_line, beq_iff_eq, Option.some.injEq]

/-- As many texts start with a mark of success as there are successes, and likewise for failures. -/
theorem countP_marked (results : List FetchResult) (s : Summary) :
    (results.map (·.line) ++ [s.line]).countP (startsWithMark '✅') = results.countP (·.isSuccess) ∧
      (results.map (·.line) ++ [s.line]).countP (startsWithMark '❌') = results.countP (fun r => !r.isSuccess) := by
  have hsummary : ∀ mark, mark ≠ 'T' → [s.line].countP (startsWithMark mark) = 0 := fun mark hmark => by
    simp [startsWithMark, Summary.head?_line, hmark.symm]
  rw [List.countP_append, List.countP_append, hsummary _ (by decide), hsummary _ (by decide), countP_startsWithMark,
    countP_startsWithMark]
  constructor
  · refine List.countP_congr fun r _ => ?_
    cases r.isSuccess <;> decide
  · refine List.countP_congr fun r _ => ?_
    cases r.isSuccess <;> decide

end Counts

end BatchFetch
