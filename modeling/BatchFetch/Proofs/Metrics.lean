import BatchFetch.Metrics
import BatchFetch.Proofs.Assoc
import Mathlib.Algebra.BigOperators.Group.List.Lemmas
import Mathlib.Algebra.Ring.Nat
import Mathlib.Data.List.Perm.Basic

/-! # Reading counters and histograms

What a counter or a histogram says is how often what it stands for was recorded. -/

namespace BatchFetch

/-! ### Lists without repetitions -/

section Lists
variable {α : Type} [DecidableEq α]

theorem nodup_eraseDups : ∀ l : List α, l.eraseDups.Nodup
  | [] => .nil
  | x :: l => by
    rw [List.eraseDups_cons, List.nodup_cons]
    refine ⟨?_, nodup_eraseDups (l.filter fun y => !y == x)⟩
    simp [List.mem_eraseDups]
termination_by l => l.length
decreasing_by exact Nat.lt_succ_of_le (List.length_filter_le _ _)

theorem perm_dedup (l : List α) : l.eraseDups.Perm l.dedup :=
  (List.perm_ext_iff_of_nodup (nodup_eraseDups l) l.nodup_dedup).mpr fun x => by
    rw [List.mem_eraseDups, List.mem_dedup]

/-- The counts of different elements add up. -/
theorem sum_count_eraseDups (p : α → Bool) (l : List α) : ((l.eraseDups.filter p).map fun x => l.count x).sum = l.countP p := by
  rw [(((perm_dedup l).filter p).map fun x => l.count x).sum_eq]
  exact List.sum_map_count_dedup_filter_eq_countP p l

end Lists

namespace Metric

/-- What a counter says; one that is absent says nothing. -/
def value (ms : List Metric) (c : Counter) : Nat := ((counters ms).lookup c).getD 0

/-- What the counters of a name say together, whatever their labels. -/
def total (ms : List Metric) (name : String) : Nat := (((counters ms).filter (·.1.name == name)).map (·.2)).sum

/-- The spans in a histogram. -/
def samples (ms : List Metric) (name : String) : List Span := ((histograms ms).lookup name).getD []

section Readings
variable {ms : List Metric} {name : String} {c : Counter}

theorem value_eq : value ms c = ms.countP fun m => m.counter? == some c := by
  unfold value counters
  rw [lookup_map_pair, ← List.count_filterMap]
  split
  · rfl
  · rename_i habsent
    refine (List.count_eq_zero.mpr fun hmem => habsent ?_).symm
    exact List.contains_iff_mem.mpr (List.mem_eraseDups.mpr hmem)

theorem total_eq : total ms name = ms.countP fun m => m.counter?.any (·.name == name) := by
  have hsum := sum_count_eraseDups (fun c : Counter => c.name == name) (ms.filterMap counter?)
  rw [List.countP_filterMap] at hsum
  unfold total counters
  rw [List.filter_map, List.map_map]
  refine hsum.trans (List.countP_congr fun m _ => ?_)
  cases m.counter? <;> simp

theorem length_samples : (samples ms name).length = ms.countP fun m => m.sample?.any (·.1 == name) := by
  have hcount : ((ms.filterMap sample?).filter (·.1 == name)).length = ms.countP fun m => m.sample?.any (·.1 == name) := by
    rw [← List.countP_eq_length_filter, List.countP_filterMap]
    refine List.countP_congr fun m _ => ?_
    cases m.sample? <;> simp
  unfold samples histograms
  rw [lookup_map_pair, ← hcount]
  split
  · simp
  · rename_i habsent
    refine (List.length_eq_zero_iff.mpr (List.filter_eq_nil_iff.mpr fun x hx hname => habsent ?_)).symm
    exact List.contains_iff_mem.mpr (List.mem_eraseDups.mpr (List.mem_map.mpr ⟨x, hx, by simpa using hname⟩))

end Readings

end Metric

end BatchFetch
