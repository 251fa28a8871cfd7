import Mathlib.Data.List.Basic

/-! Lists of pairs in which a key is looked up: what is found after the pairs of a key were replaced or
    taken out, in a list that gives each key its value, and in one whose keys are the places. If no key
    occurs twice, what is found is what is there. -/

namespace BatchFetch

section Lookup
variable {κ α : Type} [BEq κ] [LawfulBEq κ] {i j : κ}

theorem lookup_replace [DecidableEq κ] (a : α) (l : List (κ × α)) :
    (l.map fun e => if e.1 == i then (i, a) else e).lookup j =
      if j = i then (l.lookup i).map fun _ => a else l.lookup j := by
  induction l with
  | nil => simp
  | cons e l ih =>
    obtain ⟨k, x⟩ := e
    rw [List.map_cons]
    by_cases hk : k = i
    · subst hk
      rw [if_pos (beq_self_eq_true k), List.lookup_cons, List.lookup_cons]
      by_cases hj : j = k
      · simp [hj]
      · rw [beq_false_of_ne hj, ih, if_neg hj]
        simp [hj, List.lookup_cons, beq_false_of_ne hj]
    · rw [if_neg (by simpa using hk), List.lookup_cons, List.lookup_cons, List.lookup_cons, ih]
      by_cases hj : j = i
      · simp [hj, beq_false_of_ne (Ne.symm hk)]
      · simp [hj]

theorem lookup_filter_ne (h : j ≠ i) (l : List (κ × α)) : (l.filter (·.1 != i)).lookup j = l.lookup j := by
  induction l with
  | nil => rfl
  | cons e l ih =>
    obtain ⟨k, x⟩ := e
    by_cases hk : k = i
    · subst hk
      simp [ih, List.lookup_cons, beq_false_of_ne h]
    · simp [hk, ih, List.lookup_cons]

theorem lookup_filter_self (l : List (κ × α)) : (l.filter (·.1 != i)).lookup i = none := by
  refine List.lookup_eq_none_iff.mpr fun e he => ?_
  have : e.1 ≠ i := by simpa using (List.mem_filter.mp he).2
  exact bne_iff_ne.mpr this.symm

theorem lookup_map_pair (f : κ → α) (l : List κ) :
    (l.map fun k => (k, f k)).lookup j = if l.contains j then some (f j) else none := by
  induction l with
  | nil => rfl
  | cons k l ih =>
    rw [List.map_cons, List.lookup_cons, List.contains_cons]
    by_cases hk : j = k
    · simp [hk]
    · simp [beq_false_of_ne hk, ih]

theorem mem_of_lookup {a : α} {l : List (κ × α)} (h : l.lookup i = some a) : (i, a) ∈ l := by
  obtain ⟨l₁, l₂, rfl, -⟩ := List.lookup_eq_some_iff.mp h
  simp

theorem lookup_eq_some_iff_mem {a : α} {l : List (κ × α)} (keys : (l.map (·.1)).Nodup) :
    l.lookup i = some a ↔ (i, a) ∈ l := by
  refine ⟨mem_of_lookup, fun h => ?_⟩
  induction l with
  | nil => simp at h
  | cons e l ih =>
    obtain ⟨hnew, hkeys⟩ := List.nodup_cons.mp keys
    rcases List.mem_cons.mp h with rfl | h
    · rw [List.lookup_cons, beq_self_eq_true]
    · have hne : i ≠ e.1 := fun heq => hnew (List.mem_map.mpr ⟨(i, a), h, heq⟩)
      rw [List.lookup_cons, beq_false_of_ne hne]
      exact ih hkeys h

/-- What is found at a key of a list is what stands in the place of the key in another one. -/
theorem lookup_zip_map {β : Type} {f : β → κ} {bs : List β} (keys : (bs.map f).Nodup) {b : β} (hb : b ∈ bs)
    (l : List α) (a : α) : ((bs.map f).zip l).lookup (f b) = some a ↔ (b, a) ∈ bs.zip l := by
  induction bs generalizing l with
  | nil => simp at hb
  | cons c bs ih =>
    obtain ⟨hnew, hkeys⟩ := List.nodup_cons.mp keys
    cases l with
    | nil => simp
    | cons x l =>
      rw [List.map_cons, List.zip_cons_cons, List.zip_cons_cons, List.lookup_cons, List.mem_cons, Prod.mk.injEq]
      rcases List.mem_cons.mp hb with rfl | hb
      · have hnone : (b, a) ∉ bs.zip l := fun h => hnew (List.mem_map.mpr ⟨b, (List.of_mem_zip h).1, rfl⟩)
        rw [beq_self_eq_true]
        simp [hnone, eq_comm]
      · have hne : f b ≠ f c := fun heq => hnew (List.mem_map.mpr ⟨b, hb, heq⟩)
        have hbc : b ≠ c := fun heq => hne (congrArg f heq)
        rw [beq_false_of_ne hne]
        simp only [hbc, false_and, false_or]
        exact ih hkeys hb l

end Lookup

theorem lookup_zip_range' {α : Type} (l : List α) (i : Nat) :
    ∀ k, ((List.range' k l.length).zip l).lookup i = if k ≤ i then l[i - k]? else none := by
  induction l with
  | nil => simp
  | cons x l ih =>
    intro k
    rw [List.length_cons, List.range'_succ, List.zip_cons_cons, List.lookup_cons, ih]
    by_cases hik : i = k
    · simp [hik]
    · have : (i == k) = false := by simpa using hik
      rw [this]
      by_cases hk : k ≤ i
      · have : i - k = i - (k + 1) + 1 := by omega
        simp [this, show k + 1 ≤ i by omega, hk]
      · simp [hk, show ¬k + 1 ≤ i by omega]

end BatchFetch
