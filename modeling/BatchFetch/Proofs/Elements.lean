import Mathlib.Data.List.Basic

/-! # Lists in parts

A list is read if each of its elements is; a list with a separator between its parts holds what the parts hold. -/

namespace BatchFetch

variable {α β γ : Type} {f : α → Option β} {l : List α} {r : List β}

theorem mapM_map {g : γ → α} {h : γ → β} {xs : List γ} (hread : ∀ x ∈ xs, f (g x) = some (h x)) :
    (xs.map g).mapM f = some (xs.map h) := by
  induction xs with
  | nil => rfl
  | cons x xs ih =>
    obtain ⟨hx, hxs⟩ := List.forall_mem_cons.mp hread
    rw [List.map_cons, List.mapM_cons, hx, ih hxs]
    rfl

theorem mapM_cons_eq_some {a : α} : (a :: l).mapM f = some r ↔
    ∃ b bs, f a = some b ∧ l.mapM f = some bs ∧ r = b :: bs := by
  rw [List.mapM_cons]
  simp only [Option.bind_eq_bind, Option.bind_eq_some_iff, Option.pure_def, Option.some_inj]
  constructor
  · rintro ⟨b, ha, bs, hl, rfl⟩
    exact ⟨b, bs, ha, hl, rfl⟩
  · rintro ⟨b, bs, ha, hl, rfl⟩
    exact ⟨b, ha, bs, hl, rfl⟩

theorem exists_of_mem_mapM (h : l.mapM f = some r) : ∀ b ∈ r, ∃ a ∈ l, f a = some b := by
  induction l generalizing r with
  | nil =>
    obtain rfl : [] = r := Option.some.inj h
    exact fun b hb => absurd hb List.not_mem_nil
  | cons a l ih =>
    obtain ⟨b, bs, ha, hl, rfl⟩ := mapM_cons_eq_some.mp h
    intro x hx
    rcases List.mem_cons.mp hx with rfl | hx
    · exact ⟨a, List.mem_cons_self, ha⟩
    · obtain ⟨y, hy, hfy⟩ := ih hl x hx
      exact ⟨y, List.mem_cons_of_mem _ hy, hfy⟩

theorem mem_intercalate {x a : α} {ls : List (List α)} (h : a ∈ List.intercalate [x] ls) : a = x ∨ ∃ l ∈ ls, a ∈ l := by
  induction ls with
  | nil => cases h
  | cons l ls ih =>
    cases ls with
    | nil =>
      rw [List.intercalate_singleton] at h
      exact .inr ⟨l, List.mem_cons_self, h⟩
    | cons l' ls =>
      rw [List.intercalate_cons_cons, List.append_assoc, List.singleton_append] at h
      rcases List.mem_append.mp h with h | h
      · exact .inr ⟨l, List.mem_cons_self, h⟩
      · rcases List.mem_cons.mp h with h | h
        · exact .inl h
        · exact (ih h).imp id fun ⟨m, hm, ha⟩ => ⟨m, List.mem_cons_of_mem _ hm, ha⟩

theorem mem_intercalate_of_mem {x a : α} {l : List α} {ls : List (List α)} (hl : l ∈ ls) (ha : a ∈ l) :
    a ∈ List.intercalate [x] ls := by
  induction ls with
  | nil => cases hl
  | cons m ls ih =>
    cases ls with
    | nil =>
      rw [List.intercalate_singleton]
      rwa [List.mem_singleton.mp hl] at ha
    | cons m' ls =>
      rw [List.intercalate_cons_cons]
      rcases List.mem_cons.mp hl with rfl | hl
      · exact List.mem_append_left _ (List.mem_append_left _ ha)
      · exact List.mem_append_right _ (ih hl)

theorem mem_of_mem_splitOn [BEq α] [LawfulBEq α] {x a : α} {xs : List α} (hl : l ∈ xs.splitOn x) (ha : a ∈ l) :
    a ∈ xs := by
  have joined : List.intercalate [x] (xs.splitOn x) = xs := List.intercalate_splitOn x
  rw [← joined]
  exact mem_intercalate_of_mem hl ha

end BatchFetch
