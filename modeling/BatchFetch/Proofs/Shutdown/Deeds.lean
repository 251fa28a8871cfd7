import BatchFetch.Shutdown.Forest
import Mathlib.Data.Set.Insert
import Mathlib.Logic.Relation

/-! # What was done to a forest

What was done to a forest says who is related to whom: which coordinators were made from each other by cloning
(`Connected`), and which tokens come from which coordinator or token (`TakenFrom`, `Born`, `Descends`). These relations say
what is triggered and what is cancelled, whatever the order in which all this was done. -/

namespace BatchFetch.Shutdown

/-! ### What was done -/

/-- How many coordinators and tokens were handed out. -/
structure Issued where
  coordinators : Nat
  tokens : Nat

/-- Whether what is used has been handed out. -/
def Use.isOf (i : Issued) : Use → Bool
  | .coordinator => true
  | .clone n | .child n | .trigger n => n < i.coordinators
  | .grandchild t | .cancel t => t < i.tokens

/-- What is handed out by a use of something that was. -/
def Issued.next (i : Issued) : Use → Issued
  | .coordinator | .clone _ => { i with coordinators := i.coordinators + 1 }
  | .child _ | .grandchild _ => { i with tokens := i.tokens + 1 }
  | .trigger _ | .cancel _ => i

/-- What was handed out in the course of some uses; a coordinator is there from the start. -/
def issued (us : List Use) : Issued := us.foldl (fun i u => if u.isOf i then i.next u else i) ⟨1, 0⟩

/-- Uses, each with what had been handed out before. -/
abbrev Deeds := Set (Use × Issued)

/-- The uses among some that were of something handed out. -/
def deeds (us : List Use) : Deeds :=
  {d | ∃ before, before ++ [d.1] <+: us ∧ d.2 = issued before ∧ d.1.isOf d.2 = true}

/-- A use of number `a` handed out number `b`, as `count` counts what was handed out before. -/
def Made (D : Deeds) (how : Nat → Use) (count : Issued → Nat) (a b : Nat) : Prop :=
  ∃ i, (how a, i) ∈ D ∧ count i = b

/-- Coordinator `n` was made by cloning `m`. -/
abbrev Cloned (D : Deeds) (m n : Nat) : Prop := Made D .clone Issued.coordinators m n

/-- Token `t` was taken from coordinator `n`. -/
abbrev TakenFrom (D : Deeds) (n t : Nat) : Prop := Made D .child Issued.tokens n t

/-- Token `t` was taken from token `s`. -/
abbrev Born (D : Deeds) (s t : Nat) : Prop := Made D .grandchild Issued.tokens s t

/-- Two coordinators are connected by cloning. -/
def Connected (D : Deeds) : Nat → Nat → Prop := Relation.EqvGen (Cloned D)

/-- Token `t` is `s`, or descends from it. -/
def Descends (D : Deeds) : Nat → Nat → Prop := Relation.ReflTransGen (Born D)

/-- Two tokens were taken from the same token, or from connected coordinators. -/
def Siblings (D : Deeds) (s t : Nat) : Prop :=
  (∃ r, Born D r s ∧ Born D r t) ∨ ∃ m n, TakenFrom D m s ∧ TakenFrom D n t ∧ Connected D m n

/-- A coordinator was triggered, itself or a connected one. -/
def Triggered (D : Deeds) (n : Nat) : Prop := ∃ m, Connected D m n ∧ ∃ i, (.trigger m, i) ∈ D

/-- A token was cancelled: itself, one that it descends from, or by the coordinator at the root. -/
def Cancelled (D : Deeds) (t : Nat) : Prop :=
  ∃ s, Descends D s t ∧ ((∃ i, (.cancel s, i) ∈ D) ∨ ∃ n, TakenFrom D n s ∧ Triggered D n)

variable {D E : Deeds} {i : Issued} {u : Use} {us : List Use} {m n s t : Nat}

theorem deeds_nil : deeds [] = ∅ := by
  refine Set.eq_empty_of_forall_notMem fun d => ?_
  rintro ⟨before, h, -⟩
  have := h.length_le
  simp at this

theorem issued_concat (us : List Use) (u : Use) :
    issued (us ++ [u]) = if u.isOf (issued us) then (issued us).next u else issued us := by
  unfold issued
  rw [List.foldl_append]
  rfl

theorem mem_deeds_concat {d : Use × Issued} :
    d ∈ deeds (us ++ [u]) ↔ (d = (u, issued us) ∧ u.isOf (issued us) = true) ∨ d ∈ deeds us := by
  obtain ⟨v, j⟩ := d
  constructor
  · rintro ⟨before, h, rfl, hof⟩
    rcases List.prefix_concat_iff.mp h with same | h
    · obtain ⟨rfl, huv⟩ := List.append_inj' same rfl
      cases huv
      exact .inl ⟨rfl, hof⟩
    · exact .inr ⟨before, h, rfl, hof⟩
  · rintro (⟨same, hof⟩ | ⟨before, h, hj, hof⟩)
    · cases same
      exact ⟨us, List.prefix_refl _, rfl, hof⟩
    · exact ⟨before, h.trans (List.prefix_append us [u]), hj, hof⟩

theorem deeds_concat_of_isOf (h : u.isOf (issued us) = true) : deeds (us ++ [u]) = insert (u, issued us) (deeds us) := by
  ext d
  rw [mem_deeds_concat, Set.mem_insert_iff, and_iff_left h]

theorem deeds_concat_of_not_isOf (h : u.isOf (issued us) = false) : deeds (us ++ [u]) = deeds us := by
  ext d
  rw [mem_deeds_concat, h]
  simp

theorem deeds_mono (us more : List Use) : deeds us ⊆ deeds (us ++ more) := by
  rintro d ⟨before, h, hd⟩
  exact ⟨before, h.trans (List.prefix_append us more), hd⟩

theorem isOf_of_mem_deeds {d : Use × Issued} (h : d ∈ deeds us) : d.1.isOf d.2 = true := by
  obtain ⟨-, -, -, hof⟩ := h
  exact hof

/-! ### More that was done -/

section Insert
variable {how : Nat → Use} {count : Issued → Nat} {a b : Nat}

theorem Made.mono (h : D ⊆ E) (hD : Made D how count a b) : Made E how count a b := by
  obtain ⟨j, hj, hb⟩ := hD
  exact ⟨j, h hj, hb⟩

theorem made_insert : Made (insert (u, i) D) how count a b ↔ (how a = u ∧ count i = b) ∨ Made D how count a b := by
  constructor
  · rintro ⟨j, hj | hj, hb⟩
    · cases hj
      exact .inl ⟨rfl, hb⟩
    · exact .inr ⟨j, hj, hb⟩
  · rintro (⟨rfl, hb⟩ | ⟨j, hj, hb⟩)
    · exact ⟨i, .inl rfl, hb⟩
    · exact ⟨j, .inr hj, hb⟩

/-- A use of another kind hands out nothing of this one. -/
theorem made_insert_of_ne (h : how a ≠ u) : Made (insert (u, i) D) how count a b ↔ Made D how count a b := by
  rw [made_insert, or_iff_right fun new => h new.1]

end Insert

theorem Connected.mono (h : D ⊆ E) (hD : Connected D m n) : Connected E m n :=
  Relation.EqvGen.mono (fun _ _ hc => Made.mono h hc) _ _ hD

theorem Descends.mono (h : D ⊆ E) (hD : Descends D s t) : Descends E s t :=
  Relation.ReflTransGen.mono (fun _ _ hb => Made.mono h hb) _ _ hD

theorem Triggered.mono (h : D ⊆ E) (hD : Triggered D n) : Triggered E n := by
  obtain ⟨m, hmn, j, hj⟩ := hD
  exact ⟨m, hmn.mono h, j, h hj⟩

theorem Cancelled.mono (h : D ⊆ E) (hD : Cancelled D t) : Cancelled E t := by
  obtain ⟨s, hst, ⟨j, hj⟩ | ⟨n, hn, htrig⟩⟩ := hD
  · exact ⟨s, hst.mono h, .inl ⟨j, h hj⟩⟩
  · exact ⟨s, hst.mono h, .inr ⟨n, hn.mono h, htrig.mono h⟩⟩

/-- What was handed out is still there when more is. -/
theorem isOf_mono {j : Issued} (hc : i.coordinators ≤ j.coordinators) (ht : i.tokens ≤ j.tokens) (h : u.isOf i = true) :
    u.isOf j = true := by
  cases u with
  | coordinator => rfl
  | clone n | child n | trigger n => exact decide_eq_true (Nat.lt_of_lt_of_le (of_decide_eq_true h) hc)
  | grandchild t | cancel t => exact decide_eq_true (Nat.lt_of_lt_of_le (of_decide_eq_true h) ht)

theorem isOf_next {v : Use} (h : v.isOf i = true) (u : Use) : v.isOf (i.next u) = true := by
  cases u with
  | coordinator | clone n => exact isOf_mono (Nat.le_succ i.coordinators) (Nat.le_refl i.tokens) h
  | child n | grandchild t => exact isOf_mono (Nat.le_refl i.coordinators) (Nat.le_succ i.tokens) h
  | trigger n | cancel t => exact h

end BatchFetch.Shutdown
