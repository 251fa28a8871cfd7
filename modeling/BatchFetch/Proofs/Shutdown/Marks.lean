import BatchFetch.Shutdown.Forest
import Mathlib.Data.List.Induction
import Mathlib.Data.Set.Insert
import Mathlib.Logic.Relation

/-! # Marks in a forest

Tokens are named here by their places. A token is marked if it is one that was cancelled, or is below one (`Marked`). A new
token takes the mark of its parent, and cancelling marks a token with all that is below it, so both keep this true. -/

namespace BatchFetch.Shutdown

variable {nodes : List Node} {n : Node} {x y z : Nat}

/-! ### Places below a place -/

/-- The place of the parent of the token at place `y`. -/
def parentOf (nodes : List Node) (y : Nat) : Option Nat := (nodes[y]?).bind (·.parent)

/-- Each token comes after its parent. -/
def Ordered (nodes : List Node) : Prop := ∀ x y, parentOf nodes y = some x → x < y

/-- Place `y` is `x`, or somewhere below it. -/
def Under (nodes : List Node) : Nat → Nat → Prop := Relation.ReflTransGen fun x y => parentOf nodes y = some x

theorem lt_of_parentOf (h : parentOf nodes y = some x) : y < nodes.length := by
  obtain ⟨m, hm, -⟩ := Option.bind_eq_some_iff.mp h
  exact (List.getElem?_eq_some_iff.mp hm).1

theorem parentOf_concat_of_lt (h : y < nodes.length) : parentOf (nodes ++ [n]) y = parentOf nodes y := by
  unfold parentOf
  rw [List.getElem?_append_left h]

theorem parentOf_concat_length : parentOf (nodes ++ [n]) nodes.length = n.parent := by
  unfold parentOf
  rw [List.getElem?_concat_length, Option.bind_some]

theorem Ordered.of_concat (h : Ordered (nodes ++ [n])) : Ordered nodes := by
  intro x y hxy
  refine h x y ?_
  rw [parentOf_concat_of_lt (lt_of_parentOf hxy)]
  exact hxy

/-- A token whose parent is there already can be added. -/
theorem Ordered.concat (h : Ordered nodes) (hn : ∀ p, n.parent = some p → p < nodes.length) : Ordered (nodes ++ [n]) := by
  intro x y hxy
  have hy : y < nodes.length + 1 := by
    have := lt_of_parentOf hxy
    rwa [List.length_append] at this
  rcases Nat.lt_succ_iff_lt_or_eq.mp hy with hy | rfl
  · rw [parentOf_concat_of_lt hy] at hxy
    exact h x y hxy
  · rw [parentOf_concat_length] at hxy
    exact hn x hxy

theorem Under.le (ordered : Ordered nodes) (h : Under nodes x y) : x ≤ y := by
  induction h with
  | refl => exact Nat.le_refl x
  | tail _ hyz ih => exact Nat.le_trans ih (Nat.le_of_lt (ordered _ _ hyz))

theorem under_iff : Under nodes x y ↔ y = x ∨ ∃ p, parentOf nodes y = some p ∧ Under nodes x p := by
  unfold Under
  rw [Relation.ReflTransGen.cases_tail_iff]
  simp only [and_comm]

/-- A root is below no other place. -/
theorem Under.eq_of_root (h : Under nodes x y) (root : parentOf nodes y = none) : y = x := by
  rcases under_iff.mp h with same | ⟨p, hp, -⟩
  · exact same
  · rw [root] at hp
    cases hp

theorem Under.congr {nodes' : List Node} (same : ∀ y, parentOf nodes' y = parentOf nodes y) (h : Under nodes x y) :
    Under nodes' x y :=
  Relation.ReflTransGen.mono (fun _ y hxy => (same y).trans hxy) _ _ h

/-- A token that is added changes nothing below the places that were there. -/
theorem under_concat_of_lt (ordered : Ordered (nodes ++ [n])) (hy : y < nodes.length) :
    Under (nodes ++ [n]) x y ↔ Under nodes x y := by
  constructor
  · intro h
    induction h with
    | refl => exact .refl
    | @tail w y _ hwy ih =>
      have hw : w < nodes.length := Nat.lt_trans (ordered w y hwy) hy
      rw [parentOf_concat_of_lt hy] at hwy
      exact .tail (ih hw) hwy
  · refine Relation.ReflTransGen.mono (fun w v hwv => ?_) x y
    rw [parentOf_concat_of_lt (lt_of_parentOf hwv)]
    exact hwv

/-- A token that is added is below its own place, and below what its parent is below. -/
theorem under_concat_length (ordered : Ordered (nodes ++ [n])) :
    Under (nodes ++ [n]) x nodes.length ↔
      x = nodes.length ∨ ∃ p, n.parent = some p ∧ Under nodes x p := by
  rw [under_iff, parentOf_concat_length, eq_comm]
  refine or_congr_right (exists_congr fun p => and_congr_right fun hp => ?_)
  refine under_concat_of_lt ordered (ordered p nodes.length ?_)
  rw [parentOf_concat_length, hp]

/-! ### Marking -/

theorem marked_concat_of_lt (h : y < nodes.length) : marked (nodes ++ [n]) y = marked nodes y := by
  unfold marked
  rw [List.getElem?_append_left h]

theorem marked_concat_length : marked (nodes ++ [n]) nodes.length = n.cancelled := by
  unfold marked
  rw [List.getElem?_concat_length, Option.any_some]

theorem mark_concat (x : Nat) (nodes : List Node) (n : Node) :
    mark x (nodes ++ [n]) = mark x nodes ++
      [{ n with cancelled := n.cancelled || (mark x nodes).length == x || n.parent.any (marked (mark x nodes)) }] := by
  unfold mark
  rw [List.foldl_append]
  rfl

theorem length_mark (x : Nat) (nodes : List Node) : (mark x nodes).length = nodes.length := by
  induction nodes using List.reverseRecOn with
  | nil => rfl
  | append_singleton nodes n ih => rw [mark_concat, List.length_append, List.length_append, ih]; rfl

/-- Marking leaves each token its parent. -/
theorem parentOf_mark (x : Nat) (nodes : List Node) (y : Nat) : parentOf (mark x nodes) y = parentOf nodes y := by
  induction nodes using List.reverseRecOn with
  | nil => rfl
  | append_singleton nodes n ih =>
    rw [mark_concat]
    rcases Nat.lt_trichotomy y nodes.length with hy | rfl | hy
    · rw [parentOf_concat_of_lt hy, parentOf_concat_of_lt (by rwa [length_mark]), ih]
    · rw [parentOf_concat_length, ← length_mark x nodes, parentOf_concat_length]
    · have hlate : nodes.length + 1 ≤ y := hy
      unfold parentOf
      rw [List.getElem?_eq_none (by simpa [length_mark] using hlate), List.getElem?_eq_none (by simpa using hlate)]

theorem Ordered.mark (h : Ordered nodes) (x : Nat) : Ordered (mark x nodes) := fun w y hwy =>
  h w y ((parentOf_mark x nodes y).symm.trans hwy)

/-- After marking, a token is marked if it is below the place, or below what was marked before. -/
theorem marked_mark_iff (ordered : Ordered nodes) (hy : y < nodes.length) :
    marked (mark x nodes) y = true ↔ ∃ z, (z = x ∨ marked nodes z = true) ∧ Under nodes z y := by
  induction nodes using List.reverseRecOn generalizing y with
  | nil => exact absurd hy (Nat.not_lt_zero y)
  | append_singleton nodes n ih =>
    have before := ordered.of_concat
    have hparent : ∀ p, n.parent = some p → p < nodes.length := fun p hp =>
      ordered p nodes.length (parentOf_concat_length.trans hp)
    -- above a token that was there is nothing but what was there
    have above : ∀ z w, w < nodes.length → Under nodes z w →
        ((z = x ∨ marked (nodes ++ [n]) z = true) ↔ (z = x ∨ marked nodes z = true)) := fun z w hw hzw => by
      rw [marked_concat_of_lt (Nat.lt_of_le_of_lt (hzw.le before) hw)]
    rw [List.length_append] at hy
    rw [mark_concat]
    rcases Nat.lt_succ_iff_lt_or_eq.mp hy with hy | rfl
    · rw [marked_concat_of_lt (by rwa [length_mark]), ih before hy]
      refine exists_congr fun z => ?_
      rw [under_concat_of_lt ordered hy, and_congr_left_iff]
      exact fun hz => (above z y hy hz).symm
    · -- the token that is added: it is marked itself, or its parent is
      conv_lhs => rw [← length_mark x nodes, marked_concat_length]
      simp only [Bool.or_eq_true, beq_iff_eq, length_mark, Option.any_eq_true]
      constructor
      · rintro ((hn | same) | ⟨p, hp, hmark⟩)
        · exact ⟨nodes.length, .inr (marked_concat_length.trans hn), .refl⟩
        · exact ⟨nodes.length, .inl same, .refl⟩
        · obtain ⟨z, hz, hzp⟩ := (ih before (hparent p hp)).mp hmark
          exact ⟨z, (above z p (hparent p hp) hzp).mpr hz, (under_concat_length ordered).mpr (.inr ⟨p, hp, hzp⟩)⟩
      · rintro ⟨z, hz, hunder⟩
        rcases (under_concat_length ordered).mp hunder with rfl | ⟨p, hp, hzp⟩
        · rcases hz with same | hz
          · exact .inl (.inr same)
          · exact .inl (.inl (marked_concat_length.symm.trans hz))
        · exact .inr ⟨p, hp, (ih before (hparent p hp)).mpr ⟨z, (above z p (hparent p hp) hzp).mp hz, hzp⟩⟩

/-! ### What is marked -/

/-- The tokens at the places `S` were cancelled: these and all below them are marked, and no others. -/
structure Marked (S : Set Nat) (nodes : List Node) : Prop where
  ordered : Ordered nodes
  inside : ∀ z ∈ S, z < nodes.length
  marked_iff : ∀ y < nodes.length, marked nodes y = true ↔ ∃ z ∈ S, Under nodes z y

namespace Marked
variable {S : Set Nat}

/-- A token that is added with the mark of its parent, or with none as a root. -/
theorem concat (h : Marked S nodes) (hp : ∀ p, n.parent = some p → p < nodes.length)
    (hn : n.cancelled = n.parent.any (Shutdown.marked nodes)) : Marked S (nodes ++ [n]) := by
  have ordered := h.ordered.concat hp
  refine ⟨ordered, fun z hz => ?_, fun y hy => ?_⟩
  · rw [List.length_append]
    exact Nat.lt_succ_of_lt (h.inside z hz)
  rw [List.length_append] at hy
  rcases Nat.lt_succ_iff_lt_or_eq.mp hy with hy | rfl
  · rw [marked_concat_of_lt hy, h.marked_iff y hy]
    exact exists_congr fun z => and_congr_right fun _ => (under_concat_of_lt ordered hy).symm
  · rw [marked_concat_length, hn, Option.any_eq_true]
    constructor
    · rintro ⟨p, hparent, hmark⟩
      obtain ⟨z, hz, hzp⟩ := (h.marked_iff p (hp p hparent)).mp hmark
      exact ⟨z, hz, (under_concat_length ordered).mpr (.inr ⟨p, hparent, hzp⟩)⟩
    · rintro ⟨z, hz, hunder⟩
      rcases (under_concat_length ordered).mp hunder with rfl | ⟨p, hparent, hzp⟩
      · exact absurd (h.inside _ hz) (Nat.lt_irrefl _)
      · exact ⟨p, hparent, (h.marked_iff p (hp p hparent)).mpr ⟨z, hz, hzp⟩⟩

/-- One more token is cancelled. -/
theorem mark (h : Marked S nodes) (hx : x < nodes.length) : Marked (insert x S) (mark x nodes) := by
  refine ⟨h.ordered.mark x, ?_, fun y hy => ?_⟩
  · rw [length_mark]
    rintro z (rfl | hz)
    · exact hx
    · exact h.inside z hz
  rw [length_mark] at hy
  have hunder : ∀ z, Under (Shutdown.mark x nodes) z y ↔ Under nodes z y := fun z =>
    ⟨Under.congr fun w => (parentOf_mark x nodes w).symm, Under.congr (parentOf_mark x nodes)⟩
  rw [marked_mark_iff h.ordered hy]
  constructor
  · rintro ⟨z, rfl | hz, hzy⟩
    · exact ⟨z, Set.mem_insert z S, (hunder z).mpr hzy⟩
    · obtain ⟨w, hw, hwz⟩ := (h.marked_iff z (Nat.lt_of_le_of_lt (hzy.le h.ordered) hy)).mp hz
      exact ⟨w, Set.mem_insert_of_mem x hw, (hunder w).mpr (hwz.trans hzy)⟩
  · rintro ⟨z, rfl | hz, hzy⟩
    · exact ⟨z, .inl rfl, (hunder z).mp hzy⟩
    · exact ⟨z, .inr ((h.marked_iff z (h.inside z hz)).mpr ⟨z, hz, .refl⟩), (hunder z).mp hzy⟩

end Marked

end BatchFetch.Shutdown
