import BatchFetch.Proofs.Shutdown.Places

/-! # Whom a shutdown reaches

At every point a coordinator is triggered if it or one that is connected to it was, and a token is cancelled if it was, or
one that it descends from, or the coordinator that these come from. So cancelling a token stays with its descendants, and
nothing is ever taken back. -/

namespace BatchFetch.Shutdown

variable {D : Deeds} {u : Use} {us more : List Use} {m n r s t x : Nat}

/-! ### At every point -/

theorem after_append (us more : List Use) : Forest.after (us ++ more) = more.foldl Forest.step (Forest.after us) :=
  List.foldl_append

theorem getElem?_triggered_iff (us : List Use) (n : Nat) :
    (Forest.after us).triggered[n]? = some true ↔ Triggered (deeds us) n := by
  have h := follows_after us
  unfold Forest.triggered
  rw [List.getElem?_map, Option.map_eq_some_iff]
  constructor
  · rintro ⟨x, hx, htrig⟩
    exact (h.triggered_iff hx).mp htrig
  · intro htrig
    obtain ⟨m, hmn, j, hj⟩ := id htrig
    have hm := List.getElem?_eq_getElem (h.lt_of_trigger hj)
    have hn := (h.handles.coordinators_eq hmn).symm.trans hm
    exact ⟨_, hn, (h.triggered_iff hn).mpr htrig⟩

theorem getElem?_cancelled_iff (us : List Use) (t : Nat) :
    (Forest.after us).cancelled[t]? = some true ↔ Cancelled (deeds us) t := by
  have h := follows_after us
  unfold Forest.cancelled
  rw [List.getElem?_map, Option.map_eq_some_iff]
  constructor
  · rintro ⟨x, hx, hcancel⟩
    exact (h.cancelled_iff hx).mp hcancel
  · intro hcancel
    obtain ⟨x, hx⟩ : ∃ x, (Forest.after us).tokens[t]? = some x := by
      obtain ⟨s, hst, hcause⟩ := id hcancel
      rcases Relation.ReflTransGen.cases_tail hst with rfl | ⟨r, -, hrt⟩
      · rcases hcause with ⟨j, hj⟩ | ⟨n, hn, -⟩
        · exact ⟨_, List.getElem?_eq_getElem (h.lt_of_cancel hj)⟩
        · obtain ⟨-, x, -, hx, -⟩ := h.lineage.taken n _ hn
          exact ⟨x, hx⟩
      · obtain ⟨-, x, -, hx, -⟩ := h.lineage.born r t hrt
        exact ⟨x, hx⟩
    exact ⟨x, hx, (h.cancelled_iff hx).mpr hcancel⟩

/-! ### Waiting -/

/-- A coordinator stays at its place. -/
theorem getElem?_coordinators_step {f : Forest} (h : f.coordinators[n]? = some x) (u : Use) :
    (f.step u).coordinators[n]? = some x := by
  have added : ∀ y, (f.coordinators ++ [y])[n]? = some x := fun y => getElem?_concat_iff.mpr (.inl h)
  cases u with
  | coordinator => exact added _
  | clone m =>
    rw [Forest.step]
    cases f.coordinators[m]? with
    | none => exact h
    | some y => exact added y
  | child m | trigger m =>
    rw [Forest.step]
    cases f.coordinators[m]? <;> exact h
  | grandchild t | cancel t =>
    rw [Forest.step]
    cases f.tokens[t]? <;> exact h

/-- A wait for a coordinator ends as soon as it is triggered. -/
theorem waitEnds_iff (hx : (Forest.after us).coordinators[n]? = some x) (more : List Use) :
    (Forest.after us).waitEnds x more = true ↔ Triggered (deeds (us ++ more)) n := by
  have now := (follows_after us).triggered_iff hx
  induction more generalizing us with
  | nil => rwa [List.append_nil]
  | cons u more ih =>
    have hstep : Forest.after (us ++ [u]) = (Forest.after us).step u := after_append us [u]
    have hx' := getElem?_coordinators_step hx u
    rw [← hstep] at hx'
    have later := ih hx' ((follows_after _).triggered_iff hx')
    rw [List.append_assoc, List.singleton_append, hstep] at later
    rw [Forest.waitEnds, Bool.or_eq_true]
    exact (or_congr now later).trans (or_iff_right_of_imp fun h => h.mono (deeds_mono us (u :: more)))

theorem resolves_iff (hn : n < (issued us).coordinators) (more : List Use) :
    (Forest.after us).resolves n more = true ↔ Triggered (deeds (us ++ more)) n := by
  rw [← (follows_after us).coordinators] at hn
  have hx := List.getElem?_eq_getElem hn
  unfold Forest.resolves
  rw [hx, Option.any_some, waitEnds_iff hx]

/-! ### Cancelling a token -/

theorem mem_deeds_concat_of_ne {v : Use} {j : Issued} (h : v ≠ u) : (v, j) ∈ deeds (us ++ [u]) ↔ (v, j) ∈ deeds us := by
  rw [mem_deeds_concat]
  exact or_iff_right fun new => h (congrArg Prod.fst new.1)

theorem made_concat_of_ne {how : Nat → Use} {count : Issued → Nat} {a b : Nat} (h : how a ≠ u) :
    Made (deeds (us ++ [u])) how count a b ↔ Made (deeds us) how count a b :=
  exists_congr fun _ => and_congr_left fun _ => mem_deeds_concat_of_ne h

/-- No coordinator is triggered by cancelling a token. -/
theorem triggered_concat_cancel : Triggered (deeds (us ++ [.cancel t])) n ↔ Triggered (deeds us) n := by
  refine ⟨?_, Triggered.mono (deeds_mono us _)⟩
  rintro ⟨m, hmn, j, hj⟩
  refine ⟨m, ?_, j, (mem_deeds_concat_of_ne (by simp)).mp hj⟩
  exact Relation.EqvGen.mono (fun _ _ => (made_concat_of_ne (by simp)).mp) _ _ hmn

/-- Cancelling a token cancels nothing that does not descend from it. -/
theorem cancelled_concat_cancel (h : ¬Descends (deeds us) t s) :
    Cancelled (deeds (us ++ [.cancel t])) s ↔ Cancelled (deeds us) s := by
  refine ⟨?_, Cancelled.mono (deeds_mono us _)⟩
  rintro ⟨r, hrs, hcause⟩
  have hrs : Descends (deeds us) r s :=
    Relation.ReflTransGen.mono (fun _ _ => (made_concat_of_ne (by simp)).mp) _ _ hrs
  rcases hcause with ⟨j, hj⟩ | ⟨n, hn, htrig⟩
  · have hne : Use.cancel r ≠ .cancel t := by
      rintro ⟨⟩
      exact h hrs
    exact ⟨r, hrs, .inl ⟨j, (mem_deeds_concat_of_ne hne).mp hj⟩⟩
  · exact ⟨r, hrs, .inr ⟨n, (made_concat_of_ne (by simp)).mp hn, triggered_concat_cancel.mp htrig⟩⟩

theorem length_triggered (us : List Use) : (Forest.after us).triggered.length = (issued us).coordinators :=
  (List.length_map _).trans (follows_after us).coordinators

theorem length_cancelled (us : List Use) : (Forest.after us).cancelled.length = (issued us).tokens :=
  (List.length_map _).trans (follows_after us).tokens

theorem issued_concat_cancel (us : List Use) (t : Nat) : issued (us ++ [.cancel t]) = issued us := by
  rw [issued_concat]
  exact ite_self _

theorem getElem?_eq_of_iff {l l' : List Bool} {k : Nat} (hlen : l.length = l'.length)
    (h : l[k]? = some true ↔ l'[k]? = some true) : l[k]? = l'[k]? := by
  by_cases hk : k < l.length
  · have hk' := hlen ▸ hk
    rw [List.getElem?_eq_getElem hk, List.getElem?_eq_getElem hk'] at h ⊢
    rw [Option.some_inj, Option.some_inj] at h
    exact congrArg some (Bool.eq_iff_iff.mpr h)
  · have hk := Nat.le_of_not_lt hk
    rw [List.getElem?_eq_none hk, List.getElem?_eq_none (hlen ▸ hk)]

theorem triggered_after_cancel (us : List Use) (t : Nat) :
    (Forest.after (us ++ [.cancel t])).triggered = (Forest.after us).triggered := by
  have hlen : (Forest.after (us ++ [.cancel t])).triggered.length = (Forest.after us).triggered.length := by
    rw [length_triggered, length_triggered, issued_concat_cancel]
  refine List.ext_getElem? fun n => getElem?_eq_of_iff hlen ?_
  rw [getElem?_triggered_iff, getElem?_triggered_iff, triggered_concat_cancel]

theorem cancelled_after_cancel (h : ¬Descends (deeds us) t s) :
    (Forest.after (us ++ [.cancel t])).cancelled[s]? = (Forest.after us).cancelled[s]? := by
  have hlen : (Forest.after (us ++ [.cancel t])).cancelled.length = (Forest.after us).cancelled.length := by
    rw [length_cancelled, length_cancelled, issued_concat_cancel]
  refine getElem?_eq_of_iff hlen ?_
  rw [getElem?_cancelled_iff, getElem?_cancelled_iff, cancelled_concat_cancel h]

/-! ### Ancestors and siblings -/

/-- A token comes after the one from which it is taken. -/
theorem lt_of_born (h : Born (deeds us) s t) : s < t := by
  obtain ⟨j, hj, rfl⟩ := h
  exact of_decide_eq_true (isOf_of_mem_deeds hj)

theorem le_of_descends (h : Descends (deeds us) s t) : s ≤ t := by
  induction h with
  | refl => exact Nat.le_refl s
  | tail _ hrt ih => exact Nat.le_trans ih (Nat.le_of_lt (lt_of_born hrt))

/-- A token was taken once: from one token, and then from no coordinator. -/
theorem Follows.eq_of_born {i : Issued} {f : Forest} (h : Follows D i f) (hr : Born D r t) (hs : Born D s t) : r = s := by
  obtain ⟨y, x, hyr, hxt, hp⟩ := h.lineage.born r t hr
  obtain ⟨y', x', hys, hxt', hp'⟩ := h.lineage.born s t hs
  cases hxt.symm.trans hxt'
  cases hp.symm.trans hp'
  exact h.lineage.distinct r s y hyr hys

theorem Follows.not_taken_of_born {i : Issued} {f : Forest} (h : Follows D i f) (hs : Born D s t) : ¬TakenFrom D n t := by
  intro hn
  obtain ⟨y, x, hys, hxt, hp⟩ := h.lineage.born s t hs
  obtain ⟨y', x', hyn, hxt', hp'⟩ := h.lineage.taken n t hn
  cases hxt.symm.trans hxt'
  cases hp.symm.trans hp'
  exact h.handles.ne_token h.lineage hyn hys

/-- Neither its ancestors nor its siblings descend from a token. -/
theorem not_descends (hne : s ≠ t) (h : Descends (deeds us) s t ∨ Siblings (deeds us) s t) :
    ¬Descends (deeds us) t s := by
  intro hts
  have hle := le_of_descends hts
  rcases h with hst | hsib
  · exact hne (Nat.le_antisymm (le_of_descends hst) hle)
  rcases Relation.ReflTransGen.cases_tail hts with same | ⟨r, htr, hrs⟩
  · exact hne same
  rcases hsib with ⟨r', hs, ht⟩ | ⟨m, n, hs, -, -⟩
  · cases (follows_after us).eq_of_born hrs hs
    exact absurd (le_of_descends htr) (Nat.not_le.mpr (lt_of_born ht))
  · exact (follows_after us).not_taken_of_born hrs hs

/-- At every point of whatever is done with coordinators and tokens: a coordinator is triggered, and a wait for that ends, if
    and only if it or one connected to it by cloning was triggered; and a token is cancelled if and only if it was, or one
    that it descends from, or the coordinator from which the first of these was taken, no matter when it was taken.
    Cancelling a token leaves all coordinators as they are, and all tokens that do not descend from it; its ancestors and
    siblings do not. What is triggered or cancelled stays so. -/
theorem reach_of_history (us : List Use) :
    ((Forest.after us).triggered.length = (issued us).coordinators ∧
      (Forest.after us).cancelled.length = (issued us).tokens) ∧
    (∀ n : Nat, (Forest.after us).triggered[n]? = some true ↔ Triggered (deeds us) n) ∧
    (∀ n < (issued us).coordinators, ∀ more,
      (Forest.after us).resolves n more = true ↔ Triggered (deeds (us ++ more)) n) ∧
    (∀ t : Nat, (Forest.after us).cancelled[t]? = some true ↔ Cancelled (deeds us) t) ∧
    (∀ t, (Forest.after (us ++ [.cancel t])).triggered = (Forest.after us).triggered ∧
      ∀ s : Nat, ¬Descends (deeds us) t s →
        (Forest.after (us ++ [.cancel t])).cancelled[s]? = (Forest.after us).cancelled[s]?) ∧
    (∀ s t, s ≠ t → Descends (deeds us) s t ∨ Siblings (deeds us) s t → ¬Descends (deeds us) t s) ∧
    ∀ more : List Use,
      (∀ n : Nat, (Forest.after us).triggered[n]? = some true → (Forest.after (us ++ more)).triggered[n]? = some true) ∧
      ∀ t : Nat, (Forest.after us).cancelled[t]? = some true → (Forest.after (us ++ more)).cancelled[t]? = some true := by
  refine ⟨⟨length_triggered us, length_cancelled us⟩, getElem?_triggered_iff us, fun n hn more => resolves_iff hn more,
    getElem?_cancelled_iff us, fun t => ⟨triggered_after_cancel us t, fun s => cancelled_after_cancel⟩,
    fun s t => not_descends, fun more => ⟨fun n hn => ?_, fun t ht => ?_⟩⟩
  · rw [getElem?_triggered_iff] at hn ⊢
    exact hn.mono (deeds_mono us more)
  · rw [getElem?_cancelled_iff] at ht ⊢
    exact ht.mono (deeds_mono us more)

/-- A clone, a token of either handle, one below the first of them, which is cancelled, and then a late one below it. -/
def household : List Use := [.clone 0, .child 0, .child 1, .grandchild 0, .cancel 0, .grandchild 2]

theorem reach_of_history_household :
    (Forest.after household).cancelled = [true, false, true, true] ∧ Cancelled (deeds household) 3 ∧
      ¬Cancelled (deeds household) 1 ∧ ¬Triggered (deeds household) 1 ∧ Triggered (deeds (household ++ [.trigger 1])) 0 ∧
      (Forest.after (household ++ [.trigger 1])).cancelled[1]? = some true := by
  obtain ⟨-, triggered, resolves, cancelled, -, -, -⟩ := reach_of_history household
  refine ⟨by decide, (cancelled 3).mp (by decide), fun h => ?_, fun h => ?_, ?_, by decide⟩
  · exact absurd ((cancelled 1).mpr h) (by decide)
  · exact absurd ((triggered 1).mpr h) (by decide)
  · exact (resolves 0 (by decide) [.trigger 1]).mp (by decide)

end BatchFetch.Shutdown
