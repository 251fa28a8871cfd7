import BatchFetch.Proofs.Shutdown.Deeds
import BatchFetch.Proofs.Shutdown.Marks

/-! # Places

A forest follows what was done to it (`Follows`): connected coordinators share a root, each token has a place of its own
below that of what it was taken from, and what is marked is below a place where a coordinator was triggered or a token
cancelled. Each use keeps this, so what is marked at the places of a forest is what was triggered and cancelled. -/

namespace BatchFetch.Shutdown

variable {D E : Deeds} {i : Issued} {f f' : Forest} {u : Use} {m n s t x y z : Nat}

/-! ### Coordinators, tokens and marks -/

/-- A forest that has at least what another one has, at the same places and below the same. -/
structure Grows (f f' : Forest) : Prop where
  coordinator : ∀ n x : Nat, f.coordinators[n]? = some x → f'.coordinators[n]? = some x
  token : ∀ t x : Nat, f.tokens[t]? = some x → f'.tokens[t]? = some x
  parent : ∀ x < f.nodes.length, parentOf f'.nodes x = parentOf f.nodes x
  length : f.nodes.length ≤ f'.nodes.length

/-- The coordinators are at roots, those that are connected and no others at the same. -/
structure Handles (D : Deeds) (f : Forest) : Prop where
  inside : ∀ n x : Nat, f.coordinators[n]? = some x → x < f.nodes.length
  root : ∀ n x : Nat, f.coordinators[n]? = some x → parentOf f.nodes x = none
  cloned : ∀ m n, Cloned D m n → ∃ x : Nat, f.coordinators[m]? = some x ∧ f.coordinators[n]? = some x
  connected : ∀ m n x : Nat, f.coordinators[m]? = some x → f.coordinators[n]? = some x → Connected D m n

/-- Each token is at a place of its own, below the place of what it was taken from. -/
structure Lineage (D : Deeds) (f : Forest) : Prop where
  distinct : ∀ s t x : Nat, f.tokens[s]? = some x → f.tokens[t]? = some x → s = t
  taken : ∀ n t, TakenFrom D n t →
    ∃ y x : Nat, f.coordinators[n]? = some y ∧ f.tokens[t]? = some x ∧ parentOf f.nodes x = some y
  born : ∀ s t, Born D s t → ∃ y x : Nat, f.tokens[s]? = some y ∧ f.tokens[t]? = some x ∧ parentOf f.nodes x = some y
  origin : ∀ t x : Nat, f.tokens[t]? = some x → (∃ n, TakenFrom D n t) ∨ ∃ s, Born D s t

/-- A use takes a token from what is at place `x`. -/
def Takes (f : Forest) : Use → Nat → Prop
  | .child n, x => f.coordinators[n]? = some x
  | .grandchild t, x => f.tokens[t]? = some x
  | _, _ => False

/-- A use triggers or cancels what is at place `x`. -/
def Strikes (f : Forest) : Use → Nat → Prop
  | .trigger n, x => f.coordinators[n]? = some x
  | .cancel t, x => f.tokens[t]? = some x
  | _, _ => False

/-- The places where a coordinator was triggered or a token cancelled. -/
def struck (D : Deeds) (f : Forest) : Set Nat := {x | ∃ d ∈ D, Strikes f d.1 x}

/-- A forest is as it was made by what was done. -/
structure Follows (D : Deeds) (i : Issued) (f : Forest) : Prop where
  coordinators : f.coordinators.length = i.coordinators
  tokens : f.tokens.length = i.tokens
  known : ∀ d ∈ D, d.1.isOf i = true
  handles : Handles D f
  lineage : Lineage D f
  marks : Marked (struck D f) f.nodes

theorem mem_struck : x ∈ struck D f ↔
    (∃ n i, (.trigger n, i) ∈ D ∧ f.coordinators[n]? = some x) ∨ ∃ t i, (.cancel t, i) ∈ D ∧ f.tokens[t]? = some x := by
  constructor
  · rintro ⟨⟨v, j⟩, hj, hv⟩
    cases v with
    | trigger n => exact .inl ⟨n, j, hj, hv⟩
    | cancel t => exact .inr ⟨t, j, hj, hv⟩
    | coordinator | clone | child | grandchild => exact hv.elim
  · rintro (⟨n, j, hj, hn⟩ | ⟨t, j, hj, ht⟩)
    · exact ⟨_, hj, hn⟩
    · exact ⟨_, hj, ht⟩

theorem Strikes.eq (hx : Strikes f u x) (hy : Strikes f u y) : x = y := by
  cases u with
  | trigger n | cancel t => exact Option.some.inj (hx.symm.trans hy)
  | coordinator | clone | child | grandchild => exact hx.elim

theorem mem_struck_insert : z ∈ struck (insert (u, i) D) f ↔ Strikes f u z ∨ z ∈ struck D f := by
  constructor
  · rintro ⟨d, rfl | hd, hz⟩
    · exact .inl hz
    · exact .inr ⟨d, hd, hz⟩
  · rintro (hz | ⟨d, hd, hz⟩)
    · exact ⟨_, Set.mem_insert _ D, hz⟩
    · exact ⟨d, Set.mem_insert_of_mem _ hd, hz⟩

theorem struck_insert_of_strikes (hx : Strikes f u x) : struck (insert (u, i) D) f = insert x (struck D f) := by
  ext z
  rw [mem_struck_insert, Set.mem_insert_iff]
  exact or_congr_left ⟨fun hz => hz.eq hx, fun same => same ▸ hx⟩

theorem struck_insert_of_not (h : ∀ z, ¬Strikes f u z) : struck (insert (u, i) D) f = struck D f := by
  ext z
  rw [mem_struck_insert, or_iff_right (h z)]

/-- A token is never at a root. -/
theorem Lineage.exists_parent (h : Lineage D f) (hx : f.tokens[t]? = some x) : ∃ y, parentOf f.nodes x = some y := by
  rcases h.origin t x hx with ⟨n, hn⟩ | ⟨s, hs⟩
  · obtain ⟨y, x', -, hx', hp⟩ := h.taken n t hn
    cases hx.symm.trans hx'
    exact ⟨y, hp⟩
  · obtain ⟨y, x', -, hx', hp⟩ := h.born s t hs
    cases hx.symm.trans hx'
    exact ⟨y, hp⟩

theorem Lineage.inside (h : Lineage D f) (hx : f.tokens[t]? = some x) : x < f.nodes.length := by
  obtain ⟨y, hp⟩ := h.exists_parent hx
  exact lt_of_parentOf hp

/-- No place is that of a coordinator and of a token. -/
theorem Handles.ne_token (handles : Handles D f) (lineage : Lineage D f) (hn : f.coordinators[n]? = some z)
    (ht : f.tokens[t]? = some z) : False := by
  obtain ⟨y, hp⟩ := lineage.exists_parent ht
  rw [handles.root n z hn] at hp
  cases hp

/-! ### Who is below whom -/

/-- Connected coordinators share their place. -/
theorem Handles.coordinators_eq (h : Handles D f) (hc : Connected D m n) : f.coordinators[m]? = f.coordinators[n]? := by
  induction hc with
  | rel m n hmn =>
    obtain ⟨x, hm, hn⟩ := h.cloned m n hmn
    rw [hm, hn]
  | refl => rfl
  | symm _ _ _ ih => exact ih.symm
  | trans _ _ _ _ _ ih₁ ih₂ => exact ih₁.trans ih₂

theorem Lineage.under_of_descends (h : Lineage D f) (hd : Descends D s t) :
    ∀ {x}, f.tokens[t]? = some x → ∃ y, f.tokens[s]? = some y ∧ Under f.nodes y x := by
  induction hd with
  | refl => exact fun {x} hx => ⟨x, hx, .refl⟩
  | @tail r t _ hrt ih =>
    intro x hx
    obtain ⟨w, x', hr, hx', hp⟩ := h.born r t hrt
    cases hx.symm.trans hx'
    obtain ⟨y, hs, hyw⟩ := ih hr
    exact ⟨y, hs, hyw.tail hp⟩

/-- What a token is below is the place of one that it descends from, or of the coordinator from which one of those was
    taken. -/
theorem Lineage.of_under (h : Lineage D f) (handles : Handles D f) (hzx : Under f.nodes z x) :
    ∀ {t}, f.tokens[t]? = some x → ∃ s, Descends D s t ∧
      (f.tokens[s]? = some z ∨ ∃ n, TakenFrom D n s ∧ f.coordinators[n]? = some z) := by
  induction hzx with
  | refl => exact fun {t} ht => ⟨t, .refl, .inl ht⟩
  | @tail w x hzw hwx ih =>
    intro t ht
    rcases h.origin t x ht with ⟨n, hn⟩ | ⟨r, hr⟩
    · obtain ⟨y, x', hy, hx', hp⟩ := h.taken n t hn
      cases ht.symm.trans hx'
      cases hwx.symm.trans hp
      cases Under.eq_of_root hzw (handles.root n w hy)
      exact ⟨t, .refl, .inr ⟨n, hn, hy⟩⟩
    · obtain ⟨y, x', hy, hx', hp⟩ := h.born r t hr
      cases ht.symm.trans hx'
      cases hwx.symm.trans hp
      obtain ⟨s, hs, hz⟩ := ih hy
      exact ⟨s, hs.tail hr, hz⟩

/-! ### What is triggered and what is cancelled -/

namespace Follows

/-- A coordinator is triggered if it or a connected one was. -/
theorem triggered_iff (h : Follows D i f) (hx : f.coordinators[n]? = some x) :
    f.isCancelled x = true ↔ Triggered D n := by
  show marked f.nodes x = true ↔ _
  rw [h.marks.marked_iff x (h.handles.inside n x hx)]
  constructor
  · rintro ⟨z, hz, hzx⟩
    cases Under.eq_of_root hzx (h.handles.root n x hx)
    rcases mem_struck.mp hz with ⟨m, j, hj, hm⟩ | ⟨t, j, hj, ht⟩
    · exact ⟨m, h.handles.connected m n x hm hx, j, hj⟩
    · exact (h.handles.ne_token h.lineage hx ht).elim
  · rintro ⟨m, hmn, j, hj⟩
    exact ⟨x, ⟨_, hj, (h.handles.coordinators_eq hmn).trans hx⟩, .refl⟩

/-- A token is cancelled if it was, or one that it descends from, or the coordinator that these come from. -/
theorem cancelled_iff (h : Follows D i f) (hx : f.tokens[t]? = some x) : f.isCancelled x = true ↔ Cancelled D t := by
  show marked f.nodes x = true ↔ _
  rw [h.marks.marked_iff x (h.lineage.inside hx)]
  constructor
  · rintro ⟨z, hz, hzx⟩
    obtain ⟨s, hst, hs | ⟨n, hn, hnz⟩⟩ := h.lineage.of_under h.handles hzx hx
    · rcases mem_struck.mp hz with ⟨m, j, hj, hm⟩ | ⟨t', j, hj, ht'⟩
      · exact (h.handles.ne_token h.lineage hm hs).elim
      · cases h.lineage.distinct t' s z ht' hs
        exact ⟨s, hst, .inl ⟨j, hj⟩⟩
    · rcases mem_struck.mp hz with ⟨m, j, hj, hm⟩ | ⟨t', j, hj, ht'⟩
      · exact ⟨s, hst, .inr ⟨n, hn, m, h.handles.connected m n z hm hnz, j, hj⟩⟩
      · exact (h.handles.ne_token h.lineage hnz ht').elim
  · rintro ⟨s, hst, hcause⟩
    obtain ⟨y, hs, hyx⟩ := h.lineage.under_of_descends hst hx
    rcases hcause with ⟨j, hj⟩ | ⟨n, hn, m, hmn, j, hj⟩
    · exact ⟨y, ⟨_, hj, hs⟩, hyx⟩
    · obtain ⟨z, y', hz, hy', hp⟩ := h.lineage.taken n s hn
      cases hs.symm.trans hy'
      exact ⟨z, ⟨_, hj, (h.handles.coordinators_eq hmn).trans hz⟩, .head hp hyx⟩

end Follows

/-! ### What a use keeps -/

theorem getElem?_concat_iff {l : List Nat} {a b k : Nat} :
    (l ++ [a])[k]? = some b ↔ l[k]? = some b ∨ k = l.length ∧ a = b := by
  rcases Nat.lt_trichotomy k l.length with hk | rfl | hk
  · rw [List.getElem?_append_left hk, or_iff_left fun h => Nat.ne_of_lt hk h.1]
  · simp
  · have hlate : l.length + 1 ≤ k := hk
    simp [List.getElem?_eq_none (Nat.le_of_lt hk), List.getElem?_eq_none (l := l ++ [a]) (by simpa using hlate),
      Nat.ne_of_gt hk]

theorem Handles.grow (h : Handles D f) (grows : Grows f f') (same : f'.coordinators = f.coordinators)
    (hcloned : ∀ m n, Cloned E m n ↔ Cloned D m n) : Handles E f' where
  inside n x hn := Nat.lt_of_lt_of_le (h.inside n x (same ▸ hn)) grows.length
  root n x hn := (grows.parent x (h.inside n x (same ▸ hn))).trans (h.root n x (same ▸ hn))
  cloned m n hmn := by
    rw [same]
    exact h.cloned m n ((hcloned m n).mp hmn)
  connected m n x hm hn := by
    rw [same] at hm hn
    exact Relation.EqvGen.mono (fun m n => (hcloned m n).mpr) m n (h.connected m n x hm hn)

/-- One more coordinator at a root: a new one, or one that is cloned from what is there. -/
theorem Handles.concat (h : Handles D f) (grows : Grows f f') (added : f'.coordinators = f.coordinators ++ [x])
    (inside : x < f'.nodes.length) (root : parentOf f'.nodes x = none) (sub : D ⊆ E)
    (hcloned : ∀ m n, Cloned E m n → Cloned D m n ∨ n = f.coordinators.length ∧ f.coordinators[m]? = some x)
    (hplace : ∀ m, f.coordinators[m]? = some x → Connected E m f.coordinators.length) : Handles E f' where
  inside n y hn := by
    rw [added, getElem?_concat_iff] at hn
    rcases hn with hn | ⟨-, rfl⟩
    · exact Nat.lt_of_lt_of_le (h.inside n y hn) grows.length
    · exact inside
  root n y hn := by
    rw [added, getElem?_concat_iff] at hn
    rcases hn with hn | ⟨-, rfl⟩
    · exact (grows.parent y (h.inside n y hn)).trans (h.root n y hn)
    · exact root
  cloned m n hmn := by
    rcases hcloned m n hmn with old | ⟨rfl, hm⟩
    · obtain ⟨y, hm, hn⟩ := h.cloned m n old
      exact ⟨y, grows.coordinator m y hm, grows.coordinator n y hn⟩
    · refine ⟨x, grows.coordinator m x hm, ?_⟩
      rw [added, getElem?_concat_iff]
      exact .inr ⟨rfl, rfl⟩
  connected m n y hm hn := by
    rw [added, getElem?_concat_iff] at hm hn
    rcases hm with hm | ⟨rfl, rfl⟩ <;> rcases hn with hn | ⟨rfl, hxy⟩
    · exact (h.connected m n y hm hn).mono sub
    · exact hplace m (hxy ▸ hm)
    · exact .symm _ _ (hplace n hn)
    · exact .refl _

theorem Lineage.grow (h : Lineage D f) (grows : Grows f f') (same : f'.tokens = f.tokens)
    (htaken : ∀ n t, TakenFrom E n t ↔ TakenFrom D n t) (hborn : ∀ s t, Born E s t ↔ Born D s t) : Lineage E f' where
  distinct s t x hs ht := h.distinct s t x (same ▸ hs) (same ▸ ht)
  taken n t hnt := by
    obtain ⟨y, x, hn, ht, hp⟩ := h.taken n t ((htaken n t).mp hnt)
    exact ⟨y, x, grows.coordinator n y hn, grows.token t x ht, (grows.parent x (lt_of_parentOf hp)).trans hp⟩
  born s t hst := by
    obtain ⟨y, x, hs, ht, hp⟩ := h.born s t ((hborn s t).mp hst)
    exact ⟨y, x, grows.token s y hs, grows.token t x ht, (grows.parent x (lt_of_parentOf hp)).trans hp⟩
  origin t x ht := by
    rcases h.origin t x (same ▸ ht) with ⟨n, hn⟩ | ⟨s, hs⟩
    · exact .inl ⟨n, (htaken n t).mpr hn⟩
    · exact .inr ⟨s, (hborn s t).mpr hs⟩

/-- One more token at a place of its own, below the place of what it is taken from. -/
theorem Lineage.concat (h : Lineage D f) (grows : Grows f f') (added : f'.tokens = f.tokens ++ [x])
    (fresh : ∀ t : Nat, f.tokens[t]? ≠ some x) (parent : parentOf f'.nodes x = some y) (sub : D ⊆ E)
    (htaken : ∀ n t, TakenFrom E n t → TakenFrom D n t ∨ t = f.tokens.length ∧ f.coordinators[n]? = some y)
    (hborn : ∀ s t, Born E s t → Born D s t ∨ t = f.tokens.length ∧ f.tokens[s]? = some y)
    (origin : (∃ n, TakenFrom E n f.tokens.length) ∨ ∃ s, Born E s f.tokens.length) : Lineage E f' where
  distinct s t z hs ht := by
    rw [added, getElem?_concat_iff] at hs ht
    rcases hs with hs | ⟨rfl, rfl⟩ <;> rcases ht with ht | ⟨rfl, hxz⟩
    · exact h.distinct s t z hs ht
    · exact absurd (hxz ▸ hs) (fresh s)
    · exact absurd ht (fresh t)
    · rfl
  taken n t hnt := by
    rcases htaken n t hnt with old | ⟨rfl, hn⟩
    · obtain ⟨w, z, hn, ht, hp⟩ := h.taken n t old
      exact ⟨w, z, grows.coordinator n w hn, grows.token t z ht, (grows.parent z (lt_of_parentOf hp)).trans hp⟩
    · refine ⟨y, x, grows.coordinator n y hn, ?_, parent⟩
      rw [added, getElem?_concat_iff]
      exact .inr ⟨rfl, rfl⟩
  born s t hst := by
    rcases hborn s t hst with old | ⟨rfl, hs⟩
    · obtain ⟨w, z, hs, ht, hp⟩ := h.born s t old
      exact ⟨w, z, grows.token s w hs, grows.token t z ht, (grows.parent z (lt_of_parentOf hp)).trans hp⟩
    · refine ⟨y, x, grows.token s y hs, ?_, parent⟩
      rw [added, getElem?_concat_iff]
      exact .inr ⟨rfl, rfl⟩
  origin t z ht := by
    rw [added, getElem?_concat_iff] at ht
    rcases ht with ht | ⟨rfl, -⟩
    · rcases h.origin t z ht with ⟨n, hn⟩ | ⟨s, hs⟩
      · exact .inl ⟨n, hn.mono sub⟩
      · exact .inr ⟨s, hs.mono sub⟩
    · exact origin

namespace Follows

theorem lt_of_trigger (h : Follows D i f) {j : Issued} (hj : (.trigger n, j) ∈ D) : n < f.coordinators.length := by
  rw [h.coordinators]
  exact of_decide_eq_true (h.known _ hj)

theorem lt_of_cancel (h : Follows D i f) {j : Issued} (hj : (.cancel t, j) ∈ D) : t < f.tokens.length := by
  rw [h.tokens]
  exact of_decide_eq_true (h.known _ hj)

theorem known_insert (h : Follows D i f) (hu : u.isOf i = true) :
    ∀ d ∈ insert (u, i) D, d.1.isOf (i.next u) = true := by
  rintro d (rfl | hd)
  · exact isOf_next hu u
  · exact isOf_next (h.known d hd) u

/-- What was struck stays where it is. -/
theorem struck_grow (h : Follows D i f) (grows : Grows f f') : struck D f' = struck D f := by
  ext z
  rw [mem_struck, mem_struck]
  refine or_congr (exists₂_congr fun n j => and_congr_right fun hj => ?_) (exists₂_congr fun t j => and_congr_right fun hj => ?_)
  · have hplace := List.getElem?_eq_getElem (h.lt_of_trigger hj)
    rw [hplace, grows.coordinator n _ hplace]
  · have hplace := List.getElem?_eq_getElem (h.lt_of_cancel hj)
    rw [hplace, grows.token t _ hplace]

theorem addCoordinator (h : Follows D i f) :
    Follows (insert (.coordinator, i) D) (i.next .coordinator) f.addCoordinator := by
  have grows : Grows f f.addCoordinator :=
    ⟨fun n x hn => getElem?_concat_iff.mpr (.inl hn), fun _ _ ht => ht, fun _ hx => parentOf_concat_of_lt hx,
      List.length_append ▸ Nat.le_succ _⟩
  refine ⟨?_, h.tokens, h.known_insert rfl, ?_, ?_, ?_⟩
  · exact List.length_append.trans (congrArg (· + 1) h.coordinators)
  · refine h.handles.concat grows rfl (by simp [Forest.addCoordinator]) parentOf_concat_length (Set.subset_insert ..)
      (fun m n hmn => .inl ((made_insert_of_ne (by simp)).mp hmn)) fun m hm => ?_
    exact absurd (h.handles.inside m _ hm) (Nat.lt_irrefl _)
  · exact h.lineage.grow grows rfl (fun n t => made_insert_of_ne (by simp)) fun s t => made_insert_of_ne (by simp)
  · rw [struck_insert_of_not (u := .coordinator) fun _ hz => hz, h.struck_grow grows]
    exact h.marks.concat (by simp) rfl

theorem clone (h : Follows D i f) (hx : f.coordinators[n]? = some x) :
    Follows (insert (.clone n, i) D) (i.next (.clone n)) { f with coordinators := f.coordinators ++ [x] } := by
  have grows : Grows f { f with coordinators := f.coordinators ++ [x] } :=
    ⟨fun n x hn => getElem?_concat_iff.mpr (.inl hn), fun _ _ ht => ht, fun _ _ => rfl, Nat.le_refl _⟩
  have hof : (Use.clone n).isOf i = true := by
    have hlt := (List.getElem?_eq_some_iff.mp hx).1
    rw [h.coordinators] at hlt
    exact decide_eq_true hlt
  have new : Cloned (insert (.clone n, i) D) n f.coordinators.length :=
    made_insert.mpr (.inl ⟨rfl, h.coordinators.symm⟩)
  refine ⟨?_, h.tokens, h.known_insert hof, ?_, ?_, ?_⟩
  · exact List.length_append.trans (congrArg (· + 1) h.coordinators)
  · refine h.handles.concat grows rfl (h.handles.inside n x hx) (h.handles.root n x hx) (Set.subset_insert ..)
      (fun m k hmk => ?_) fun m hm => ?_
    · rcases made_insert.mp hmk with ⟨same, hk⟩ | old
      · cases same
        exact .inr ⟨hk.symm.trans h.coordinators.symm, hx⟩
      · exact .inl old
    · exact .trans _ _ _ ((h.handles.connected m n x hm hx).mono (Set.subset_insert ..)) (.rel _ _ new)
  · exact h.lineage.grow grows rfl (fun n t => made_insert_of_ne (by simp)) fun s t => made_insert_of_ne (by simp)
  · rw [struck_insert_of_not (u := .clone n) fun _ hz => hz, h.struck_grow grows]
    exact h.marks

/-- A token is taken from a coordinator or from a token. -/
theorem addToken (h : Follows D i f) (hof : u.isOf i = true) (takes : Takes f u y) :
    Follows (insert (u, i) D) (i.next u) (f.addToken y) := by
  have hy : y < f.nodes.length := by
    cases u with
    | child n => exact h.handles.inside n y takes
    | grandchild t => exact h.lineage.inside takes
    | coordinator | clone | trigger | cancel => exact takes.elim
  have hnext : i.next u = ⟨i.coordinators, i.tokens + 1⟩ := by
    cases u with
    | child | grandchild => rfl
    | coordinator | clone | trigger | cancel => exact takes.elim
  have grows : Grows f (f.addToken y) :=
    ⟨fun _ _ hn => hn, fun t x ht => getElem?_concat_iff.mpr (.inl ht), fun _ hx => parentOf_concat_of_lt hx,
      List.length_append ▸ Nat.le_succ _⟩
  have known := h.known_insert hof
  rw [hnext] at known ⊢
  refine ⟨h.coordinators, List.length_append.trans (congrArg (· + 1) h.tokens), known, ?_, ?_, ?_⟩
  · refine h.handles.grow grows rfl fun m n => made_insert_of_ne ?_
    rintro rfl
    exact takes
  · refine h.lineage.concat grows rfl (fun t ht => Nat.lt_irrefl _ (h.lineage.inside ht)) parentOf_concat_length
      (Set.subset_insert ..) (fun n t hnt => ?_) (fun s t hst => ?_) ?_
    · rcases made_insert.mp hnt with ⟨rfl, ht⟩ | old
      · exact .inr ⟨ht.symm.trans h.tokens.symm, takes⟩
      · exact .inl old
    · rcases made_insert.mp hst with ⟨rfl, ht⟩ | old
      · exact .inr ⟨ht.symm.trans h.tokens.symm, takes⟩
      · exact .inl old
    · cases u with
      | child n => exact .inl ⟨n, made_insert.mpr (.inl ⟨rfl, h.tokens.symm⟩)⟩
      | grandchild s => exact .inr ⟨s, made_insert.mpr (.inl ⟨rfl, h.tokens.symm⟩)⟩
      | coordinator | clone | trigger | cancel => exact takes.elim
  · have spares : ∀ z, ¬Strikes (f.addToken y) u z := fun z hz => by
      cases u with
      | child | grandchild => exact hz
      | coordinator | clone | trigger | cancel => exact takes
    rw [struck_insert_of_not spares, h.struck_grow grows]
    refine h.marks.concat (fun p hp => ?_) rfl
    cases hp
    exact hy

/-- A coordinator is triggered, or a token cancelled. -/
theorem cancelAt (h : Follows D i f) (hof : u.isOf i = true) (strikes : Strikes f u x) :
    Follows (insert (u, i) D) (i.next u) (f.cancelAt x) := by
  have hx : x < f.nodes.length := by
    cases u with
    | trigger n => exact h.handles.inside n x strikes
    | cancel t => exact h.lineage.inside strikes
    | coordinator | clone | child | grandchild => exact strikes.elim
  have hnext : i.next u = i := by
    cases u with
    | trigger | cancel => rfl
    | coordinator | clone | child | grandchild => exact strikes.elim
  have grows : Grows f (f.cancelAt x) :=
    ⟨fun _ _ hn => hn, fun _ _ ht => ht, fun y _ => parentOf_mark x f.nodes y, Nat.le_of_eq (length_mark x f.nodes).symm⟩
  -- nothing is handed out
  have made : ∀ {how : Nat → Use} {count : Issued → Nat}, (∀ a z, ¬Strikes f (how a) z) → ∀ a b,
      (Made (insert (u, i) D) how count a b ↔ Made D how count a b) := fun spares a b =>
    made_insert_of_ne fun same => spares a x (same ▸ strikes)
  have known := h.known_insert hof
  rw [hnext] at known ⊢
  refine ⟨h.coordinators, h.tokens, known, ?_, ?_, ?_⟩
  · exact h.handles.grow grows rfl (made fun _ _ hz => hz)
  · exact h.lineage.grow grows rfl (made fun _ _ hz => hz) (made fun _ _ hz => hz)
  · have stands : struck (insert (u, i) D) (f.cancelAt x) = struck (insert (u, i) D) f := rfl
    rw [stands, struck_insert_of_strikes strikes]
    exact h.marks.mark hx

/-- A use of something that was handed out. -/
theorem step (h : Follows D i f) (hof : u.isOf i = true) : Follows (insert (u, i) D) (i.next u) (f.step u) := by
  have coordinator : ∀ n, n < i.coordinators → ∃ x, f.coordinators[n]? = some x := fun n hn => by
    rw [← h.coordinators] at hn
    exact ⟨_, List.getElem?_eq_getElem hn⟩
  have token : ∀ t, t < i.tokens → ∃ x, f.tokens[t]? = some x := fun t ht => by
    rw [← h.tokens] at ht
    exact ⟨_, List.getElem?_eq_getElem ht⟩
  cases u with
  | coordinator => exact h.addCoordinator
  | clone n =>
    obtain ⟨x, hx⟩ := coordinator n (of_decide_eq_true hof)
    rw [Forest.step, hx]
    exact h.clone hx
  | child n =>
    obtain ⟨x, hx⟩ := coordinator n (of_decide_eq_true hof)
    rw [Forest.step, hx]
    exact h.addToken hof hx
  | grandchild t =>
    obtain ⟨x, hx⟩ := token t (of_decide_eq_true hof)
    rw [Forest.step, hx]
    exact h.addToken hof hx
  | trigger n =>
    obtain ⟨x, hx⟩ := coordinator n (of_decide_eq_true hof)
    rw [Forest.step, hx]
    exact h.cancelAt hof hx
  | cancel t =>
    obtain ⟨x, hx⟩ := token t (of_decide_eq_true hof)
    rw [Forest.step, hx]
    exact h.cancelAt hof hx

/-- A use of something that was not handed out makes no difference. -/
theorem step_of_not_isOf (h : Follows D i f) (hof : u.isOf i = false) : f.step u = f := by
  have coordinator : ∀ n, ¬n < i.coordinators → f.coordinators[n]? = none := fun n hn =>
    List.getElem?_eq_none (h.coordinators ▸ Nat.le_of_not_lt hn)
  have token : ∀ t, ¬t < i.tokens → f.tokens[t]? = none := fun t ht =>
    List.getElem?_eq_none (h.tokens ▸ Nat.le_of_not_lt ht)
  cases u with
  | coordinator => cases hof
  | clone n | child n | trigger n =>
    rw [Forest.step, coordinator n (of_decide_eq_false hof)]
    rfl
  | grandchild t | cancel t =>
    rw [Forest.step, token t (of_decide_eq_false hof)]
    rfl

theorem start : Follows ∅ ⟨1, 0⟩ Forest.start := by
  have only : ∀ n x, Forest.start.coordinators[n]? = some x → n = 0 ∧ x = 0 := by
    rintro (_ | n) x hx
    · exact ⟨rfl, (Option.some.inj hx).symm⟩
    · cases hx
  have nothing : struck ∅ Forest.start = ∅ := by
    refine Set.eq_empty_of_forall_notMem fun z => ?_
    rintro ⟨d, hd, -⟩
    exact hd
  refine ⟨rfl, rfl, fun d hd => hd.elim, ⟨?_, ?_, ?_, ?_⟩, ⟨?_, ?_, ?_, ?_⟩, ?_⟩
  · intro n x hx
    obtain ⟨-, rfl⟩ := only n x hx
    decide
  · intro n x hx
    obtain ⟨-, rfl⟩ := only n x hx
    rfl
  · rintro m n ⟨j, hj, -⟩
    exact hj.elim
  · intro m n x hm hn
    obtain ⟨rfl, -⟩ := only m x hm
    obtain ⟨rfl, -⟩ := only n x hn
    exact .refl _
  · rintro s t x hs -
    cases hs
  · rintro n t ⟨j, hj, -⟩
    exact hj.elim
  · rintro s t ⟨j, hj, -⟩
    exact hj.elim
  · intro t x ht
    cases ht
  · rw [nothing]
    refine ⟨fun x y hxy => ?_, fun z hz => hz.elim, fun y hy => ?_⟩
    · have hy : y < 1 := lt_of_parentOf hxy
      cases Nat.lt_one_iff.mp hy
      cases hxy
    · have hy : y < 1 := hy
      cases Nat.lt_one_iff.mp hy
      exact iff_of_false (by decide) fun ⟨z, hz, _⟩ => hz

end Follows

/-- A forest is as it was made by all that was done with it. -/
theorem follows_after (us : List Use) : Follows (deeds us) (issued us) (Forest.after us) := by
  induction us using List.reverseRecOn with
  | nil =>
    rw [deeds_nil]
    exact Follows.start
  | append_singleton us u ih =>
    have hstep : Forest.after (us ++ [u]) = (Forest.after us).step u := List.foldl_append
    rw [hstep, issued_concat]
    cases hof : u.isOf (issued us) with
    | true =>
      rw [deeds_concat_of_isOf hof]
      exact ih.step hof
    | false =>
      rw [deeds_concat_of_not_isOf hof, ih.step_of_not_isOf hof]
      exact ih

end BatchFetch.Shutdown
