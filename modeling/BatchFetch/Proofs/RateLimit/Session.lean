import BatchFetch.Proofs.RateLimit.Window
import BatchFetch.RateLimit.Session
import Mathlib.Data.List.Forall2

/-! # Sessions have histories

A line of callers who wait, and a session in which one use of a bucket follows another, are buckets in use: each
look of a line is a step of a history, and cancelling the line cancels all who wait in it. So what is true
of every bucket in use is true in every session. -/

namespace BatchFetch.Bucket

/-! ### Lists side by side -/

/-- What is found in the second of two lists that stand side by side has a partner in the first, and the rest
    still stand side by side without the two. -/
theorem forall₂_erase {α : Type} {β : Type} [DecidableEq β] {R : α → β → Prop} {xs : List α} {ys : List β} {y : β}
    (h : List.Forall₂ R xs ys) (hy : y ∈ ys) :
    ∃ x xs', R x y ∧ xs.Perm (x :: xs') ∧ List.Forall₂ R xs' (ys.erase y) := by
  induction h with
  | nil => simp at hy
  | @cons x z xs zs hR hrest ih =>
    by_cases hz : z = y
    · subst hz
      exact ⟨x, xs, hR, .refl _, by simpa using hrest⟩
    · obtain ⟨x', xs', hR', hperm, hrest'⟩ := ih ((List.mem_cons.mp hy).resolve_left (Ne.symm hz))
      refine ⟨x', x :: xs', hR', (hperm.cons x).trans (.swap ..), ?_⟩
      rw [List.erase_cons_tail (by simpa using hz)]
      exact .cons hR hrest'

/-! ### Lines -/

/-- A history goes along with a line: its callers wait for the times in the line, nobody else waits, and those who
    were let through are the latest who took a token. -/
structure Goes (q : Line) (h : History Nat) (callers : List Nat) (earlier : List Nat) : Prop where
  now : h.now = q.now
  bucket : h.bucket = q.bucket
  timers : List.Forall₂ (fun i t => h.waiting i = some t) callers q.waiting
  distinct : callers.Nodup
  others : ∀ i ∉ callers, h.waiting i = none
  later : ∀ t ∈ q.waiting, q.now ≤ t
  taken : h.taken = earlier ++ q.admitted

section Lines
variable {l : Limits} {q : Line} {h : History Nat} {callers earlier : List Nat} {t : Nat}

theorem forall₂_update {xs ts : List Nat} {i : Nat} {wake : Option Nat} (hi : i ∉ xs)
    (hw : List.Forall₂ (fun i t => h.waiting i = some t) xs ts) :
    List.Forall₂ (fun j t => Function.update h.waiting i wake j = some t) xs ts := by
  induction hw with
  | nil => exact .nil
  | cons hR _ ih =>
    rw [List.mem_cons, not_or] at hi
    exact .cons (by rwa [Function.update_of_ne (Ne.symm hi.1)]) (ih hi.2)

/-- The caller whose turn it is looks at the bucket. -/
theorem Goes.look (reach : History.Reachable l h) (g : Goes q h callers earlier) (hnext : q.next? = some t) :
    ∃ h' callers', History.Reachable l h' ∧ Goes (q.look l t) h' callers' earlier := by
  obtain ⟨hmem, hleast⟩ := List.min?_eq_some_iff.mp hnext
  obtain ⟨i, others, hi, hperm, hothers⟩ := forall₂_erase g.timers hmem
  have hdistinct : i ∉ others ∧ others.Nodup := List.nodup_cons.mp (hperm.nodup_iff.mp g.distinct)
  have hnow : h.now ≤ t := g.now ▸ g.later t hmem
  -- Time goes on until the timer fires.
  let h₁ : History Nat := { h with now := t }
  have reach₁ : History.Reachable l (h₁.poll l i) :=
    (reach.step (.wait t hnow)).step (.poll (h := h₁) i t hi (Nat.le_refl t))
  have hrest : ∀ w ∈ q.waiting.erase t, t ≤ w := fun w hw => hleast w (List.mem_of_mem_erase hw)
  have hnone : ∀ wake, ∀ j ∉ others ++ wake, j ≠ i → h.waiting j = none := fun wake j hj hji => by
    refine g.others j fun hmem => ?_
    rcases List.mem_cons.mp (hperm.mem_iff.mp hmem) with rfl | hmem
    · exact hji rfl
    · exact hj (List.mem_append_left _ hmem)
  have hbucket : h₁.bucket = q.bucket := g.bucket
  unfold Line.look
  dsimp only
  split
  · rename_i b htake
    refine ⟨h₁.poll l i, others, reach₁, ?_⟩
    have hpoll : h₁.poll l i =
        { now := t, bucket := b, waiting := Function.update h.waiting i none, taken := h.taken ++ [t] } := by
      unfold History.poll History.look
      rw [hbucket, htake]
      rfl
    rw [hpoll]
    refine ⟨rfl, rfl, forall₂_update hdistinct.1 hothers, hdistinct.2, fun j hj => ?_, hrest, ?_⟩
    · show Function.update h.waiting i none j = none
      by_cases hji : j = i
      · rw [hji, Function.update_self]
      · rw [Function.update_of_ne hji]
        exact hnone [] j (by simpa using hj) hji
    · show h.taken ++ [t] = earlier ++ (q.admitted ++ [t])
      rw [g.taken, List.append_assoc]
  · rename_i d b htake
    refine ⟨h₁.poll l i, others ++ [i], reach₁, ?_⟩
    have hpoll : h₁.poll l i =
        { now := t, bucket := b, waiting := Function.update h.waiting i (some (Clock.timer t d)), taken := h.taken } := by
      unfold History.poll History.look
      rw [hbucket, htake]
      rfl
    rw [hpoll]
    refine ⟨rfl, rfl, ?_, ?_, fun j hj => ?_, fun w hw => ?_, g.taken⟩
    · refine List.rel_append (forall₂_update hdistinct.1 hothers) (.cons ?_ .nil)
      exact Function.update_self ..
    · exact List.nodup_append.mpr ⟨hdistinct.2, by simp, by
        intro a ha b hb
        rw [List.mem_singleton.mp hb]
        rintro rfl
        exact hdistinct.1 ha⟩
    · have hji : j ≠ i := fun h => hj (by simp [h])
      show Function.update h.waiting i _ j = none
      rw [Function.update_of_ne hji]
      exact hnone [i] j hj hji
    · rcases List.mem_append.mp hw with hw | hw
      · exact hrest w hw
      · rw [List.mem_singleton.mp hw]
        exact Clock.le_timer t d

theorem Goes.run (cancelAt : Option Nat) (n : Nat) (reach : History.Reachable l h) (g : Goes q h callers earlier) :
    ∃ h' callers', History.Reachable l h' ∧ Goes (q.run l cancelAt n) h' callers' earlier := by
  induction n generalizing q h callers with
  | zero => exact ⟨h, callers, reach, g⟩
  | succ n ih =>
    have looks : ∀ t, q.next? = some t →
        ∃ h' callers', History.Reachable l h' ∧ Goes ((q.look l t).run l cancelAt n) h' callers' earlier := fun t hnext => by
      obtain ⟨h', callers', reach', g'⟩ := g.look reach hnext
      exact ih reach' g'
    unfold Line.run
    split
    · exact ⟨h, callers, reach, g⟩
    · rename_i t hnext
      split
      · rename_i c
        split
        · rename_i hc
          refine ⟨{ h with now := max q.now c }, callers, reach.step (.wait _ ?_), ?_⟩
          · rw [g.now]
            exact Nat.le_max_left ..
          · obtain ⟨-, hleast⟩ := List.min?_eq_some_iff.mp hnext
            refine ⟨rfl, g.bucket, g.timers, g.distinct, g.others, fun w hw => ?_, g.taken⟩
            exact Nat.max_le.mpr ⟨g.later w hw, hc.trans (hleast w hw)⟩
        · exact looks t hnext
      · exact looks t hnext

/-- Callers who come together. -/
theorem exists_goes_arrive (reach : History.Reachable l h) (idle : ∀ i, h.waiting i = none) (n : Nat) :
    ∃ h', History.Reachable l h' ∧ Goes (.arrive h.now h.bucket n) h' (List.range n) h.taken := by
  induction n with
  | zero => exact ⟨h, reach, rfl, rfl, .nil, by simp, fun i _ => idle i, by simp [Line.arrive], (List.append_nil _).symm⟩
  | succ n ih =>
    obtain ⟨h', reach', g⟩ := ih
    have hnew : h'.waiting n = none := g.others n (by simp)
    have hnow : h'.now = h.now := g.now
    refine ⟨_, reach'.step (.come n hnew), ?_⟩
    rw [List.range_succ]
    refine ⟨g.now, g.bucket, ?_, ?_, fun j hj => ?_, fun t ht => ?_, g.taken⟩
    · show List.Forall₂ _ _ (List.replicate (n + 1) h.now)
      rw [List.replicate_succ']
      refine List.rel_append (forall₂_update (by simp) g.timers) (.cons ?_ .nil)
      rw [hnow]
      exact Function.update_self ..
    · rw [← List.range_succ]
      exact List.nodup_range
    · have hj' : j ∉ List.range n ∧ j ≠ n := by simpa [not_or] using hj
      show Function.update h'.waiting n _ j = none
      rw [Function.update_of_ne hj'.2]
      exact g.others j hj'.1
    · have : t = h.now := (List.mem_replicate.mp ht).2
      exact this ▸ Nat.le_refl _

/-- All who wait are cancelled. -/
theorem exists_idle (reach : History.Reachable l h) (others : ∀ i ∉ callers, h.waiting i = none) :
    ∃ h' : History Nat, History.Reachable l h' ∧ h'.now = h.now ∧ h'.bucket = h.bucket ∧ h'.taken = h.taken ∧
      ∀ i, h'.waiting i = none := by
  induction callers generalizing h with
  | nil => exact ⟨h, reach, rfl, rfl, rfl, fun i => others i (by simp)⟩
  | cons i callers ih =>
    have others' : ∀ j ∉ callers, Function.update h.waiting i none j = none := fun j hj => by
      by_cases hji : j = i
      · rw [hji, Function.update_self]
      · rw [Function.update_of_ne hji]
        exact others j (by simp [hj, hji])
    obtain ⟨h', reach', same⟩ := ih (reach.step (.cancel i)) others'
    exact ⟨h', reach', same⟩

end Lines

/-! ### Sessions -/

/-- The session of a new bucket after some uses of it. -/
def Session.after (l : Limits) (us : List Use) : Session := us.foldl (fun s u => (s.step l u).2) (.start l)

/-- A session is a bucket in use at which nobody waits just now. -/
def HasHistory (l : Limits) (s : Session) : Prop :=
  ∃ h : History Nat, History.Reachable l h ∧ h.now = s.now ∧ h.bucket = s.bucket ∧ ∀ i, h.waiting i = none

section Sessions
variable {l : Limits} {s : Session}

theorem HasHistory.settle (hs : HasHistory l s) (cancelAt : Option Nat) (n fuel : Nat) :
    HasHistory l (s.settle ((Line.arrive s.now s.bucket n).run l cancelAt fuel)).2 := by
  obtain ⟨h, reach, now, bucket, idle⟩ := hs
  obtain ⟨h₁, reach₁, g₁⟩ := exists_goes_arrive reach idle n
  rw [now, bucket] at g₁
  obtain ⟨h₂, callers, reach₂, g₂⟩ := g₁.run cancelAt fuel reach₁
  obtain ⟨h₃, reach₃, now₃, bucket₃, -, idle₃⟩ := exists_idle reach₂ g₂.others
  exact ⟨h₃, reach₃, now₃.trans g₂.now, bucket₃.trans g₂.bucket, idle₃⟩

theorem HasHistory.step (hs : HasHistory l s) (u : Use) : HasHistory l (s.step l u).2 := by
  cases u with
  | advance d =>
    obtain ⟨h, reach, now, bucket, idle⟩ := hs
    refine ⟨{ h with now := s.now + d.nanos }, reach.step (.wait _ ?_), rfl, bucket, idle⟩
    rw [now]
    exact Nat.le_add_right ..
  | tryTake =>
    obtain ⟨h, reach, now, bucket, idle⟩ := hs
    refine ⟨h.look l, reach.step .tryTake, now, ?_, idle⟩
    show (h.bucket.take l h.now).2 = (s.bucket.take l s.now).2
    rw [now, bucket]
  | available =>
    obtain ⟨h, reach, now, bucket, idle⟩ := hs
    refine ⟨_, reach.step .available, now, ?_, idle⟩
    show (h.bucket.available l h.now).2 = (s.bucket.available l s.now).2
    rw [now, bucket]
  | acquire cancelMs =>
    have := hs.settle (cancelMs.map fun ms => Clock.due s.now (Span.ofNanos (ms * 1000000))) 1 (Line.looks 1)
    unfold Session.step
    dsimp only
    split <;> rename_i heq <;> rw [heq] at this <;> exact this
  | acquireMany n => exact hs.settle none n (Line.looks n)

/-- Every session of a new bucket has a history. -/
theorem hasHistory_after (l : Limits) (us : List Use) : HasHistory l (.after l us) := by
  have start : HasHistory l (.start l) := ⟨_, .start 0, rfl, rfl, fun _ => rfl⟩
  unfold Session.after
  generalize Session.start l = s at start
  induction us generalizing s with
  | nil => exact start
  | cons u us ih => exact ih _ (start.step u)

/-- In every session with exact arithmetic a bucket holds no less than nothing and no more than its capacity. -/
theorem tokens_after (exact : l.round = .exact) (rate : 0 < l.rate) (capacity : 0 ≤ l.capacity) (us : List Use) :
    0 ≤ (Session.after l us).bucket.tokens ∧ (Session.after l us).bucket.tokens ≤ l.capacity := by
  obtain ⟨h, reach, -, bucket, -⟩ := hasHistory_after l us
  have inv := reach.inv exact rate capacity
  rw [← bucket]
  exact ⟨inv.nonneg, inv.le_capacity⟩

end Sessions

end BatchFetch.Bucket
