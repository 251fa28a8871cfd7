import BatchFetch.Proofs.RateLimit.History
import Mathlib.Algebra.Order.Field.Rat
import Mathlib.Tactic.Linarith
import Mathlib.Tactic.Ring

/-! # How much a bucket gives away

With exact arithmetic a bucket never holds more than its capacity or less than nothing. What it holds and
what it has given away since some time together is never more than its capacity and what it has gained since
then. So in no window of time it gives away more than its capacity and what it gains in the window. -/

namespace BatchFetch

/-- A point in time in seconds. -/
def Clock.seconds (t : Nat) : Rat := (t : Rat) / 1000000000

theorem Clock.seconds_le {t u : Nat} (h : t ≤ u) : Clock.seconds t ≤ Clock.seconds u := by
  have hrat : (t : Rat) ≤ u := by exact_mod_cast h
  unfold Clock.seconds
  linarith

namespace Bucket

/-! ### Exact refills -/

section Refill
variable {l : Limits} {b : Bucket} {now : Nat}

theorem inSeconds_exact (d : Span) : d.inSeconds .exact = (d.nanos : Rat) / 1000000000 := by
  have h : (1000000000 * (d.nanos / 1000000000) + d.nanos % 1000000000 : Nat) = d.nanos := Nat.div_add_mod ..
  have hrat : (1000000000 : Rat) * (d.nanos / 1000000000 : Nat) + (d.nanos % 1000000000 : Nat) = d.nanos := by
    exact_mod_cast h
  show ((d.nanos / 1000000000 : Nat) : Rat) + mkRat ((d.nanos % 1000000000 : Nat) : Int) 1000000000 = _
  rw [Rat.mkRat_eq_div, ← hrat, Int.cast_natCast]
  ring

theorem inSeconds_nonneg (d : Span) : 0 ≤ d.inSeconds .exact := by
  rw [inSeconds_exact]
  exact div_nonneg (Nat.cast_nonneg _) (by norm_num)

/-- The time between two looks may be cut to the longest span, so it is not always the whole of it. -/
theorem inSeconds_since_le (h : b.updated ≤ now) :
    (Clock.since now b.updated).inSeconds .exact ≤ Clock.seconds now - Clock.seconds b.updated := by
  have hle : (Clock.since now b.updated).nanos + b.updated ≤ now := by
    show min (now - b.updated) _ + b.updated ≤ now
    omega
  have hrat : ((Clock.since now b.updated).nanos : Rat) + b.updated ≤ now := by exact_mod_cast hle
  rw [inSeconds_exact]
  unfold Clock.seconds
  linarith

theorem refill_le_capacity (l : Limits) (now : Nat) (b : Bucket) : (b.refill l now).tokens ≤ l.capacity := by
  unfold refill
  dsimp only
  split
  · assumption
  · exact le_refl _

theorem refill_le (exact : l.round = .exact) (rate : 0 < l.rate) (h : b.updated ≤ now) :
    (b.refill l now).tokens ≤ b.tokens + l.rate * (Clock.seconds now - Clock.seconds b.updated) := by
  have hgain := mul_le_mul_of_nonneg_left (inSeconds_since_le h) rate.le
  have hgained : b.tokens + (Clock.since now b.updated).inSeconds .exact * l.rate ≤
      b.tokens + l.rate * (Clock.seconds now - Clock.seconds b.updated) := by
    linarith
  unfold refill
  simp only [exact, Rounding.exact, id]
  split
  · exact hgained
  · rename_i hcap
    exact (not_le.mp hcap).le.trans hgained

theorem refill_nonneg (exact : l.round = .exact) (rate : 0 < l.rate) (capacity : 0 ≤ l.capacity) (h : 0 ≤ b.tokens) :
    0 ≤ (b.refill l now).tokens := by
  have hgain := mul_nonneg (inSeconds_nonneg (Clock.since now b.updated)) rate.le
  unfold refill
  simp only [exact, Rounding.exact, id]
  split
  · exact add_nonneg h hgain
  · exact capacity

end Refill

/-! ### Windows -/

/-- How many of some points in time are not before another, in seconds. -/
def countFrom (start : Rat) (ts : List Nat) : Nat := ts.countP fun t => start ≤ Clock.seconds t

/-- How many of some points in time lie in a closed window of so many seconds. -/
def countWithin (start length : Rat) (ts : List Nat) : Nat :=
  ts.countP fun t => start ≤ Clock.seconds t ∧ Clock.seconds t ≤ start + length

section Counts
variable {start length : Rat} {ts : List Nat} {t : Nat}

theorem countFrom_concat_of_le (h : start ≤ Clock.seconds t) : countFrom start (ts ++ [t]) = countFrom start ts + 1 := by
  simp [countFrom, h]

theorem countFrom_eq_zero (h : ∀ t ∈ ts, Clock.seconds t < start) : countFrom start ts = 0 := by
  simpa [countFrom] using h

theorem countWithin_le (start length : Rat) (ts : List Nat) : countWithin start length ts ≤ countFrom start ts :=
  List.countP_mono_left fun t _ h => by simp_all

theorem countWithin_concat_of_lt (h : start + length < Clock.seconds t) :
    countWithin start length (ts ++ [t]) = countWithin start length ts := by
  simp [countWithin, h]

end Counts

/-! ### The invariant -/

namespace History
variable {ι : Type} {l : Limits} {h h' : History ι}

/-- What always holds of a bucket in use: the tokens that it holds and those that were taken since some time are
    no more than its capacity and what it has gained since then. -/
structure Inv (l : Limits) (h : History ι) : Prop where
  looked : h.bucket.updated ≤ h.now
  nonneg : 0 ≤ h.bucket.tokens
  le_capacity : h.bucket.tokens ≤ l.capacity
  before : ∀ t ∈ h.taken, t ≤ h.bucket.updated
  since : ∀ start ≤ Clock.seconds h.bucket.updated,
    countFrom start h.taken + h.bucket.tokens ≤ l.capacity + l.rate * (Clock.seconds h.bucket.updated - start)
  within : ∀ start length, 0 ≤ length → (countWithin start length h.taken : Rat) ≤ l.capacity + l.rate * length

theorem inv_start (rate : 0 < l.rate) (capacity : 0 ≤ l.capacity) (now : Nat) :
    Inv l ({ now, bucket := .full l now } : History ι) where
  looked := le_refl _
  nonneg := capacity
  le_capacity := le_refl _
  before t ht := by simp at ht
  since start hstart := by
    have := mul_nonneg rate.le (sub_nonneg.mpr hstart)
    simpa [countFrom, full] using this
  within start length hlength := by
    have := mul_nonneg rate.le hlength
    simpa [countWithin] using add_nonneg capacity this

theorem Inv.alone (inv : Inv l h) (later : h.now ≤ h'.now) (bucket : h'.bucket = h.bucket)
    (taken : h'.taken = h.taken) : Inv l h' where
  looked := by
    rw [bucket]
    exact inv.looked.trans later
  nonneg := bucket ▸ inv.nonneg
  le_capacity := bucket ▸ inv.le_capacity
  before := by
    rw [bucket, taken]
    exact inv.before
  since := by
    rw [bucket, taken]
    exact inv.since
  within := by
    rw [taken]
    exact inv.within

theorem Inv.refilled (exact : l.round = .exact) (rate : 0 < l.rate) (capacity : 0 ≤ l.capacity) (inv : Inv l h)
    (now : h'.now = h.now) (bucket : h'.bucket = h.bucket.refill l h.now) (taken : h'.taken = h.taken) : Inv l h' where
  looked := by
    rw [bucket, now]
    exact le_refl _
  nonneg := bucket ▸ refill_nonneg exact rate capacity inv.nonneg
  le_capacity := bucket ▸ refill_le_capacity ..
  before t ht := by
    rw [bucket]
    exact (inv.before t (taken ▸ ht)).trans inv.looked
  since start hstart := by
    rw [bucket] at hstart ⊢
    rw [taken]
    change start ≤ Clock.seconds h.now at hstart
    show _ ≤ l.capacity + l.rate * (Clock.seconds h.now - start)
    by_cases hold : start ≤ Clock.seconds h.bucket.updated
    · have hsince := inv.since start hold
      have hrefill := refill_le exact rate inv.looked
      linarith
    · -- Nothing was taken since then, and the bucket is at most full.
      have hnone : countFrom start h.taken = 0 := countFrom_eq_zero fun t ht =>
        (Clock.seconds_le (inv.before t ht)).trans_lt (not_le.mp hold)
      have hfull := refill_le_capacity l h.now h.bucket
      have hgain := mul_nonneg rate.le (sub_nonneg.mpr hstart)
      rw [hnone, Nat.cast_zero]
      linarith
  within := by
    rw [taken]
    exact inv.within

/-- Taking a token out of a bucket that was just refilled. -/
theorem Inv.take (rate : 0 < l.rate) (inv : Inv l h) (looked : h.bucket.updated = h.now) (enough : 1 ≤ h.bucket.tokens)
    (now : h'.now = h.now) (bucket : h'.bucket = { tokens := h.bucket.tokens - 1, updated := h.now })
    (taken : h'.taken = h.taken ++ [h.now]) : Inv l h' := by
  have since : ∀ start ≤ Clock.seconds h.now, (countFrom start (h.taken ++ [h.now]) : Rat) + (h.bucket.tokens - 1) ≤
      l.capacity + l.rate * (Clock.seconds h.now - start) := fun start hstart => by
    have hsince := inv.since start (looked ▸ hstart)
    rw [looked] at hsince
    rw [countFrom_concat_of_le hstart]
    push_cast
    linarith
  refine ⟨?_, ?_, ?_, fun t ht => ?_, fun start hstart => ?_, fun start length hlength => ?_⟩
  · rw [bucket, now]
  · rw [bucket]
    exact sub_nonneg.mpr enough
  · rw [bucket]
    have := inv.le_capacity
    show h.bucket.tokens - 1 ≤ l.capacity
    linarith
  · rw [bucket]
    rw [taken, List.mem_append, List.mem_singleton] at ht
    rcases ht with ht | rfl
    · exact (inv.before t ht).trans inv.looked
    · exact le_refl _
  · rw [bucket] at hstart ⊢
    rw [taken]
    exact since start hstart
  · rw [taken]
    by_cases hend : start + length < Clock.seconds h.now
    · rw [countWithin_concat_of_lt hend]
      exact inv.within start length hlength
    · -- All that was taken since the window began lies in it.
      have hgain := mul_nonneg rate.le hlength
      by_cases hbegin : start ≤ Clock.seconds h.now
      · have hcount : (countWithin start length (h.taken ++ [h.now]) : Rat) ≤ countFrom start (h.taken ++ [h.now]) := by
          exact_mod_cast countWithin_le ..
        have hwindow := mul_le_mul_of_nonneg_left (show Clock.seconds h.now - start ≤ length by linarith) rate.le
        have hsince := since start hbegin
        linarith
      · have hnone : countFrom start (h.taken ++ [h.now]) = 0 := countFrom_eq_zero fun t ht => by
          rw [List.mem_append, List.mem_singleton] at ht
          rcases ht with ht | rfl
          · exact (Clock.seconds_le ((inv.before t ht).trans inv.looked)).trans_lt (not_le.mp hbegin)
          · exact not_le.mp hbegin
        have hcount : countWithin start length (h.taken ++ [h.now]) = 0 :=
          Nat.eq_zero_of_le_zero (hnone ▸ countWithin_le ..)
        have hcapacity := inv.nonneg.trans inv.le_capacity
        rw [hcount, Nat.cast_zero]
        linarith

theorem Inv.served (exact : l.round = .exact) (rate : 0 < l.rate) (capacity : 0 ≤ l.capacity) (inv : Inv l h)
    (served : Served l h h') : Inv l h' := by
  cases served with
  | alone later bucket taken => exact inv.alone later bucket taken
  | refilled now bucket taken => exact inv.refilled exact rate capacity now bucket taken
  | granted now enough bucket taken =>
    have full : Inv l { h with bucket := h.bucket.refill l h.now } := inv.refilled exact rate capacity rfl rfl rfl
    rw [exact] at bucket
    exact full.take rate rfl enough now bucket taken

theorem Reachable.inv [DecidableEq ι] (exact : l.round = .exact) (rate : 0 < l.rate) (capacity : 0 ≤ l.capacity)
    (reach : Reachable l h) : Inv l h := by
  induction reach with
  | start now => exact inv_start rate capacity now
  | step _ hs ih => exact ih.served exact rate capacity hs.served

/-! ### The bounds -/

/-- A bucket in use, with exact arithmetic, never holds less than nothing or more than its capacity; each step takes
    exactly one token out of the refilled bucket, or none; and in every closed window of time the tokens that
    were taken are at most as many as the capacity and what is gained in a time of that length. -/
theorem taken_within_window [DecidableEq ι] (exact : l.round = .exact) (rate : 0 < l.rate) (capacity : 0 ≤ l.capacity)
    (reach : Reachable l h) :
    (0 ≤ h.bucket.tokens ∧ h.bucket.tokens ≤ l.capacity) ∧
    (∀ h', Step l h h' →
      h'.taken = h.taken ++ [h.now] ∧ 1 ≤ (h.bucket.refill l h.now).tokens ∧
        h'.bucket.tokens = (h.bucket.refill l h.now).tokens - 1 ∨
      h'.taken = h.taken ∧ (h'.bucket = h.bucket ∨ h'.bucket = h.bucket.refill l h.now)) ∧
    ∀ start length : Rat, 0 ≤ length →
      (h.taken.countP (fun t => start ≤ Clock.seconds t ∧ Clock.seconds t ≤ start + length) : Rat) ≤
        l.capacity + l.rate * length := by
  have inv := reach.inv exact rate capacity
  refine ⟨⟨inv.nonneg, inv.le_capacity⟩, fun h' hs => ?_, inv.within⟩
  cases hs.served with
  | alone _ bucket taken => exact .inr ⟨taken, .inl bucket⟩
  | refilled _ bucket taken => exact .inr ⟨taken, .inr bucket⟩
  | granted _ enough bucket taken =>
    refine .inl ⟨taken, enough, ?_⟩
    rw [bucket, exact]
    rfl

/-- Two tokens at most, and four more in a second. -/
def sampleLimits : Limits := { round := .exact, capacity := 2, rate := 4 }

/-- A caller takes a token, one who came to wait takes the other, and one who comes too late has to wait for a
    quarter of a second. -/
def sampleUse : History Nat :=
  let h : History Nat := ({ now := 0, bucket := .full sampleLimits 0 } : History Nat).look sampleLimits
  let h : History Nat := { h with waiting := Function.update h.waiting 0 (some 0) }.poll sampleLimits 0
  let h : History Nat := { h with waiting := Function.update h.waiting 1 (some 0) }.poll sampleLimits 1
  { h with now := 250000000 }.poll sampleLimits 1

theorem reachable_sampleUse : Reachable sampleLimits sampleUse :=
  (((((((Reachable.start 0).step .tryTake).step (.come 0 rfl)).step (.poll 0 0 rfl (Nat.le_refl 0))).step
    (.come 1 rfl)).step (.poll 1 0 rfl (Nat.le_refl 0))).step (.wait 250000000 (by decide))).step
    (.poll 1 250000000 (by decide +kernel) (Nat.le_refl _))

/-- The three tokens that were taken in the first quarter of a second are as many as there can be. -/
theorem taken_within_window_sample :
    Reachable sampleLimits sampleUse ∧ sampleUse.taken = [0, 0, 250000000] ∧
      (sampleUse.taken.countP (fun t => (0 : Rat) ≤ Clock.seconds t ∧ Clock.seconds t ≤ 0 + 1 / 4) : Rat) ≤
        2 + 4 * (1 / 4) := by
  obtain ⟨-, -, window⟩ :=
    taken_within_window (l := sampleLimits) rfl (by decide +kernel) (by decide +kernel) reachable_sampleUse
  exact ⟨reachable_sampleUse, by decide +kernel, window 0 (1 / 4) (by norm_num)⟩

end History

end Bucket

end BatchFetch
