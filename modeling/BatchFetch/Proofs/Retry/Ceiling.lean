import BatchFetch.Proofs.Retry.Growth
import BatchFetch.Proofs.Retry.Jitter

/-! # The longest wait

The wait that a policy computes is cut to its longest one, and jitter is added to what is left of it. So with jitter
a wait can be longer than the longest one, by less than a tenth of it; without jitter it never is. -/

namespace BatchFetch

/-! ### Backoff and jitter -/

namespace Backoff
variable {retry : UInt32} {d : Span} {draw : Nat} {base m : UInt64}

/-- Delays and caps of whole milliseconds stay so. -/
theorem nanos_delay_of_millis (base m : UInt64) (h : retry ≠ 0) :
    (delay retry (Span.ofMillis base) (some (Span.ofMillis m))).nanos =
      min (base.toNat * factor (retry.toNat - 1)) m.toNat * 1000000 := by
  rw [nanos_delay _ _ h, Span.nanos_ofMillis, Nat.mul_right_comm]
  exact Nat.mul_min_mul_right ..

theorem delay_le_cap (retry : UInt32) (base m : UInt64) :
    delay retry (Span.ofMillis base) (some (Span.ofMillis m)) ≤ Span.ofMillis m :=
  delay_le_most retry (Span.ofMillis base) (some (Span.ofMillis m))

/-- A delay that a number of milliseconds can hold has as much room for jitter as a tenth of it. -/
theorem jitterRange_of_le (h : d ≤ Span.ofMillis m) : jitterRange d = d.millis / 10 := by
  have hm := m.toNat_lt
  rw [Span.le_def, Span.nanos_ofMillis] at h
  unfold jitterRange Span.millis
  omega

/-- Jitter lengthens such a delay by the whole milliseconds that are drawn. -/
theorem nanos_withJitter (h : d ≤ Span.ofMillis m) (room : d.millis / 10 ≠ 0) :
    (withJitter draw d).nanos = d.nanos + draw % (d.millis / 10) * 1000000 := by
  have hrange := jitterRange_of_le h
  have hdraw : draw % (d.millis / 10) < d.millis / 10 := Nat.mod_lt _ (Nat.pos_of_ne_zero room)
  have fits : d.nanos + draw % (d.millis / 10) * 1000000 ≤ Span.maxNanos := by
    have hm := m.toNat_lt
    rw [Span.le_def, Span.nanos_ofMillis] at h
    unfold Span.millis at hdraw ⊢
    unfold Span.maxNanos
    omega
  rw [nanos_withJitter_of_room draw (hrange ▸ room), hrange, if_pos fits]

theorem withJitter_of_full (h : d ≤ Span.ofMillis m) (full : d.millis / 10 = 0) : withJitter draw d = d :=
  withJitter_of_empty ((jitterRange_of_le h).trans full)

/-- With the largest draw a delay is as long as jitter can make it. -/
theorem nanos_withJitter_le (draw : Nat) (d : Span) :
    (withJitter draw d).nanos ≤ d.nanos + (d.millis / 10 - 1) * 1000000 := by
  have hrange := ten_mul_jitterRange_le d
  rcases withJitter_cases draw d with same | ⟨hdrawn, hnanos⟩
  · rw [same]
    exact Nat.le_add_right ..
  · rw [hnanos]
    omega

theorem exists_nanos_withJitter_eq (h : d ≤ Span.ofMillis m) :
    ∃ draw, (withJitter draw d).nanos = d.nanos + (d.millis / 10 - 1) * 1000000 := by
  by_cases room : d.millis / 10 = 0
  · refine ⟨0, ?_⟩
    rw [withJitter_of_full h room, room]
    rfl
  · refine ⟨d.millis / 10 - 1, ?_⟩
    rw [nanos_withJitter h room, Nat.mod_eq_of_lt (by omega)]

end Backoff

/-! ### Policies -/

namespace RetryPolicy
variable {r : Config.Retries} {m : UInt64}

/-- The milliseconds of the longest wait that a policy comes to without jitter. -/
def mostMillis (base m : UInt64) : Nat := min (base.toNat * Backoff.maxFactor) m.toNat

theorem delay_of_capped (hm : r.maxDelayMs = some m) (draw : Nat) (retry : UInt32) :
    (ofConfig r).delay draw retry =
      if r.jitter then
        Backoff.withJitter draw (Backoff.delay retry (Span.ofMillis r.baseDelayMs) (some (Span.ofMillis m)))
      else Backoff.delay retry (Span.ofMillis r.baseDelayMs) (some (Span.ofMillis m)) := by
  unfold delay ofConfig
  rw [hm]
  rfl

/-- What the longest wait is in milliseconds, jitter included. -/
theorem nanos_delay_le (hm : r.maxDelayMs = some m) (draw : Nat) (retry : UInt32) :
    ((ofConfig r).delay draw retry).nanos ≤
      (mostMillis r.baseDelayMs m + (mostMillis r.baseDelayMs m / 10 - 1)) * 1000000 := by
  have hcap := Backoff.delay_le_cap retry r.baseDelayMs m
  have hmost : (Backoff.delay retry (Span.ofMillis r.baseDelayMs) (some (Span.ofMillis m))).nanos ≤
      mostMillis r.baseDelayMs m * 1000000 := by
    by_cases h : retry = 0
    · rw [h, Backoff.delay_zero]
      exact Nat.zero_le _
    · rw [Backoff.nanos_delay_of_millis _ _ h]
      have hfactor := Nat.mul_le_mul_left r.baseDelayMs.toNat (Backoff.factor_le (retry.toNat - 1))
      exact Nat.mul_le_mul_right _ (Nat.le_min.mpr ⟨Nat.le_trans (Nat.min_le_left ..) hfactor, Nat.min_le_right ..⟩)
  rw [delay_of_capped hm]
  generalize Backoff.delay retry (Span.ofMillis r.baseDelayMs) (some (Span.ofMillis m)) = d at hcap hmost
  generalize mostMillis r.baseDelayMs m = most at hmost
  split
  · have hjitter := Backoff.nanos_withJitter_le draw d
    unfold Span.millis at hjitter
    omega
  · exact Nat.le_trans hmost (Nat.mul_le_mul_right _ (Nat.le_add_right ..))

/-- From the retry on at which the factor grows no more, the wait is as long as it can be. -/
theorem nanos_delay_late (base m : UInt64) :
    (Backoff.delay 33 (Span.ofMillis base) (some (Span.ofMillis m))).nanos = mostMillis base m * 1000000 :=
  Backoff.nanos_delay_of_millis base m (by decide)

/-- A wait is never longer than the longest one by a tenth of it. It can be longer at all only with jitter: if the
    wait that the doubling comes to, with all the jitter that can be drawn for it, is longer than the longest one. -/
theorem delay_le_longest_iff (hm : r.maxDelayMs = some m) :
    (∀ draw retry, 10 * ((ofConfig r).delay draw retry).nanos ≤ 11 * (m.toNat * 1000000)) ∧
    ((∀ draw retry, (ofConfig r).delay draw retry ≤ Span.ofMillis m) ↔
      r.jitter = false ∨ mostMillis r.baseDelayMs m + (mostMillis r.baseDelayMs m / 10 - 1) ≤ m.toNat) := by
  have hmost : mostMillis r.baseDelayMs m ≤ m.toNat := Nat.min_le_right ..
  refine ⟨fun draw retry => ?_, fun h => ?_, fun h draw retry => ?_⟩
  · have := nanos_delay_le hm draw retry
    omega
  · by_cases hj : r.jitter = true
    · obtain ⟨draw, hdraw⟩ := Backoff.exists_nanos_withJitter_eq (Backoff.delay_le_cap 33 r.baseDelayMs m)
      have hlate := h draw 33
      rw [delay_of_capped hm, if_pos hj, Span.le_def, hdraw, Span.nanos_ofMillis] at hlate
      unfold Span.millis at hlate
      rw [nanos_delay_late] at hlate
      refine .inr ?_
      omega
    · exact .inl (Bool.not_eq_true _ ▸ hj)
  · rcases h with hj | h
    · rw [delay_of_capped hm, if_neg (by simp [hj])]
      exact Backoff.delay_le_cap retry r.baseDelayMs m
    · rw [Span.le_def, Span.nanos_ofMillis]
      exact Nat.le_trans (nanos_delay_le hm draw retry) (Nat.mul_le_mul_right _ h)

/-- A second at first, and a second at most, with jitter. -/
def shakySecond : Config.Retries := { baseDelayMs := 1000, maxDelayMs := some 1000, jitter := true }

theorem delay_le_longest_iff_second :
    shakySecond.maxDelayMs = some 1000 ∧
      10 * ((ofConfig shakySecond).delay 99 1).nanos ≤ 11 * (1000 * 1000000) ∧
      ¬∀ draw retry, (ofConfig shakySecond).delay draw retry ≤ Span.ofMillis 1000 := by
  obtain ⟨tenth, longest⟩ := delay_le_longest_iff (r := shakySecond) (m := 1000) rfl
  exact ⟨rfl, tenth 99 1, fun h => absurd (longest.mp h) (by decide)⟩

/-- The check lets through a longest wait that a wait with jitter exceeds. -/
theorem longer_than_longest_second :
    shakySecond.waitsFit = true ∧ ({ retries := shakySecond } : Config).violations = [] ∧
      ((ofConfig shakySecond).delay 99 1).nanos = 1099 * 1000000 ∧
      ¬(ofConfig shakySecond).delay 99 1 ≤ Span.ofMillis 1000 := by
  refine ⟨by decide, ?_, by decide, by decide⟩
  decide +kernel

end RetryPolicy

end BatchFetch
