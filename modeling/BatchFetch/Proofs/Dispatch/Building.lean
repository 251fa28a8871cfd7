import BatchFetch.Config.Violation
import BatchFetch.Dispatch.Dispatcher
import Mathlib.Algebra.Order.Field.Rat
import Mathlib.Tactic.NormNum

/-! # Building a batch

A configuration is checked before a batch is built from it. What passes the check is taken over as it is: none
of the values that are put in the place of unusable ones is used. The check does not say how many permits there
can be, so a batch cannot be built from every configuration that passes. -/

namespace BatchFetch

/-! ### Configurations that pass the check -/

theorem Binary64.exists_rat_of_isPositive {x : Binary64} (h : x.isPositive = true) : ∃ r, x.toRat? = some r ∧ 0 < r := by
  unfold isPositive at h
  unfold toRat?
  split at h
  · rename_i units hview
    have hunits : units ≠ 0 := by simpa using h
    refine ⟨_, by rw [hview], ?_⟩
    rw [if_neg Bool.false_ne_true, Rat.mkRat_eq_div]
    have hpos : (0 : Rat) < (units : Int) := by exact_mod_cast Nat.pos_of_ne_zero hunits
    have hone : (0 : Rat) < (Rounding.unitsPerOne : Nat) := by exact_mod_cast twoTo_pos 1074
    exact div_pos hpos hone
  · cases h

theorem Limits.rate_pos (rate : Binary64) (capacity : UInt32) : 0 < (Limits.make rate capacity).rate := by
  have hleast : 0 < leastRate := by
    have hone : (0 : Rat) < (twoTo 1022 : Nat) := by exact_mod_cast twoTo_pos 1022
    rw [leastRate, Rat.mkRat_eq_div]
    exact div_pos (by norm_num) hone
  show 0 < if rate.isPositive then rate.toRat?.getD leastRate else leastRate
  split
  · rename_i h
    obtain ⟨r, hr, hpos⟩ := Binary64.exists_rat_of_isPositive h
    rwa [hr]
  · exact hleast

/-- The rate of a limiter is that of its configuration if that is a positive number. -/
theorem Limits.rate_of_isPositive {rate : Binary64} (h : rate.isPositive = true) (capacity : UInt32) :
    rate.toRat? = some (Limits.make rate capacity).rate := by
  obtain ⟨r, hr, -⟩ := Binary64.exists_rat_of_isPositive h
  show rate.toRat? = some (if rate.isPositive then rate.toRat?.getD leastRate else leastRate)
  rw [if_pos h, hr]
  rfl

namespace Batch

section Built
variable {c : Config} {targets : List String} {start : Nat} {cancelAfter : Option UInt64} {transport : Transport}
  {earlier : List Call} {draw : Nat → UInt32 → Nat} {b : Batch}

/-- A number that is not zero is no smaller than one. -/
theorem max_one_of_ne_zero {n : UInt32} (h : n ≠ 0) : max n.toNat 1 = n.toNat :=
  Nat.max_eq_left (Nat.one_le_iff_ne_zero.mpr fun hn => h (UInt32.toNat_inj.mp hn))

theorem max_one_of_ne_some_zero {n : UInt64} {o : Option UInt64} (h : o ≠ some 0) (hn : o = some n) :
    max n.toNat 1 = n.toNat :=
  Nat.max_eq_left (Nat.one_le_iff_ne_zero.mpr fun hzero => h (hn.trans (congrArg some (UInt64.toNat_inj.mp hzero))))

/-- A batch can be built if there can be so many permits. -/
theorem exists_built_iff : (∃ b, ofConfig? c targets start cancelAfter transport earlier draw = some b) ↔
    ∀ n, c.dispatch.maxConcurrency = some n → max n.toNat 1 ≤ mostPermits := by
  unfold ofConfig?
  dsimp only
  cases c.dispatch.maxConcurrency with
  | none => simp
  | some n =>
    simp only [Option.map_some, Option.any_some, decide_eq_true_eq, Option.some.injEq, forall_eq']
    by_cases hn : mostPermits < max n.toNat 1
    · simp only [if_pos hn, reduceCtorEq, exists_false, false_iff]
      exact Nat.not_le.mpr hn
    · simp only [if_neg hn, Option.some.injEq, exists_eq', true_iff]
      exact Nat.le_of_not_lt hn

/-- A configuration that passes the check is run as it says, if it can be run at all: that fails exactly if it asks
    for more permits than there can be. The limiter has the capacity and the rate of the configuration, the
    breakers have its threshold and its cool-down, the retries its ceiling and its waits, and there are as many
    permits as it says, all of them free at the start. -/
theorem runs_as_configured (valid : c.isValid = true) :
    ((∃ b, ofConfig? c targets start cancelAfter transport earlier draw = some b) ↔
      ∀ n, c.dispatch.maxConcurrency = some n → n.toNat ≤ mostPermits) ∧
    ∀ b, ofConfig? c targets start cancelAfter transport earlier draw = some b →
      b.limits.capacity = c.rateLimit.burstSize.toNat ∧
      c.rateLimit.requestsPerSecond.toRat? = some b.limits.rate ∧
      b.breaker = ⟨c.circuitBreaker.failureThreshold.toNat, Span.ofMillis c.circuitBreaker.openDurationMs⟩ ∧
      b.retry = ⟨c.retries.maxRetries, Span.ofMillis c.retries.baseDelayMs, c.retries.maxDelayMs.map Span.ofMillis,
        c.retries.jitter, c.retries.retryServerErrors⟩ ∧
      b.permits = c.dispatch.maxConcurrency.map UInt64.toNat ∧
      (∀ n, c.dispatch.maxConcurrency = some n → b.initial.free = n.toNat) := by
  obtain ⟨rate, burst, -, threshold, -, concurrency, -⟩ := Config.isValid_iff.mp valid
  have hpermits : (c.dispatch.maxConcurrency.map fun n => max n.toNat 1) = c.dispatch.maxConcurrency.map UInt64.toNat := by
    exact Option.map_congr fun n hn => max_one_of_ne_some_zero concurrency hn
  constructor
  · rw [exists_built_iff]
    refine forall₂_congr fun n hn => ?_
    rw [max_one_of_ne_some_zero concurrency hn]
  · intro b built
    obtain rfl := eq_ofConfig built
    refine ⟨?_, Limits.rate_of_isPositive rate _, ?_, rfl, hpermits, ?_⟩
    · show ((max c.rateLimit.burstSize.toNat 1 : Nat) : Rat) = _
      rw [max_one_of_ne_zero burst]
    · show (⟨max c.circuitBreaker.failureThreshold.toNat 1, _⟩ : Breaker.Settings) = _
      rw [max_one_of_ne_zero threshold]
    · intro n hn
      show (c.dispatch.maxConcurrency.map fun n => max n.toNat 1).getD 0 = _
      rw [hpermits, hn]
      rfl

end Built

/-! ### The most permits, and one more -/

/-- The smallest rate and the largest number of permits with which a batch can be built. -/
def fullConfig : Config :=
  { rateLimit := { requestsPerSecond := ⟨1⟩, burstSize := 1 }
    dispatch := { maxConcurrency := some 0x1fffffffffffffff } }

theorem runs_as_configured_full :
    ∃ b, ofConfig? fullConfig ["a"] 0 none (fun _ _ => { ending := .never }) [] (fun _ _ => 0) = some b ∧
      b.limits.capacity = 1 ∧ fullConfig.rateLimit.requestsPerSecond.toRat? = some b.limits.rate ∧
      b.initial.free = mostPermits := by
  have valid : fullConfig.isValid = true := by
    refine Config.isValid_iff.mpr ⟨?_, by decide, rfl, by decide, by decide, by decide, by decide, by decide, by decide,
      by decide, rfl⟩
    decide +kernel
  have fits : ∀ n, fullConfig.dispatch.maxConcurrency = some n → n.toNat ≤ mostPermits := by
    rintro _ ⟨⟩
    exact Nat.le_refl _
  have built : ∃ b, ofConfig? fullConfig ["a"] 0 none (fun _ _ => { ending := .never }) [] (fun _ _ => 0) = some b :=
    (runs_as_configured valid).1.mpr fits
  obtain ⟨b, hb⟩ := built
  obtain ⟨capacity, rate, -, -, -, free⟩ := (runs_as_configured valid).2 b hb
  exact ⟨b, hb, capacity.trans (by decide), rate, free _ rfl⟩

/-- One permit more than there can be. -/
def crowdedConfig : Config := { dispatch := { maxConcurrency := some 0x2000000000000000 } }

/-- A configuration can pass the check although no batch can be built from it. -/
theorem not_built_of_crowded :
    crowdedConfig.isValid = true ∧
      ofConfig? crowdedConfig ["a"] 0 none (fun _ _ => { ending := .never }) [] (fun _ _ => 0) = none := by
  refine ⟨Config.isValid_iff.mpr ⟨?_, by decide, rfl, by decide, by decide, by decide, by decide, by decide, by decide,
    by decide, rfl⟩, rfl⟩
  decide +kernel

end Batch

end BatchFetch
