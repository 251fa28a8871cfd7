import BatchFetch.Config.Violation
import BatchFetch.Proofs.Time.Words
import BatchFetch.Retry.Policy

/-! # How waits grow

The wait before a retry is the first one times a factor, which doubles from one retry to the next while 32 bits can hold
it and then stays, cut to the longest wait. So waits never become shorter from one retry to the next, or with a longer
first wait or a longer longest one; but from the retry on whose factor would be `2 ^ 32`, they need not double. -/

namespace BatchFetch

namespace Backoff
open Word

variable {retry : UInt32} {base base' d : Span} {cap cap' : Option Span}

/-! ### The wait as a number -/

/-- The longest wait under a cap. -/
def most (cap : Option Span) : Span := cap.getD .longest

/-- A wait cut to the cap. -/
def upTo (cap : Option Span) (d : Span) : Span := cap.elim d (min d)

theorem nanos_upTo (cap : Option Span) (d : Span) : (upTo cap d).nanos = min d.nanos (most cap).nanos := by
  cases cap with
  | none => exact (Nat.min_eq_left d.nanos_le).symm
  | some c => exact Span.nanos_min d c

theorem nanos_upTo_scale (cap : Option Span) (base : Span) (k : Nat) :
    (upTo cap (base.scale k)).nanos = min (base.nanos * k) (most cap).nanos := by
  rw [nanos_upTo, Span.nanos_scale, Nat.min_assoc, Nat.min_eq_right (most cap).nanos_le]

theorem factor_eq_min (n : Nat) : factor n = min (twoTo n) maxFactor := by
  unfold factor
  split
  · rename_i h
    have hle : twoTo n ≤ twoTo 31 := twoTo_le (Nat.le_of_lt_succ h)
    exact (Nat.min_eq_left (Nat.le_trans hle (by decide))).symm
  · rename_i h
    have hle : twoTo 32 ≤ twoTo n := twoTo_le (Nat.le_of_not_lt h)
    exact (Nat.min_eq_right (Nat.le_trans (by decide) hle)).symm

theorem factor_le_factor {m n : Nat} (h : m ≤ n) : factor m ≤ factor n := by
  have hpow := twoTo_le h
  rw [factor_eq_min, factor_eq_min]
  omega

theorem factor_pos (n : Nat) : 0 < factor n := by
  have hpow := twoTo_pos n
  rw [factor_eq_min]
  unfold maxFactor
  omega

theorem delay_eq_upTo (base : Span) (cap : Option Span) (h : retry ≠ 0) :
    delay retry base cap = upTo cap (base.scale (factor (retry.toNat - 1))) := by
  unfold delay upTo
  rw [if_neg h]
  cases cap <;> rfl

theorem nanos_delay (base : Span) (cap : Option Span) (h : retry ≠ 0) :
    (delay retry base cap).nanos = min (base.nanos * factor (retry.toNat - 1)) (most cap).nanos := by
  rw [delay_eq_upTo base cap h, nanos_upTo_scale]

/-! ### Doubling -/

/-- The wait before a retry as it is described: the base delay, doubled with each retry after the first, at most the longest
    span and at most the cap. -/
def doubled (retry : UInt32) (base : Span) (cap : Option Span) : Span :=
  if retry = 0 then .zero else upTo cap (base.scale (twoTo (retry.toNat - 1)))

theorem nanos_doubled (base : Span) (cap : Option Span) (h : retry ≠ 0) :
    (doubled retry base cap).nanos = min (base.nanos * twoTo (retry.toNat - 1)) (most cap).nanos := by
  unfold doubled
  rw [if_neg h, nanos_upTo_scale]

/-- A smaller factor makes no difference only if there is nothing to multiply, or if it reaches the most there can be. -/
theorem min_mul_eq_iff {b k l m : Nat} (h : k < l) : min (b * k) m = min (b * l) m ↔ b = 0 ∨ m ≤ b * k := by
  have hle : b * k ≤ b * l := Nat.mul_le_mul_left b (Nat.le_of_lt h)
  rcases Nat.eq_zero_or_pos b with rfl | hb
  · simp
  · have hlt : b * k < b * l := Nat.mul_lt_mul_of_pos_left h hb
    omega

theorem delay_le_doubled (retry : UInt32) (base : Span) (cap : Option Span) :
    delay retry base cap ≤ doubled retry base cap := by
  by_cases h : retry = 0
  · rw [h]
    exact Nat.le_refl 0
  · have hle : base.nanos * min (twoTo (retry.toNat - 1)) maxFactor ≤ base.nanos * twoTo (retry.toNat - 1) :=
      Nat.mul_le_mul_left _ (Nat.min_le_left ..)
    rw [Span.le_def, nanos_delay base cap h, nanos_doubled base cap h, factor_eq_min]
    omega

theorem delay_eq_doubled_of_early (base : Span) (cap : Option Span) (early : retry.toNat ≤ 32) :
    delay retry base cap = doubled retry base cap := by
  by_cases h : retry = 0
  · rw [h]
    rfl
  · have hfactor : factor (retry.toNat - 1) = twoTo (retry.toNat - 1) := if_pos (by omega)
    rw [delay_eq_upTo base cap h, doubled, if_neg h, hfactor]

theorem delay_eq_doubled_iff_of_late (base : Span) (cap : Option Span) (late : 32 < retry.toNat) :
    delay retry base cap = doubled retry base cap ↔ base.nanos = 0 ∨ (most cap).nanos ≤ base.nanos * maxFactor := by
  have h : retry ≠ 0 := by
    rintro rfl
    exact absurd late (by decide)
  have hpow : twoTo 32 ≤ twoTo (retry.toNat - 1) := twoTo_le (by omega)
  have hlarge : maxFactor < twoTo (retry.toNat - 1) := Nat.lt_of_lt_of_le (by decide) hpow
  have hdelay := nanos_delay base cap h
  rw [factor_eq_min, Nat.min_eq_right (Nat.le_of_lt hlarge)] at hdelay
  rw [← min_mul_eq_iff hlarge, ← hdelay, ← nanos_doubled base cap h]
  exact ⟨congrArg Span.nanos, Span.ext⟩

/-- A wait is never longer than the doubling makes it. It is as long up to retry number 32, whose factor is the largest
    power of two in 32 bits. After that the factor is the largest number in 32 bits, so the wait is as long only if there
    is nothing to double or if that factor already makes it the longest there can be. -/
theorem delay_eq_doubled_iff (retry : UInt32) (base : Span) (cap : Option Span) :
    delay retry base cap ≤ doubled retry base cap ∧
      (retry ≠ 0 → (delay retry base cap).nanos =
        min (base.nanos * min (twoTo (retry.toNat - 1)) 4294967295) (most cap).nanos) ∧
      (delay retry base cap = doubled retry base cap ↔
        retry.toNat ≤ 32 ∨ base.nanos = 0 ∨ (most cap).nanos ≤ base.nanos * 4294967295) := by
  refine ⟨delay_le_doubled retry base cap, fun h => ?_, ?_⟩
  · rw [nanos_delay base cap h, factor_eq_min]
    rfl
  · by_cases early : retry.toNat ≤ 32
    · exact iff_of_true (delay_eq_doubled_of_early base cap early) (.inl early)
    · rw [or_iff_right early]
      exact delay_eq_doubled_iff_of_late base cap (Nat.lt_of_not_le early)

/-- A second is doubled as described up to retry number 32. -/
theorem delay_eq_doubled_iff_second :
    (32 : UInt32) ≠ 0 ∧ delay 32 (.ofSeconds 1) none = doubled 32 (.ofSeconds 1) none ∧
      (delay 32 (.ofSeconds 1) none).nanos = 2147483648 * 1000000000 := by
  obtain ⟨-, exact, iff⟩ := delay_eq_doubled_iff 32 (.ofSeconds 1) none
  exact ⟨by decide, iff.mpr (.inl (by decide)), (exact (by decide)).trans (by decide)⟩

/-- At the next retry the doubled second is longer than the wait, by a second. -/
theorem shorter_than_doubled_second :
    (delay 33 (.ofSeconds 1) none).nanos = 4294967295 * 1000000000 ∧
      (doubled 33 (.ofSeconds 1) none).nanos = 4294967296 * 1000000000 ∧
      delay 33 (.ofSeconds 1) none ≠ doubled 33 (.ofSeconds 1) none := by
  decide

/-! ### Growth -/

/-- Later waits are no shorter, and neither are those with a longer base delay or a longer longest wait. -/
theorem delay_le_delay {i j : UInt32} (hi : i ≠ 0) (hij : i ≤ j) (hbase : base ≤ base') (hmost : most cap ≤ most cap') :
    delay i base cap ≤ delay j base' cap' := by
  have hij' : i.toNat ≤ j.toNat := hij
  have hj : j ≠ 0 := by
    rintro rfl
    exact hi (UInt32.toNat_inj.mp (Nat.le_zero.mp hij'))
  have hfactor : factor (i.toNat - 1) ≤ factor (j.toNat - 1) := factor_le_factor (Nat.sub_le_sub_right hij' 1)
  have hproduct := Nat.mul_le_mul hbase hfactor
  rw [Span.le_def] at hmost
  rw [Span.le_def, nanos_delay base cap hi, nanos_delay base' cap' hj]
  omega

theorem delay_le_most (retry : UInt32) (base : Span) (cap : Option Span) : delay retry base cap ≤ most cap := by
  by_cases h : retry = 0
  · rw [h, delay_zero]
    exact Nat.zero_le _
  · rw [Span.le_def, nanos_delay base cap h]
    exact Nat.min_le_right ..

/-- A wait is at least the base delay, if the longest one is. -/
theorem le_delay (h : retry ≠ 0) (fits : base ≤ most cap) : base ≤ delay retry base cap := by
  rw [Span.le_def, nanos_delay base cap h]
  exact Nat.le_min.mpr ⟨Nat.le_mul_of_pos_right _ (factor_pos _), fits⟩

/-! ### In words -/

/-- The wait before a retry in words. The power of two that does not fit its word becomes the largest number there. -/
def delayInWords (retry : UInt32) (base : Span.Words) (cap : Option Span.Words) : Except Fault Span.Words :=
  if retry = 0 then .ok Span.zero.words
  else do
    let n ← less retry.toNat 1
    let d ← base.scale ((fit? 0x100000000 (twoTo n)).getD ⟨0xffffffff, by decide⟩)
    return cap.elim d d.shorter

theorem fit?_twoTo_getD (n : Nat) :
    ((fit? 0x100000000 (twoTo n)).getD ⟨0xffffffff, by decide⟩).val = factor n := by
  rw [factor_eq_min]
  by_cases h : twoTo n < 0x100000000
  · rw [fit?_of_lt h]
    exact (Nat.min_eq_left (Nat.le_of_lt_succ h)).symm
  · rw [fit?_of_le (Nat.not_lt.mp h)]
    exact (Nat.min_eq_right (Nat.le_trans (by decide) (Nat.not_lt.mp h))).symm

/-- No number on the way to a wait leaves its word, whatever the retry, the base delay and the cap. -/
theorem delayInWords_eq (retry : UInt32) (base : Span) (cap : Option Span) :
    delayInWords retry base.words (cap.map Span.words) = .ok (delay retry base cap).words := by
  unfold delayInWords
  by_cases h : retry = 0
  · rw [if_pos h, h]
    rfl
  · have one : 1 ≤ retry.toNat := Nat.one_le_iff_ne_zero.mpr fun hn => h (UInt32.toNat_inj.mp hn)
    rw [if_neg h, delay_eq_upTo base cap h, bind_of_ok (less_of_le one), bind_of_ok (Span.scale_words base _),
      fit?_twoTo_getD]
    cases cap with
    | none => rfl
    | some c => exact congrArg Except.ok (Span.shorter_words _ c)

end Backoff

/-! ### Policies -/

namespace RetryPolicy

/-- The longest wait that a configuration allows. -/
def longestWait (r : Config.Retries) : Span := Backoff.most (r.maxDelayMs.map Span.ofMillis)

/-- The wait before a retry in words, from the milliseconds of a configuration on. -/
def waitInWords (r : Config.Retries) (retry : UInt32) : Except Fault Span.Words := do
  let base ← Span.Words.ofMillis r.baseDelayMs.toFin
  let cap ← r.maxDelayMs.mapM fun m => Span.Words.ofMillis m.toFin
  Backoff.delayInWords retry base cap

variable {r : Config.Retries}

theorem delay_of_calm (calm : r.jitter = false) (draw : Nat) (retry : UInt32) :
    (ofConfig r).delay draw retry =
      Backoff.delay retry (Span.ofMillis r.baseDelayMs) (r.maxDelayMs.map Span.ofMillis) :=
  if_neg (by simp [ofConfig, calm])

theorem ofMillis_le_ofMillis {m n : UInt64} (h : m ≤ n) : Span.ofMillis m ≤ Span.ofMillis n :=
  Nat.mul_le_mul_right 1000000 h

/-- A checked configuration does not let the longest wait be shorter than the first. -/
theorem ofMillis_le_longestWait (fits : r.waitsFit = true) : Span.ofMillis r.baseDelayMs ≤ longestWait r := by
  unfold Config.Retries.waitsFit at fits
  unfold longestWait
  cases hm : r.maxDelayMs with
  | none => exact (Span.ofMillis r.baseDelayMs).nanos_le
  | some m =>
    rw [hm] at fits
    exact ofMillis_le_ofMillis (of_decide_eq_true fits)

theorem ofMillis_toFin (m : UInt64) : Span.Words.ofMillis m.toFin = .ok (Span.ofMillis m).words := by
  have same : Span.ofNanos (m.toNat * 1000000) = Span.ofMillis m := Span.ext (Nat.min_eq_left (Span.ofMillis m).nanos_le)
  rw [Span.ofMillis_words, ← same]
  rfl

theorem waitInWords_eq (calm : r.jitter = false) (draw : Nat) (retry : UInt32) :
    waitInWords r retry = .ok ((ofConfig r).delay draw retry).words := by
  rw [delay_of_calm calm, ← Backoff.delayInWords_eq]
  have hcap : (r.maxDelayMs.mapM fun m => Span.Words.ofMillis m.toFin) =
      .ok ((r.maxDelayMs.map Span.ofMillis).map Span.words) := by
    cases r.maxDelayMs with
    | none => rfl
    | some m =>
      rw [Option.mapM_some, ofMillis_toFin]
      rfl
  unfold waitInWords
  rw [bind_of_ok (ofMillis_toFin r.baseDelayMs), bind_of_ok hcap]

/-- Without jitter, the waits of a configuration that passes the check begin with none, then go on from the base delay
    without ever becoming shorter, and never pass the longest wait. With a longer base delay or a longer longest wait
    none of them is shorter. All of them are computed without a number that leaves its word, and so are the waits for
    any other base delay and cap. -/
theorem waits_grow {c : Config} (valid : c.isValid = true) (calm : c.retries.jitter = false) :
    (∀ draw, (ofConfig c.retries).delay draw 0 = .zero) ∧
      (∀ i j : UInt32, 1 ≤ i → i ≤ j → ∀ draw draw',
        Span.ofMillis c.retries.baseDelayMs ≤ (ofConfig c.retries).delay draw i ∧
          (ofConfig c.retries).delay draw i ≤ (ofConfig c.retries).delay draw' j ∧
          (ofConfig c.retries).delay draw' j ≤ longestWait c.retries) ∧
      (∀ r : Config.Retries, r.jitter = false → c.retries.baseDelayMs ≤ r.baseDelayMs →
        longestWait c.retries ≤ longestWait r →
          ∀ i draw, (ofConfig c.retries).delay draw i ≤ (ofConfig r).delay draw i) ∧
      (∀ i draw, waitInWords c.retries i = .ok ((ofConfig c.retries).delay draw i).words) ∧
      ∀ i base cap, Backoff.delayInWords i (Span.words base) (cap.map Span.words) = .ok (Backoff.delay i base cap).words := by
  obtain ⟨-, -, fits, -⟩ := Config.isValid_iff.mp valid
  have hne : ∀ i : UInt32, 1 ≤ i → i ≠ 0 := by
    rintro _ h rfl
    exact absurd h (by decide)
  refine ⟨fun draw => ?_, fun i j hi hij draw draw' => ?_, fun r calm' hbase hmost i draw => ?_, fun i draw =>
    waitInWords_eq calm draw i, Backoff.delayInWords_eq⟩
  · rw [delay_of_calm calm]
    rfl
  · rw [delay_of_calm calm, delay_of_calm calm]
    exact ⟨Backoff.le_delay (hne i hi) (ofMillis_le_longestWait fits),
      Backoff.delay_le_delay (hne i hi) hij (Nat.le_refl _) (Nat.le_refl _), Backoff.delay_le_most ..⟩
  · rw [delay_of_calm calm, delay_of_calm calm']
    by_cases h : i = 0
    · rw [h, Backoff.delay_zero, Backoff.delay_zero]
      exact Nat.le_refl _
    · exact Backoff.delay_le_delay h (UInt32.le_refl i) (ofMillis_le_ofMillis hbase) hmost

/-- Waits that reach the longest one, which is as long as milliseconds can say, and the largest base delay. -/
def patient : Config := { retries := { baseDelayMs := 0x3fffffffffffffff, maxDelayMs := some 0xffffffffffffffff } }

theorem waits_grow_patient :
    patient.isValid = true ∧ patient.retries.jitter = false ∧
      (ofConfig patient.retries).delay 0 3 ≤ (ofConfig patient.retries).delay 0 4 ∧
      (ofConfig patient.retries).delay 0 4 = longestWait patient.retries ∧
      (ofConfig patient.retries).delay 0 4 ≤ (ofConfig { baseDelayMs := 0xffffffffffffffff }).delay 0 4 ∧
      waitInWords patient.retries 4 = .ok ⟨⟨18446744073709551, by decide⟩, ⟨615000000, by decide⟩⟩ := by
  have valid : patient.isValid = true := by
    refine Config.isValid_iff.mpr ⟨?_, by decide, rfl, by decide, by decide, by decide, by decide, by decide, by decide,
      by decide, rfl⟩
    decide +kernel
  obtain ⟨-, grow, longer, inWords, -⟩ := waits_grow valid rfl
  refine ⟨valid, rfl, (grow 3 4 (by decide) (by decide) 0 0).2.1, by decide, longer _ rfl (by decide) (by decide) 4 0, ?_⟩
  exact (inWords 4 0).trans (congrArg Except.ok (by decide))

end RetryPolicy

end BatchFetch
