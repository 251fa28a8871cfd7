import BatchFetch.Proofs.Time.Words
import BatchFetch.Retry.Backoff

/-! # Jitter

Jitter adds a random number of milliseconds to a delay, fewer than a tenth of those it has. It adds none to a delay that is
too short to have a tenth with room for two, and none where the sum would be longer than any span. A number is drawn only
where there is one to draw. -/

namespace BatchFetch.Backoff
open Word

variable {d : Span} {draw : Nat}

/-! ### What is drawn -/

theorem ten_mul_jitterRange_le (d : Span) : 10 * jitterRange d ≤ d.millis := by
  unfold jitterRange
  omega

theorem jitterRange_lt (d : Span) : jitterRange d < 0x10000000000000000 := by
  unfold jitterRange
  omega

/-- Below twenty milliseconds there is at most one number to draw, which is zero. -/
theorem jitterRange_of_short (short : d.nanos < 20000000) : jitterRange d ≤ 1 := by
  have := ten_mul_jitterRange_le d
  unfold Span.millis at this
  omega

/-- A number that jitter draws is a number of milliseconds that a span can have. -/
theorem nanos_of_drawn {ms : Nat} (h : ms < jitterRange d) : (Span.ofNanos (ms * 1000000)).nanos = ms * 1000000 := by
  have := jitterRange_lt d
  refine Nat.min_eq_left ?_
  unfold Span.maxNanos
  omega

/-! ### What is added -/

theorem withJitter_of_empty (h : jitterRange d = 0) : withJitter draw d = d := if_pos h

theorem withJitter_of_room (room : jitterRange d ≠ 0) :
    withJitter draw d = (d.add? (Span.ofNanos (draw % jitterRange d * 1000000))).getD d := if_neg room

/-- A delay with the milliseconds that are drawn, if there is a span so long. -/
theorem nanos_withJitter_of_room (draw : Nat) (room : jitterRange d ≠ 0) :
    (withJitter draw d).nanos =
      if d.nanos + draw % jitterRange d * 1000000 ≤ Span.maxNanos then d.nanos + draw % jitterRange d * 1000000
      else d.nanos := by
  have hdrawn := nanos_of_drawn (Nat.mod_lt draw (Nat.pos_of_ne_zero room))
  rw [withJitter_of_room room, Span.add?, hdrawn, Span.ofNanos?]
  split <;> rfl

/-- Jitter adds nothing, or the milliseconds that are drawn. -/
theorem withJitter_cases (draw : Nat) (d : Span) :
    withJitter draw d = d ∨
      draw % jitterRange d < jitterRange d ∧
        (withJitter draw d).nanos = d.nanos + draw % jitterRange d * 1000000 := by
  by_cases room : jitterRange d = 0
  · exact .inl (withJitter_of_empty room)
  · have hnanos := nanos_withJitter_of_room draw room
    split at hnanos
    · exact .inr ⟨Nat.mod_lt draw (Nat.pos_of_ne_zero room), hnanos⟩
    · exact .inl (Span.ext hnanos)

theorem le_withJitter (draw : Nat) (d : Span) : d ≤ withJitter draw d := by
  rw [Span.le_def]
  rcases withJitter_cases draw d with same | ⟨-, hnanos⟩
  · exact Nat.le_of_eq (congrArg Span.nanos same.symm)
  · rw [hnanos]
    exact Nat.le_add_right ..

theorem withJitter_of_short (draw : Nat) (short : d.nanos < 20000000) : withJitter draw d = d := by
  have hrange := jitterRange_of_short short
  rcases withJitter_cases draw d with same | ⟨hdrawn, hnanos⟩
  · exact same
  · apply Span.ext
    rw [hnanos, Nat.lt_one_iff.mp (Nat.lt_of_lt_of_le hdrawn hrange)]
    rfl

theorem withJitter_of_long (long : Span.maxNanos < d.nanos + draw % jitterRange d * 1000000) : withJitter draw d = d := by
  rcases withJitter_cases draw d with same | ⟨-, hnanos⟩
  · exact same
  · have hle := (withJitter draw d).nanos_le
    rw [hnanos] at hle
    exact absurd hle (Nat.not_le.mpr long)

/-! ### In words -/

/-- A random number below `n`; there is none below zero. -/
def drawBelow (draw n : Nat) : Except Fault (Fin n) :=
  if h : 0 < n then .ok ⟨draw % n, Nat.mod_lt draw h⟩ else .error .nothingToDraw

theorem drawBelow_of_pos {n : Nat} (h : 0 < n) : drawBelow draw n = .ok ⟨draw % n, Nat.mod_lt draw h⟩ := dif_pos h

/-- A delay in words with a random number of milliseconds below `range`, if there is one and the sum is a span. -/
def addBelow (draw : Nat) (range : Fin 0x10000000000000000) (w : Span.Words) : Except Fault Span.Words :=
  if range.val = 0 then .ok w
  else do
    let drawn ← drawBelow draw range.val
    let extra ← Span.Words.ofMillis ⟨drawn.val, Nat.lt_trans drawn.isLt range.isLt⟩
    let sum ← w.plus? extra
    return sum.getD w

/-- A delay with jitter in words. A tenth of its milliseconds that does not fit its word becomes the largest number there. -/
def jitterInWords (draw : Nat) (w : Span.Words) : Except Fault Span.Words := do
  let ms ← w.millis
  addBelow draw ((fit? 0x10000000000000000 (ms.val / 10)).getD ⟨0xffffffffffffffff, by decide⟩) w

theorem fit?_tenth_getD (d : Span) :
    (fit? 0x10000000000000000 (d.millis / 10)).getD ⟨0xffffffffffffffff, by decide⟩ =
      ⟨jitterRange d, jitterRange_lt d⟩ := by
  apply Fin.ext
  unfold jitterRange
  by_cases h : d.millis / 10 < 0x10000000000000000
  · rw [fit?_of_lt h]
    exact (Nat.min_eq_left (Nat.le_of_lt_succ h)).symm
  · rw [fit?_of_le (Nat.not_lt.mp h)]
    exact (Nat.min_eq_right (Nat.le_of_lt (Nat.not_lt.mp h))).symm

/-- Whatever the delay, no number leaves its word, and a number is drawn only where there is one. -/
theorem jitterInWords_eq (draw : Nat) (d : Span) : jitterInWords draw d.words = .ok (withJitter draw d).words := by
  unfold jitterInWords
  rw [bind_of_ok (Span.millis_words d), fit?_tenth_getD]
  unfold addBelow
  by_cases room : jitterRange d = 0
  · rw [if_pos room, withJitter_of_empty room]
  · rw [if_neg room, withJitter_of_room room, bind_of_ok (drawBelow_of_pos (Nat.pos_of_ne_zero room)),
      bind_of_ok (Span.ofMillis_words _), bind_of_ok (Span.plus?_words d _)]
    cases d.add? (Span.ofNanos (draw % jitterRange d * 1000000)) <;> rfl

/-- A delay with jitter can always be computed. It is the delay, or longer by whole milliseconds that are fewer than a tenth
    of those of the delay; it is the delay if that is shorter than twenty milliseconds, or if the sum would be longer
    than any span. Each such number of milliseconds that 64 bits can count is added for some draw, if the sum is a span. -/
theorem withJitter_envelope (draw : Nat) (d : Span) :
    jitterInWords draw d.words = .ok (withJitter draw d).words ∧ d ≤ withJitter draw d ∧
      (withJitter draw d = d ∨ ∃ ms, 10 * ms < d.millis ∧ (withJitter draw d).nanos = d.nanos + ms * 1000000) ∧
      (d.nanos < 20 * 1000000 → withJitter draw d = d) ∧
      (Span.maxNanos < d.nanos + draw % jitterRange d * 1000000 → withJitter draw d = d) ∧
      ∀ ms < jitterRange d, d.nanos + ms * 1000000 ≤ Span.maxNanos →
        (withJitter ms d).nanos = d.nanos + ms * 1000000 := by
  refine ⟨jitterInWords_eq draw d, le_withJitter draw d, ?_, withJitter_of_short draw, withJitter_of_long,
    fun ms hms fits => ?_⟩
  · have hrange := ten_mul_jitterRange_le d
    rcases withJitter_cases draw d with same | ⟨hdrawn, hnanos⟩
    · exact .inl same
    · exact .inr ⟨draw % jitterRange d, by omega, hnanos⟩
  · have room : jitterRange d ≠ 0 := Nat.ne_zero_of_lt hms
    rw [nanos_withJitter_of_room ms room, Nat.mod_eq_of_lt hms, if_pos fits]

/-- Five milliseconds short of the longest span. -/
def nearlyLongest : Span := ⟨Span.maxNanos - 5000000, by decide⟩

theorem withJitter_envelope_nearlyLongest :
    (withJitter 4 nearlyLongest).nanos = Span.maxNanos - 1000000 ∧ withJitter 6 nearlyLongest = nearlyLongest ∧
      withJitter 19 (.ofMillis 19) = .ofMillis 19 ∧
      jitterInWords 6 nearlyLongest.words = .ok nearlyLongest.words := by
  obtain ⟨-, -, -, -, -, added⟩ := withJitter_envelope 4 nearlyLongest
  obtain ⟨inWords, -, -, -, long, -⟩ := withJitter_envelope 6 nearlyLongest
  obtain ⟨-, -, -, short, -, -⟩ := withJitter_envelope 19 (.ofMillis 19)
  have same : withJitter 6 nearlyLongest = nearlyLongest := long (by decide)
  exact ⟨added 4 (by decide) (by decide), same, short (by decide), inWords.trans (congrArg (Except.ok ·.words) same)⟩

end BatchFetch.Backoff
