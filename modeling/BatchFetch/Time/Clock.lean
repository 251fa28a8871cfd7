import BatchFetch.Time.Span

/-! # The clock

A point in time is a number of nanoseconds since the clock started. Timers are kept in whole
milliseconds: one that is set for a span is due at the first whole millisecond at which the span is over. The
clock itself goes on by whole milliseconds when everybody waits, so what it is past one it stays past the next. -/

namespace BatchFetch.Clock

/-- A point in time rounded up to a whole millisecond. -/
def ceilMillis (t : Nat) : Nat := (t + 999999) / 1000000 * 1000000

/-- How far away a timer is set whose end the clock cannot tell: thirty years. -/
def farAway : Nat := 30 * 365 * 86400 * 1000000000

/-- The seconds from which on the clock cannot tell the end of a span. -/
def horizonSeconds : Nat := 9223372036854775808

/-- When a timer fires that is set for the span `d` at `now`: the millisecond at which it is due, and as long after that
    as `now` is past a millisecond. -/
def timer (now : Nat) (d : Span) : Nat :=
  ceilMillis (now + if d.seconds < horizonSeconds then d.nanos else farAway) + now % 1000000

/-- When something happens that takes a span from `now` on: at once if the span is empty, and else when a timer fires. -/
def due (now : Nat) (d : Span) : Nat := if d = Span.zero then now else timer now d

/-- How late a timer fires that is set at some time for whole milliseconds: a millisecond, unless it is set at a whole one. -/
def late (now : Nat) : Nat := if 1000000 ∣ now then 0 else 1000000

def since (now start : Nat) : Span := Span.ofNanos (now - start)

theorem le_ceilMillis (t : Nat) : t ≤ ceilMillis t := by
  unfold ceilMillis
  omega

theorem ceilMillis_add {σ : Nat} (h : 1000000 ∣ σ) (t : Nat) : ceilMillis (σ + t) = σ + ceilMillis t := by
  unfold ceilMillis
  omega

/-- A timer that is set at a whole millisecond fires at one. -/
theorem dvd_timer {now : Nat} (h : 1000000 ∣ now) (d : Span) : 1000000 ∣ timer now d := by
  unfold timer
  rw [Nat.mod_eq_zero_of_dvd h, Nat.add_zero]
  exact Nat.dvd_mul_left ..

/-- A timer never fires before it was set. -/
theorem le_timer (now : Nat) (d : Span) : now ≤ timer now d :=
  Nat.le_trans (Nat.le_add_right ..) (Nat.le_trans (le_ceilMillis _) (Nat.le_add_right ..))

/-- A timer that is set whole milliseconds later fires so much later. -/
theorem timer_add {σ : Nat} (h : 1000000 ∣ σ) (now : Nat) (d : Span) : timer (σ + now) d = σ + timer now d := by
  have past : (σ + now) % 1000000 = now % 1000000 := by omega
  unfold timer
  rw [past, Nat.add_assoc, ceilMillis_add h, Nat.add_assoc]

theorem dvd_due {now : Nat} (h : 1000000 ∣ now) (d : Span) : 1000000 ∣ due now d := by
  unfold due
  split
  · exact h
  · exact dvd_timer h d

theorem le_due (now : Nat) (d : Span) : now ≤ due now d := by
  unfold due
  split
  · exact Nat.le_refl now
  · exact le_timer now d

theorem due_add {σ : Nat} (h : 1000000 ∣ σ) (now : Nat) (d : Span) : due (σ + now) d = σ + due now d := by
  unfold due
  split
  · rfl
  · exact timer_add h now d

/-- A timer that is set for whole milliseconds fires when they are over, or a millisecond late. -/
theorem timer_le {d : Span} (whole : 1000000 ∣ d.nanos) (now : Nat) : timer now d ≤ now + d.nanos + late now := by
  have near : (if d.seconds < horizonSeconds then d.nanos else farAway) ≤ d.nanos ∧
      1000000 ∣ if d.seconds < horizonSeconds then d.nanos else farAway := by
    split
    · exact ⟨Nat.le_refl _, whole⟩
    · rename_i far
      have far : horizonSeconds ≤ d.nanos / 1000000000 := Nat.le_of_not_lt far
      unfold horizonSeconds at far
      refine ⟨?_, by decide⟩
      unfold farAway
      omega
  unfold timer late ceilMillis
  generalize (if d.seconds < horizonSeconds then d.nanos else farAway) = n at near
  split <;> omega

theorem due_le {d : Span} (whole : 1000000 ∣ d.nanos) (now : Nat) : due now d ≤ now + d.nanos + late now := by
  unfold due
  split
  · exact Nat.le_trans (Nat.le_add_right now d.nanos) (Nat.le_add_right ..)
  · exact timer_le whole now

end BatchFetch.Clock
