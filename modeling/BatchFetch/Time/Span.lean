import BatchFetch.Text.Decimal

/-! # Lengths of time

A `Span` is a length of time in whole nanoseconds, below `2 ^ 64` seconds. Arithmetic on spans stops
at the longest one instead of passing it. -/

namespace BatchFetch

/-- A length of time: whole nanoseconds, fewer than `2 ^ 64` seconds. -/
structure Span where
  nanos : Nat
  nanos_le : nanos ≤ 18446744073709551615999999999 := by omega
deriving DecidableEq, Repr

namespace Span

theorem ext {a b : Span} (h : a.nanos = b.nanos) : a = b := by
  cases a; cases b; simp_all

instance : LE Span := ⟨fun a b => a.nanos ≤ b.nanos⟩

instance (a b : Span) : Decidable (a ≤ b) := inferInstanceAs (Decidable (a.nanos ≤ b.nanos))

instance : LT Span := ⟨fun a b => a.nanos < b.nanos⟩

instance (a b : Span) : Decidable (a < b) := inferInstanceAs (Decidable (a.nanos < b.nanos))

instance : Min Span := ⟨fun a b => if a ≤ b then a else b⟩

/-- The nanoseconds of the longest span. -/
abbrev maxNanos : Nat := 18446744073709551615999999999

def zero : Span := ⟨0, by omega⟩

/-- The longest span, one nanosecond short of `2 ^ 64` seconds. -/
def longest : Span := ⟨maxNanos, Nat.le_refl _⟩

/-- The span of `n` nanoseconds, if there is one. -/
def ofNanos? (n : Nat) : Option Span := if h : n ≤ maxNanos then some ⟨n, h⟩ else none

/-- The span of `n` nanoseconds, or the longest one where that is too short. -/
def ofNanos (n : Nat) : Span := ⟨min n maxNanos, Nat.min_le_right ..⟩

def ofMillis (ms : UInt64) : Span :=
  ⟨ms.toNat * 1000000, by have := ms.toNat_lt; omega⟩

def ofSeconds (s : UInt64) : Span :=
  ⟨s.toNat * 1000000000, by have := s.toNat_lt; omega⟩

def seconds (d : Span) : Nat := d.nanos / 1000000000

/-- The nanoseconds beyond the whole seconds of a span. -/
def subNanos (d : Span) : Nat := d.nanos % 1000000000

def millis (d : Span) : Nat := d.nanos / 1000000

/-- `k` times a span, at most the longest one. -/
def scale (d : Span) (k : Nat) : Span := ofNanos (d.nanos * k)

def add? (a b : Span) : Option Span := ofNanos? (a.nanos + b.nanos)

/-- What remains of a span after `n` nanoseconds, none once they are over. -/
def minus (d : Span) (n : Nat) : Span := ⟨d.nanos - n, by have := d.nanos_le; omega⟩

/-- A span in the largest of seconds, milliseconds, microseconds and nanoseconds that it fills once,
    with all digits after the point that are needed. -/
def text (d : Span) : String :=
  if d.nanos ≥ 1000000000 then Decimal.mixed d.seconds 9 d.subNanos ++ "s"
  else if d.nanos ≥ 1000000 then Decimal.mixed (d.nanos / 1000000) 6 (d.nanos % 1000000) ++ "ms"
  else if d.nanos ≥ 1000 then Decimal.mixed (d.nanos / 1000) 3 (d.nanos % 1000) ++ "µs"
  else Decimal.text d.nanos ++ "ns"

@[simp] theorem nanos_zero : zero.nanos = 0 := rfl

@[simp] theorem nanos_longest : longest.nanos = maxNanos := rfl

@[simp] theorem nanos_ofNanos (n : Nat) : (ofNanos n).nanos = min n maxNanos := rfl

@[simp] theorem nanos_scale (d : Span) (k : Nat) : (d.scale k).nanos = min (d.nanos * k) maxNanos := rfl

@[simp] theorem nanos_minus (d : Span) (n : Nat) : (d.minus n).nanos = d.nanos - n := rfl

@[simp] theorem nanos_ofMillis (ms : UInt64) : (ofMillis ms).nanos = ms.toNat * 1000000 := rfl

theorem le_def {a b : Span} : a ≤ b ↔ a.nanos ≤ b.nanos := Iff.rfl

theorem lt_def {a b : Span} : a < b ↔ a.nanos < b.nanos := Iff.rfl

@[simp] theorem nanos_min (a b : Span) : (min a b).nanos = min a.nanos b.nanos := by
  show (if a ≤ b then a else b).nanos = _
  simp only [le_def]
  split <;> omega

end Span

end BatchFetch
