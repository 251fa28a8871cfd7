import BatchFetch.Time.Span

/-! # Spans in words

A machine holds a span in two words: its whole seconds in 64 bits, and the nanoseconds beyond them in 32. Here the
operations on spans are done word by word. A number that its word cannot hold ends the computation with a fault, unless
the operation provides for it. None of the operations ends so, and each has the result of the same operation on spans. -/

namespace BatchFetch

/-- What ends a computation with words. -/
inductive Fault where
  /-- A word cannot hold a number. -/
  | overflow
  /-- A random number is wanted, and there is none to draw. -/
  | nothingToDraw
deriving DecidableEq, Repr

/-! ### Words -/

/-- A computation goes on with what its first step comes to. -/
theorem bind_of_ok {α β : Type} {x : Except Fault α} {a : α} (h : x = .ok a) (f : α → Except Fault β) :
    (x >>= f) = f a := by
  rw [h]
  rfl

namespace Word

/-- The number `n` below `size`, if it is below. -/
def fit? (size n : Nat) : Option (Fin size) := if h : n < size then some ⟨n, h⟩ else none

/-- The number `n`, which must be below `size`. -/
def hold (size n : Nat) : Except Fault (Fin size) := if h : n < size then .ok ⟨n, h⟩ else .error .overflow

/-- What `a` is more than `b`, which must not be larger. -/
def less (a b : Nat) : Except Fault Nat := if b ≤ a then .ok (a - b) else .error .overflow

/-- A sum of two numbers below `size` as a number below `size` and what is carried: one, or nothing. -/
def carry (size total : Nat) : Except Fault (Nat × Fin size) :=
  if h : total < size then .ok (0, ⟨total, h⟩)
  else do
    let rest ← less total size
    let n ← hold size rest
    return (1, n)

variable {size n m : Nat}

theorem fit?_of_lt (h : n < size) : fit? size n = some ⟨n, h⟩ := dif_pos h

theorem fit?_of_le (h : size ≤ n) : fit? size n = none := dif_neg (Nat.not_lt.mpr h)

theorem hold_of_lt (h : n < size) : hold size n = .ok ⟨n, h⟩ := dif_pos h

theorem less_of_le (h : m ≤ n) : less n m = .ok (n - m) := if_pos h

theorem carry_of_lt (hm : m < size) (hn : n < size) :
    carry size (m + n) = .ok ((m + n) / size, ⟨(m + n) % size, Nat.mod_lt _ (Nat.zero_lt_of_lt hm)⟩) := by
  unfold carry
  split
  · rename_i h
    simp only [Nat.div_eq_of_lt h, Nat.mod_eq_of_lt h]
  · rename_i h
    have hle : size ≤ m + n := Nat.le_of_not_lt h
    have rest : m + n - size < size := by omega
    have one : (m + n) / size = 1 := Nat.div_eq_of_lt_le (by omega) (by omega)
    have left : (m + n) % size = m + n - size := by rw [Nat.mod_eq_sub_mod hle, Nat.mod_eq_of_lt rest]
    simp only [one, left]
    rw [bind_of_ok (less_of_le hle), bind_of_ok (hold_of_lt rest)]
    rfl

/-- A sum fits if its first part and then the whole of it do. -/
theorem fit?_add (size m n : Nat) : ((fit? size m).bind fun s => fit? size (s.val + n)) = fit? size (m + n) := by
  by_cases h : m < size
  · rw [fit?_of_lt h, Option.bind_some]
  · rw [fit?_of_le (Nat.not_lt.mp h), Option.bind_none, fit?_of_le]
    exact Nat.le_trans (Nat.not_lt.mp h) (Nat.le_add_right ..)

end Word

namespace Span
open Word

/-- A span in words. -/
structure Words where
  seconds : Fin 0x10000000000000000
  subNanos : Fin 1000000000
deriving DecidableEq, Repr

/-- The words that hold a span. -/
def words (d : Span) : Words where
  seconds := ⟨d.seconds, by have := d.nanos_le; unfold seconds; omega⟩
  subNanos := ⟨d.subNanos, Nat.mod_lt _ (by decide)⟩

theorem words_eq_of {d : Span} {w : Words} (h : d.nanos = w.seconds * 1000000000 + w.subNanos) : d.words = w := by
  obtain ⟨⟨s, hs⟩, ⟨n, hn⟩⟩ := w
  simp only at h
  simp only [words, seconds, subNanos, Words.mk.injEq, Fin.mk.injEq]
  omega

theorem nanos_eq (d : Span) : d.nanos = d.words.seconds * 1000000000 + d.words.subNanos := by
  show d.nanos = d.nanos / 1000000000 * 1000000000 + d.nanos % 1000000000
  omega

/-- A span that is made of seconds and of further nanoseconds exists if the seconds fit their word, with those that the
    nanoseconds come to as well. -/
theorem words_ofNanos? (s n : Nat) :
    (ofNanos? (s * 1000000000 + n)).map words =
      ((fit? 0x10000000000000000 s).bind fun s => fit? 0x10000000000000000 (s.val + n / 1000000000)).map
        fun s => ⟨s, ⟨n % 1000000000, Nat.mod_lt _ (by decide)⟩⟩ := by
  rw [fit?_add]
  unfold ofNanos? maxNanos
  by_cases h : s + n / 1000000000 < 0x10000000000000000
  · have fits : s * 1000000000 + n ≤ 18446744073709551615999999999 := by omega
    rw [fit?_of_lt h, dif_pos fits, Option.map_some, Option.map_some]
    refine congrArg some (words_eq_of ?_)
    show s * 1000000000 + n = (s + n / 1000000000) * 1000000000 + n % 1000000000
    omega
  · have long : ¬s * 1000000000 + n ≤ 18446744073709551615999999999 := by omega
    rw [fit?_of_le (Nat.not_lt.mp h), dif_neg long, Option.map_none, Option.map_none]

theorem ofNanos_eq_getD (n : Nat) : ofNanos n = (ofNanos? n).getD longest := by
  unfold ofNanos ofNanos? longest
  split
  · rename_i h
    exact ext (Nat.min_eq_left h)
  · rename_i h
    exact ext (Nat.min_eq_right (Nat.le_of_not_le h))

namespace Words

instance : LE Words := ⟨fun v w => v.seconds < w.seconds ∨ v.seconds = w.seconds ∧ v.subNanos ≤ w.subNanos⟩

instance (v w : Words) : Decidable (v ≤ w) :=
  inferInstanceAs (Decidable (v.seconds < w.seconds ∨ v.seconds = w.seconds ∧ v.subNanos ≤ w.subNanos))

/-- The shorter of two spans; their seconds decide first. -/
def shorter (v w : Words) : Words := if v ≤ w then v else w

/-- So many milliseconds. -/
def ofMillis (ms : Fin 0x10000000000000000) : Except Fault Words := do
  let beyond ← hold 0x100000000 (ms.val % 1000 * 1000000)
  let n ← hold 1000000000 beyond.val
  return ⟨⟨ms.val / 1000, Nat.lt_of_le_of_lt (Nat.div_le_self ..) ms.isLt⟩, n⟩

/-- The whole milliseconds of a span. -/
def millis (w : Words) : Except Fault (Fin 0x100000000000000000000000000000000) := do
  let s ← hold 0x100000000000000000000000000000000 (w.seconds.val * 1000)
  hold 0x100000000000000000000000000000000 (s.val + w.subNanos.val / 1000000)

/-- `k` times a span, if there is one so long. The nanoseconds are multiplied in a word of 64 bits, and what they come to
    in seconds is carried. -/
def times? (w : Words) (k : Fin 0x100000000) : Except Fault (Option Words) := do
  let total ← hold 0x10000000000000000 (w.subNanos.val * k.val)
  return ((fit? 0x10000000000000000 (w.seconds.val * k.val)).bind fun s => fit? 0x10000000000000000 (s.val + total.val / 1000000000)).map
    fun s => ⟨s, ⟨total.val % 1000000000, Nat.mod_lt _ (by decide)⟩⟩

/-- `k` times a span, or the longest one. -/
def scale (w : Words) (k : Fin 0x100000000) : Except Fault Words := do
  let product ← w.times? k
  return product.getD longest.words

/-- A span and another one, if there is one so long. A second is carried if the nanoseconds come to it. -/
def plus? (v w : Words) : Except Fault (Option Words) :=
  match fit? 0x10000000000000000 (v.seconds.val + w.seconds.val) with
  | none => .ok none
  | some s => do
    let total ← hold 0x100000000 (v.subNanos.val + w.subNanos.val)
    let (carried, n) ← carry 1000000000 total.val
    return (fit? 0x10000000000000000 (s.val + carried)).map fun s => ⟨s, n⟩

end Words

/-! ### The operations agree -/

variable {d e : Span}

theorem words_le_iff : d.words ≤ e.words ↔ d ≤ e := by
  show d.words.seconds.val < e.words.seconds.val ∨
    d.words.seconds = e.words.seconds ∧ d.words.subNanos.val ≤ e.words.subNanos.val ↔ _
  have hd := d.words.subNanos.isLt
  have he := e.words.subNanos.isLt
  rw [le_def, nanos_eq d, nanos_eq e, Fin.ext_iff]
  omega

theorem shorter_words (d e : Span) : d.words.shorter e.words = (min d e).words := by
  show (if d.words ≤ e.words then d.words else e.words) = (if d ≤ e then d else e).words
  simp only [words_le_iff]
  split <;> rfl

theorem ofMillis_words (ms : Fin 0x10000000000000000) : Words.ofMillis ms = .ok (ofNanos (ms.val * 1000000)).words := by
  have held : ms.val % 1000 * 1000000 < 0x100000000 := by omega
  have below : ms.val % 1000 * 1000000 < 1000000000 := by omega
  have hnanos : (ofNanos (ms.val * 1000000)).nanos = ms.val / 1000 * 1000000000 + ms.val % 1000 * 1000000 := by
    rw [nanos_ofNanos]
    unfold maxNanos
    omega
  have hwords : (ofNanos (ms.val * 1000000)).words =
      ⟨⟨ms.val / 1000, Nat.lt_of_le_of_lt (Nat.div_le_self ..) ms.isLt⟩, ⟨ms.val % 1000 * 1000000, below⟩⟩ :=
    words_eq_of hnanos
  unfold Words.ofMillis
  rw [hwords, bind_of_ok (hold_of_lt held), bind_of_ok (hold_of_lt below)]
  rfl

theorem millis_lt (d : Span) : d.millis < 0x100000000000000000000000000000000 := by
  have := d.nanos_le
  unfold millis
  omega

theorem millis_words (d : Span) : d.words.millis = .ok ⟨d.millis, d.millis_lt⟩ := by
  have seconds : d.words.seconds.val * 1000 < 0x100000000000000000000000000000000 := by
    have := d.words.seconds.isLt
    omega
  have total : d.words.seconds.val * 1000 + d.words.subNanos.val / 1000000 = d.millis := by
    rw [millis, nanos_eq d]
    generalize d.words = w
    omega
  unfold Words.millis
  rw [bind_of_ok (hold_of_lt seconds)]
  simp only [total]
  exact hold_of_lt d.millis_lt

theorem times?_words (d : Span) (k : Fin 0x100000000) : d.words.times? k = .ok ((ofNanos? (d.nanos * k)).map words) := by
  rw [nanos_eq d]
  generalize d.words = w
  have held : w.subNanos.val * k.val < 0x10000000000000000 := by
    have := Nat.mul_lt_mul'' w.subNanos.isLt k.isLt
    omega
  rw [Nat.add_mul, Nat.mul_right_comm, words_ofNanos?]
  unfold Words.times?
  rw [bind_of_ok (hold_of_lt held)]
  rfl

theorem scale_words (d : Span) (k : Fin 0x100000000) : d.words.scale k = .ok (d.scale k).words := by
  unfold Words.scale
  rw [bind_of_ok (times?_words d k), Span.scale, ofNanos_eq_getD]
  cases ofNanos? (d.nanos * k) <;> rfl

theorem plus?_words (d e : Span) : d.words.plus? e.words = .ok ((d.add? e).map words) := by
  rw [add?, nanos_eq d, nanos_eq e, Nat.add_add_add_comm, ← Nat.add_mul, words_ofNanos?]
  generalize d.words = v
  generalize e.words = w
  have hv := v.subNanos.isLt
  have hw := w.subNanos.isLt
  have held : v.subNanos.val + w.subNanos.val < 0x100000000 := by omega
  unfold Words.plus?
  cases fit? 0x10000000000000000 (v.seconds.val + w.seconds.val) with
  | none => rfl
  | some s =>
    show (hold 0x100000000 (v.subNanos.val + w.subNanos.val) >>= _) = _
    rw [bind_of_ok (hold_of_lt held), bind_of_ok (carry_of_lt hv hw)]
    rfl

end Span

end BatchFetch
