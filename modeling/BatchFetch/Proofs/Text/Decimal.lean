import BatchFetch.Text.Decimal
import Mathlib.Algebra.Ring.Nat
import Mathlib.Data.List.Basic

/-! # Numbers and their digits

The digits of a number are decimal digits without a zero before them, and they write the number. -/

namespace BatchFetch.Decimal

variable {n base : Nat} {c : Char} {ds : List Char}

/-! ### Digits of a base -/

theorem hexDigit?_digitChar : ∀ d < 16, hexDigit? d.digitChar = some d := by decide

theorem exists_of_mem_toDigits (hbase : 1 < base) (h : c ∈ Nat.toDigits base n) : ∃ d < base, c = d.digitChar := by
  induction n using Nat.strongRecOn with
  | ind n ih =>
    rw [Nat.toDigits_eq_if hbase] at h
    split at h
    · rename_i small
      exact ⟨n, small, List.mem_singleton.mp h⟩
    · rename_i large
      rcases List.mem_append.mp h with h | h
      · exact ih (n / base) (Nat.div_lt_self (by omega) hbase) h
      · exact ⟨n % base, Nat.mod_lt n (by omega), List.mem_singleton.mp h⟩

theorem valueIn_append_singleton (base : Nat) (ds : List Char) (c : Char) :
    valueIn base (ds ++ [c]) = valueIn base ds * base + (hexDigit? c).getD 0 := by
  unfold valueIn valueOf
  rw [List.map_append, List.foldl_append]
  rfl

/-- The digits of a number write it. -/
theorem valueIn_toDigits (hbase : 1 < base) (small : base ≤ 16) (n : Nat) : valueIn base (Nat.toDigits base n) = n := by
  have digit (d : Nat) (h : d < base) : (hexDigit? d.digitChar).getD 0 = d := by
    rw [hexDigit?_digitChar d (Nat.lt_of_lt_of_le h small), Option.getD_some]
  induction n using Nat.strongRecOn with
  | ind n ih =>
    rw [Nat.toDigits_eq_if hbase]
    split
    · rename_i h
      have := valueIn_append_singleton base [] n.digitChar
      rw [digit n h] at this
      exact this.trans (by simp [valueIn, valueOf])
    · rename_i h
      rw [valueIn_append_singleton, ih (n / base) (Nat.div_lt_self (by omega) hbase), digit _ (Nat.mod_lt n (by omega))]
      exact Nat.div_add_mod' n base

/-! ### Decimal digits -/

theorem isDigit_of_mem_digits (h : c ∈ digits n) : c.isDigit = true :=
  Nat.isDigit_of_mem_toDigits (by decide) (by decide) h

theorem digits_ne_nil (n : Nat) : digits n ≠ [] := Nat.toDigits_ne_nil

theorem isDigit_iff : c.isDigit = true ↔ '0' ≤ c ∧ c ≤ '9' := by
  unfold Char.isDigit
  rw [Bool.and_eq_true, decide_eq_true_iff, decide_eq_true_iff]
  exact Iff.rfl

theorem isDigit_eq (c : Char) : isDigit c = c.isDigit := by
  unfold isDigit digit?
  rw [Bool.eq_iff_iff, isDigit_iff]
  split <;> simp [*]

/-- What holds of the ten digits holds of every character that is one. -/
theorem of_isDigit {p : Char → Prop} (h : c.isDigit = true) (digits : ∀ d < 10, p (Char.ofNat (48 + d))) : p c := by
  obtain ⟨low, high⟩ := isDigit_iff.mp h
  have low : 48 ≤ c.toNat := low
  have high : c.toNat ≤ 57 := high
  have hp := digits (c.toNat - 48) (by omega)
  rwa [Nat.add_sub_cancel' low, Char.ofNat_toNat] at hp

@[simp] theorem value_digits (n : Nat) : value (digits n) = n := valueIn_toDigits (by decide) (by decide) n

theorem digits_injective : Function.Injective digits := Function.LeftInverse.injective value_digits

/-- Only zero has a digit zero before all others. -/
theorem digits_of_head_zero (h : (digits n).head? = some '0') : digits n = ['0'] := by
  induction n using Nat.strongRecOn with
  | ind n ih =>
    unfold digits at h ih ⊢
    rw [Nat.toDigits_eq_if (by decide)] at h ⊢
    split at h
    · rename_i small
      rw [if_pos small]
      exact congrArg (· :: []) (Option.some.inj h)
    · rename_i large
      have hne : n / 10 ≠ 0 := by omega
      rw [List.head?_append_of_ne_nil _ Nat.toDigits_ne_nil] at h
      have hzero := congrArg value (ih (n / 10) (by omega) h)
      rw [← digits, value_digits] at hzero
      exact absurd hzero hne

/-! ### Bounds -/

theorem foldl_digit_lt {base n : Nat} {ds : List Nat} (h : ∀ d ∈ ds, d < base) :
    ds.foldl (fun n d => n * base + d) n < (n + 1) * base ^ ds.length := by
  induction ds generalizing n with
  | nil => simp
  | cons d ds ih =>
    obtain ⟨hd, hds⟩ := List.forall_mem_cons.mp h
    calc ds.foldl (fun n d => n * base + d) (n * base + d)
        < (n * base + d + 1) * base ^ ds.length := ih hds
      _ ≤ ((n + 1) * base) * base ^ ds.length := Nat.mul_le_mul_right _ (by rw [Nat.add_mul, Nat.one_mul]; omega)
      _ = (n + 1) * base ^ (d :: ds).length := by rw [List.length_cons, Nat.pow_succ', Nat.mul_assoc]

theorem valueOf_lt (base : Nat) (ds : List Nat) (h : ∀ d ∈ ds, d < base) : valueOf base ds < base ^ ds.length := by
  have := foldl_digit_lt (n := 0) h
  rwa [Nat.zero_add, Nat.one_mul] at this

theorem hexDigit?_lt {d : Nat} (h : hexDigit? c = some d) : d < 16 := by
  have zero : '0'.toNat = 48 := rfl
  have smallA : 'a'.toNat = 97 := rfl
  have largeA : 'A'.toNat = 65 := rfl
  unfold hexDigit? at h
  split at h
  · rename_i hc
    have : c.toNat ≤ 57 := hc.2
    cases h
    omega
  · split at h
    · rename_i hc
      have : c.toNat ≤ 102 := hc.2
      cases h
      omega
    · split at h
      · rename_i hc
        have : c.toNat ≤ 70 := hc.2
        cases h
        omega
      · cases h

theorem valueIn_lt (cs : List Char) : valueIn 16 cs < 16 ^ cs.length := by
  have := valueOf_lt 16 (cs.map fun c => (hexDigit? c).getD 0) fun d hd => by
    obtain ⟨c, -, rfl⟩ := List.mem_map.mp hd
    cases h : hexDigit? c with
    | none => decide
    | some d => exact hexDigit?_lt h
  rwa [List.length_map] at this

end BatchFetch.Decimal
