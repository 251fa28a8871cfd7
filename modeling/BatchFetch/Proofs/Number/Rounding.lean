import BatchFetch.Number.Rounding
import Mathlib.Algebra.Order.Field.Basic
import Mathlib.Data.Rat.Cast.Order
import Mathlib.Tactic.Ring

/-! # Rounding and whole numbers

Whole numbers up to `2 ^ 53` are double precision numbers, so rounding does not carry a result across one of them.
The nearest whole number is never farther away than one half. -/

namespace BatchFetch

theorem twoTo_add (m n : Nat) : twoTo (m + n) = twoTo m * twoTo n := Nat.pow_add ..

theorem div_le_roundEven (a b : Nat) : a / b ≤ roundEven a b := by
  unfold roundEven
  dsimp only
  split
  · exact Nat.le_refl _
  · split
    · exact Nat.le_succ _
    · split
      · exact Nat.le_refl _
      · exact Nat.le_succ _

/-! ### The nearest whole number -/

section Nearest
variable {a b : Nat}

/-- The nearest whole number is at most one half away. -/
theorem roundEven_near (a : Nat) (hb : 0 < b) :
    2 * (b * roundEven a b) ≤ 2 * a + b ∧ 2 * a ≤ 2 * (b * roundEven a b) + b := by
  have hdiv : b * (a / b) + a % b = a := Nat.div_add_mod a b
  have hmod : a % b < b := Nat.mod_lt a hb
  have hsucc : b * (a / b + 1) = b * (a / b) + b := Nat.mul_succ ..
  unfold roundEven
  dsimp only
  split
  · omega
  · split
    · omega
    · split
      · omega
      · omega

/-- Half of one is rounded to nothing. -/
theorem roundEven_eq_zero_iff (hb : 0 < b) : roundEven a b = 0 ↔ 2 * a ≤ b := by
  refine ⟨fun h => ?_, fun h => ?_⟩
  · have := (roundEven_near a hb).2
    rw [h] at this
    omega
  · have hzero : a / b = 0 := Nat.div_eq_of_lt (by omega)
    have hmod : a % b = a := Nat.mod_eq_of_lt (by omega)
    unfold roundEven
    dsimp only
    rw [hzero, hmod]
    split
    · rfl
    · rw [if_neg (by omega), if_pos rfl]

end Nearest

namespace Rounding

section Significand
variable {a b k : Nat}

/-- A unit above the smallest one is that of a number with 53 significant bits. -/
theorem mul_twoTo_le (h : 0 < unitExponent a b) : b * twoTo (unitExponent a b + 52) ≤ a := by
  unfold unitExponent at h ⊢
  dsimp only at h ⊢
  by_cases hlt : a < b * twoTo (a.log2 - b.log2)
  · rw [if_pos hlt] at h ⊢
    have ha : a ≠ 0 := by
      rintro rfl
      simp at h
    have hexp : b.log2 + 1 + (a.log2 - b.log2 - 1 - 52 + 52) = a.log2 := by omega
    calc b * twoTo (a.log2 - b.log2 - 1 - 52 + 52)
        ≤ twoTo (b.log2 + 1) * twoTo (a.log2 - b.log2 - 1 - 52 + 52) := Nat.mul_le_mul_right _ Nat.lt_log2_self.le
      _ = twoTo a.log2 := by rw [← twoTo_add, hexp]
      _ ≤ a := Nat.log2_self_le ha
  · rw [if_neg hlt] at h ⊢
    have hexp : a.log2 - b.log2 - 52 + 52 = a.log2 - b.log2 := by omega
    rw [hexp]
    exact Nat.le_of_not_lt hlt

/-- Rounding does not go below a whole number that is small enough. -/
theorem mul_unitsPerOne_le_significand (hb : 0 < b) (hk : k ≤ twoTo 53) (h : k * unitsPerOne * b ≤ a) :
    k * unitsPerOne ≤ significand a b := by
  show _ ≤ roundEven a (b * twoTo (unitExponent a b)) * twoTo (unitExponent a b)
  generalize hp : unitExponent a b = p
  have hpos : 0 < b * twoTo p := Nat.mul_pos hb (twoTo_pos p)
  by_cases hsmall : p ≤ 1074
  · have hunits : unitsPerOne = twoTo (1074 - p) * twoTo p := by
      rw [← twoTo_add, Nat.sub_add_cancel hsmall]
      rfl
    have hfloor : k * twoTo (1074 - p) ≤ a / (b * twoTo p) := by
      rw [Nat.le_div_iff_mul_le hpos]
      calc k * twoTo (1074 - p) * (b * twoTo p) = k * (twoTo (1074 - p) * twoTo p) * b := by ring
        _ ≤ a := hunits ▸ h
    calc k * unitsPerOne = k * twoTo (1074 - p) * twoTo p := by rw [hunits, Nat.mul_assoc]
      _ ≤ roundEven a (b * twoTo p) * twoTo p := Nat.mul_le_mul_right _ (hfloor.trans (div_le_roundEven _ _))
  · have hlarge : b * twoTo (p + 52) ≤ a := hp ▸ mul_twoTo_le (by omega)
    have hfloor : twoTo 52 ≤ a / (b * twoTo p) := by
      rw [Nat.le_div_iff_mul_le hpos]
      calc twoTo 52 * (b * twoTo p) = b * (twoTo p * twoTo 52) := by ring
        _ ≤ a := twoTo_add p 52 ▸ hlarge
    calc k * unitsPerOne ≤ twoTo 53 * unitsPerOne := Nat.mul_le_mul_right _ hk
      _ = twoTo (53 + 1074) := by rw [twoTo_add, unitsPerOne]
      _ ≤ twoTo (52 + p) := twoTo_le (by omega)
      _ = twoTo 52 * twoTo p := twoTo_add 52 p
      _ ≤ roundEven a (b * twoTo p) * twoTo p := Nat.mul_le_mul_right _ (hfloor.trans (div_le_roundEven _ _))

end Significand

theorem natCast_le_binary64 {k : Nat} {x : Rat} (hk : k ≤ twoTo 53) (h : (k : Rat) ≤ x) : (k : Rat) ≤ binary64 x := by
  have hnum : 0 ≤ x.num := Rat.num_nonneg.mpr ((Nat.cast_nonneg k).trans h)
  have hmul : k * x.den ≤ x.num.natAbs := by
    have hden : (0 : Rat) < x.den := by exact_mod_cast x.den_pos
    have hle : (k : Rat) * x.den ≤ x.num := (le_div_iff₀ hden).mp (h.trans_eq (Rat.num_div_den x).symm)
    have hint : ((k * x.den : Nat) : Int) ≤ x.num := by exact_mod_cast hle
    omega
  have hunits : (0 : Rat) < (unitsPerOne : Nat) := by exact_mod_cast twoTo_pos 1074
  unfold binary64
  dsimp only
  rw [if_neg (Int.not_lt.mpr hnum), Rat.mkRat_eq_div, le_div_iff₀ hunits]
  have hscaled : k * unitsPerOne * x.den ≤ x.num.natAbs * unitsPerOne := by
    calc k * unitsPerOne * x.den = k * x.den * unitsPerOne := by ring
      _ ≤ x.num.natAbs * unitsPerOne := Nat.mul_le_mul_right _ hmul
  exact_mod_cast mul_unitsPerOne_le_significand x.den_pos hk hscaled

theorem binary64_nonneg {x : Rat} (h : 0 ≤ x) : 0 ≤ binary64 x := by
  exact_mod_cast natCast_le_binary64 (Nat.zero_le _) (h.trans_eq' Nat.cast_zero)

end Rounding

end BatchFetch
