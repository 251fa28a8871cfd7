import BatchFetch.Number.Power

/-! # Rounding

`Nat.roundEven a b` is the whole number nearest to `a / b`, the even one of two that are equally near.
A `Rounding` says what an arithmetic operation makes of its exact result: `exact` keeps it, `binary64`
takes the nearest number with a significand of 53 bits whose unit is at least `2 ^ -1074`. -/

namespace BatchFetch

/-- The whole number nearest to `a / b`; of two that are equally near, the even one. -/
def roundEven (a b : Nat) : Nat :=
  let q := a / b
  let r := a % b
  if 2 * r < b then q
  else if b < 2 * r then q + 1
  else if q % 2 = 0 then q else q + 1

/-- What an arithmetic operation makes of its exact result. -/
abbrev Rounding := Rat → Rat

namespace Rounding

/-- Every result is kept as it is. -/
def exact : Rounding := id

/-- The exponent of the unit of the last place of `a / b`, for a significand of 53 bits. -/
def unitExponent (a b : Nat) : Nat :=
  let e := a.log2 - b.log2
  -- `a / b` lies in `[2 ^ (e - 1), 2 ^ (e + 1))`, so one comparison settles its logarithm.
  (if a < b * twoTo e then e - 1 else e) - 52

/-- `a / b` rounded to a significand of 53 bits, or to a whole number if that is coarser. -/
def significand (a b : Nat) : Nat :=
  let p := unitExponent a b
  roundEven a (b * twoTo p) * twoTo p

/-- The unit of the smallest positive number, `2 ^ 1074` of which make one. -/
def unitsPerOne : Nat := twoTo 1074

/-- Every result is rounded to 53 significant bits, or to a multiple of `2 ^ -1074` if that is
    coarser; a tie goes to the even significand. There is no largest number. -/
def binary64 : Rounding := fun x =>
  let m : Rat := mkRat (significand (x.num.natAbs * unitsPerOne) x.den) unitsPerOne
  if x.num < 0 then -m else m

end Rounding

end BatchFetch
