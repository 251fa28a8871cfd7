import BatchFetch.Number.Binary64
import BatchFetch.Text.Decimal

/-! # Shortest decimals

The shortest decimal that reads back as a given double precision number. The reals that round to the
number form an interval around it, with its ends if and only if the significand is even. For 1, 2, …
digits the two neighbours of the number on that decimal grid are tried: the first grid with a point
in the interval gives the digits, and of two points the nearer one is taken, the larger on a tie. -/

namespace BatchFetch

/-- The number `digits * 10 ^ exponent`. -/
structure Scientific where
  digits : Nat
  exponent : Int
deriving DecidableEq, Repr

namespace Shortest

/-- The reals between `low / den` and `high / den`, with both ends or with none, around
    `value / den`. -/
structure Interval where
  low : Nat
  value : Nat
  high : Nat
  den : Nat
  closed : Bool
deriving Repr

/-- The interval of the reals that round to a positive finite number. -/
def interval (x : Binary64) : Interval :=
  let unit := twoTo x.unitExponent
  let value := 4 * (x.significand * unit)
  -- Below a power of two the numbers lie twice as dense as above it.
  let atPower := x.significand = 0x10000000000000 ∧ x.exponentField > 1
  { low := value - (if atPower then unit else 2 * unit), value, high := value + 2 * unit,
    den := 4 * Rounding.unitsPerOne, closed := x.significand % 2 = 0 }

def Interval.holds (i : Interval) (n : Nat) (k : Int) : Bool :=
  let point := n * i.den * tenTo k.toNat
  let scale := tenTo (-k).toNat
  if i.closed then decide (i.low * scale ≤ point ∧ point ≤ i.high * scale)
  else decide (i.low * scale < point ∧ point < i.high * scale)

/-- The greatest `e` with `10 ^ e ≤ a / b`, for positive numbers. -/
def decimalExponent (a b : Nat) : Int :=
  if b ≤ a then ((Decimal.digits (a / b)).length : Int) - 1
  else -((Decimal.digits ((a - 1 + b) / a - 1)).length : Int)

/-- The point of the grid `10 ^ k` that is taken for an interval, if one of the two neighbours of its
    value lies in it. -/
def Interval.onGrid? (i : Interval) (k : Int) : Option Scientific :=
  let num := i.value * tenTo (-k).toNat
  let den := i.den * tenTo k.toNat
  let below := num / den
  let above := below + 1
  match i.holds below k, i.holds above k with
  | true, true => some ⟨if 2 * (num % den) < den then below else above, k⟩
  | true, false => some ⟨below, k⟩
  | false, true => some ⟨above, k⟩
  | false, false => none

/-- The shortest decimal of a positive finite number. Seventeen digits always suffice. -/
def ofPositive (x : Binary64) : Scientific :=
  let i := interval x
  let e := decimalExponent i.value i.den
  ((List.range 17).findSome? fun (n : Nat) => i.onGrid? (e - n)).getD ⟨i.value / i.den, 0⟩

end Shortest

end BatchFetch
