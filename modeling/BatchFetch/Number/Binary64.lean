import BatchFetch.Number.Rounding

/-! # Double precision numbers

A `Binary64` is a number of the 64-bit binary interchange format, kept as its bits: a sign, eleven
bits of exponent and 52 bits of fraction. Its value is an exact rational; arithmetic is done on
rationals and rounded (`Rounding.binary64`). -/

namespace BatchFetch

/-- A number of the 64-bit binary interchange format. -/
structure Binary64 where
  bits : UInt64
deriving DecidableEq, Repr, Inhabited

namespace Binary64

/-- What the bits of a number stand for: a finite number is `units / 2 ^ 1074`. -/
inductive View where
  | nan
  | infinite (negative : Bool)
  | finite (negative : Bool) (units : Nat)
deriving DecidableEq, Repr

def negative (x : Binary64) : Bool := 0x8000000000000000 ≤ x.bits.toNat

def exponentField (x : Binary64) : Nat := x.bits.toNat / 0x10000000000000 % 0x800

def fractionField (x : Binary64) : Nat := x.bits.toNat % 0x10000000000000

/-- The significand: the fraction, with a leading one unless the exponent field is zero. -/
def significand (x : Binary64) : Nat :=
  if x.exponentField = 0 then x.fractionField else 0x10000000000000 + x.fractionField

/-- The exponent of the unit of the significand, counted from `2 ^ -1074`. -/
def unitExponent (x : Binary64) : Nat := x.exponentField - 1

def view (x : Binary64) : View :=
  if x.exponentField = 2047 then
    if x.fractionField = 0 then .infinite x.negative else .nan
  else .finite x.negative (x.significand * twoTo x.unitExponent)

def isNaN (x : Binary64) : Bool := x.view == .nan

/-- Whether the number is finite and above zero. -/
def isPositive (x : Binary64) : Bool :=
  match x.view with
  | .finite false units => units != 0
  | _ => false

def toRat? (x : Binary64) : Option Rat :=
  match x.view with
  | .finite neg units =>
    let m : Rat := mkRat units Rounding.unitsPerOne
    some (if neg then -m else m)
  | _ => none

/-- The number with a sign and the bits of a magnitude. -/
def ofFields (negative : Bool) (magnitude : Nat) : Binary64 :=
  ⟨UInt64.ofNat ((if negative then 0x8000000000000000 else 0) + magnitude)⟩

def infinity (negative : Bool) : Binary64 := ofFields negative 0x7ff0000000000000

def nan : Binary64 := ofFields false 0x7ff8000000000000

def neg (x : Binary64) : Binary64 := ofFields (!x.negative) (x.bits.toNat % 0x8000000000000000)

/-- The number nearest to `a / b`, of two that are equally near the one with an even significand;
    from halfway beyond the largest finite number on, infinity. -/
def ofFraction (negative : Bool) (a b : Nat) : Binary64 :=
  let scaled := a * Rounding.unitsPerOne
  let p := Rounding.unitExponent scaled b
  let m := roundEven scaled (b * twoTo p)
  -- The fields of `m * 2 ^ p`: adding `p * 2 ^ 52` also turns a carry into the next exponent.
  let magnitude := m + p * 0x10000000000000
  if magnitude < 0x7ff0000000000000 then ofFields negative magnitude else infinity negative

def ofRat (x : Rat) : Binary64 := ofFraction (x.num < 0) x.num.natAbs x.den

end Binary64

end BatchFetch
