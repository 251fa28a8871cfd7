import BatchFetch.Number.Written

/-! # Reading numbers

Numbers as they are given on a command line: whole numbers of 32 or 64 bits, and double precision numbers
with or without a point and an exponent. Nothing may stand around a number. -/

namespace BatchFetch

/-- A whole number of 64 bits, which may have a plus sign. -/
def readUInt64? (s : String) : Option UInt64 :=
  let digits :=
    match s.toList with
    | '+' :: cs => cs
    | cs => cs
  match Decimal.read? digits with
  | some n => if n < 0x10000000000000000 then some (UInt64.ofNat n) else none
  | none => none

/-- A whole number of 32 bits, which may have a sign; with a minus only zero is one. -/
def readUInt32? (s : String) : Option UInt32 :=
  let (negative, digits) := Decimal.sign s.toList
  match Decimal.read? digits with
  | some n => if n < 0x100000000 ∧ (negative → n = 0) then some (UInt32.ofNat n) else none
  | none => none

namespace Binary64

/-- The exponent of ten that ends a number; without one it is zero. -/
def exponent? : List Char → Option Int
  | [] => some 0
  | c :: cs =>
    if c = 'e' ∨ c = 'E' then
      let (negative, digits) := Decimal.sign cs
      (Decimal.read? digits).map fun n => if negative then -n else n
    else none

/-- A number without its sign: digits, a point, more digits and an exponent. Digits may be missing on one
    side of the point, and the point and the exponent may be missing. -/
def readDecimal? (negative : Bool) (cs : List Char) : Option Binary64 :=
  let (whole, cs) := cs.span Decimal.isDigit
  let (fraction, cs) :=
    match cs with
    | '.' :: cs => cs.span Decimal.isDigit
    | cs => ([], cs)
  let digits := whole ++ fraction
  if digits.isEmpty then none
  else (exponent? cs).map fun e => ofDecimal negative (Decimal.value digits) (e - fraction.length)

/-- The number that a text writes; infinity and what is no number have names, in any case. -/
def read? (s : String) : Option Binary64 :=
  let (negative, cs) := Decimal.sign s.toList
  match String.ofList (cs.map Char.toLower) with
  | "inf" | "infinity" => some (infinity negative)
  | "nan" => some (if negative then nan.neg else nan)
  | _ => readDecimal? negative cs

end Binary64

end BatchFetch
