import BatchFetch.Number.Shortest
import BatchFetch.Time.Span

/-! # Written numbers

How a double precision number is written in messages and reports, and how one is read: the shortest
decimal without an exponent, a fixed number of places with ties to the even neighbour, and the
nearest number to a decimal. -/

namespace BatchFetch

def Scientific.text (x : Scientific) : String :=
  if 0 ≤ x.exponent then Decimal.text (x.digits * tenTo x.exponent.toNat)
  else
    let places := (-x.exponent).toNat
    Decimal.mixed (x.digits / tenTo places) places (x.digits % tenTo places)

namespace Binary64

/-- The shortest decimal that reads back as the number, without an exponent. -/
def text (x : Binary64) : String :=
  let sign := if x.negative then "-" else ""
  match x.view with
  | .nan => "NaN"
  | .infinite _ => sign ++ "inf"
  | .finite _ 0 => sign ++ "0"
  | .finite _ _ => sign ++ (Shortest.ofPositive x).text

/-- The exact value of a finite number with `places` digits after the point, a tie to the even
    neighbour. -/
def fixed (places : Nat) (x : Binary64) : String :=
  let sign := if x.negative then "-" else ""
  match x.view with
  | .nan => "NaN"
  | .infinite _ => sign ++ "inf"
  | .finite _ units =>
    let n := roundEven (units * tenTo places) Rounding.unitsPerOne
    let fraction := String.ofList (Decimal.padded places (n % tenTo places))
    sign ++ Decimal.text (n / tenTo places) ++ (if places = 0 then "" else "." ++ fraction)

/-- The number nearest to `digits * 10 ^ exponent`. Far outside the range of finite numbers the
    answer is settled by the count of digits alone, so that no huge power is formed. -/
def ofDecimal (negative : Bool) (digits : Nat) (exponent : Int) : Binary64 :=
  let magnitude : Int := (Decimal.digits digits).length + exponent
  if digits = 0 ∨ magnitude < -400 then ofFields negative 0
  else if 400 < magnitude then infinity negative
  else ofFraction negative (digits * tenTo exponent.toNat) (tenTo (-exponent).toNat)

end Binary64

/-- The seconds of a span, as the sum of its rounded whole seconds and its rounded fraction. -/
def Span.inSeconds (r : Rounding) (d : Span) : Rat :=
  r (r d.seconds + r (mkRat d.subNanos 1000000000))

/-- The seconds of a span as a double precision number. -/
def Span.asBinary64 (d : Span) : Binary64 := Binary64.ofRat (d.inSeconds .binary64)

end BatchFetch
