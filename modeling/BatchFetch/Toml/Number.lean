import BatchFetch.Number.Written
import BatchFetch.Toml.Value

/-! # TOML numbers

Integers have 64 bits with a sign and are written in base ten, sixteen, eight or two. A float has a
fraction or an exponent. Single underscores may stand between digits. -/

namespace BatchFetch.Toml.Read

def moreDigits (isDigit : Char → Bool) : Reader (List Char)
  | '_' :: cs =>
    match cs with
    | c :: cs => if isDigit c then (moreDigits isDigit cs).map fun (ds, rest) => (c :: ds, rest) else none
    | [] => none
  | c :: cs =>
    if isDigit c then (moreDigits isDigit cs).map fun (ds, rest) => (c :: ds, rest) else some ([], c :: cs)
  | [] => some ([], [])

def someDigits (isDigit : Char → Bool) : Reader (List Char)
  | c :: cs => if isDigit c then (moreDigits isDigit cs).map fun (ds, rest) => (c :: ds, rest) else none
  | [] => none

/-- Reads digits in base ten that do not begin with zero, or a single zero. -/
def wholeDigits : Reader (List Char)
  | '0' :: cs => some (['0'], cs)
  | cs => someDigits Decimal.isDigit cs

def integer? (negative : Bool) (n : Nat) : Option Toml :=
  if negative then if n ≤ 0x8000000000000000 then some (.integer (-n)) else none
  else if n < 0x8000000000000000 then some (.integer n) else none

/-- Reads an integer in another base than ten, after what tells the base. -/
def based (base : Nat) : Reader Toml := fun cs => do
  let (ds, rest) ← someDigits (fun c => (Decimal.hexDigit? c).any (· < base)) cs
  let n ← integer? false (Decimal.valueIn base ds)
  some (n, rest)

def exponent : Reader (Option Int)
  | c :: cs => do
    if c = 'e' ∨ c = 'E' then
      let (negative, cs) := Decimal.sign cs
      let (ds, rest) ← someDigits Decimal.isDigit cs
      let n := Decimal.value ds
      some (some (if negative then -n else n), rest)
    else some (none, c :: cs)
  | [] => some (none, [])

/-- Reads the digits after a point, if there is one. -/
def fraction : Reader (List Char)
  | '.' :: cs => someDigits Decimal.isDigit cs
  | cs => some ([], cs)

/-- The float of a decimal; one that is too large is refused, but not a negative one. -/
def float? (negative : Bool) (digits : Nat) (exponent : Int) : Option Toml :=
  let x := Binary64.ofDecimal negative digits exponent
  if x = Binary64.infinity false then none else some (.float x)

def decimal : Reader Toml := fun cs => do
  let (negative, cs) := Decimal.sign cs
  let (whole, cs) ← wholeDigits cs
  let (fraction, cs) ← fraction cs
  let (exponent, rest) ← exponent cs
  if fraction.isEmpty ∧ exponent.isNone then
    let n ← integer? negative (Decimal.value whole)
    some (n, rest)
  else
    let x ← float? negative (Decimal.value (whole ++ fraction)) (exponent.getD 0 - fraction.length)
    some (x, rest)

def special : Reader Toml := fun cs =>
  let (negative, cs) := Decimal.sign cs
  match cs with
  | 'i' :: 'n' :: 'f' :: rest => some (.float (.infinity negative), rest)
  | 'n' :: 'a' :: 'n' :: rest => some (.float (if negative then Binary64.nan.neg else .nan), rest)
  | _ => none

def number : Reader Toml
  | '0' :: 'x' :: cs => based 16 cs
  | '0' :: 'o' :: cs => based 8 cs
  | '0' :: 'b' :: cs => based 2 cs
  | cs => (special cs).or (decimal cs)

end BatchFetch.Toml.Read
