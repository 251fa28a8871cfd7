/-! # Decimal digits

Writing a natural number in decimal, and reading one back. Every number that the library prints or
reads in base ten goes through here: spans of time, reports, addresses, documents. -/

namespace BatchFetch.Decimal

/-- The decimal digits of a number, without leading zeros; zero is one digit. -/
def digits (n : Nat) : List Char := Nat.toDigits 10 n

def text (n : Nat) : String := String.ofList (digits n)

/-- A number in decimal, filled up with zeros on the left to `width` digits. -/
def padded (width n : Nat) : List Char :=
  List.replicate (width - (digits n).length) '0' ++ digits n

/-- A list of characters without the zeros at its end. -/
def dropFinalZeros (cs : List Char) : List Char := (cs.reverse.dropWhile (· == '0')).reverse

/-- The digits after the point of `n / 10 ^ width`, without the zeros at their end. -/
def fraction (width n : Nat) : List Char := dropFinalZeros (padded width n)

/-- `whole + n / 10 ^ width` in decimal; a fraction of zero is left out with its point. -/
def mixed (whole width n : Nat) : String :=
  match fraction width n with
  | [] => text whole
  | ds => text whole ++ "." ++ String.ofList ds

def digit? (c : Char) : Option Nat :=
  if '0' ≤ c ∧ c ≤ '9' then some (c.toNat - '0'.toNat) else none

/-- The digit that a character writes in bases up to sixteen, in either case. -/
def hexDigit? (c : Char) : Option Nat :=
  if '0' ≤ c ∧ c ≤ '9' then some (c.toNat - '0'.toNat)
  else if 'a' ≤ c ∧ c ≤ 'f' then some (c.toNat - 'a'.toNat + 10)
  else if 'A' ≤ c ∧ c ≤ 'F' then some (c.toNat - 'A'.toNat + 10)
  else none

/-- The number that a list of digits stands for in a base. -/
def valueOf (base : Nat) (ds : List Nat) : Nat := ds.foldl (fun n d => n * base + d) 0

/-- The number that a list of digits writes in a base; a character that is no digit counts as zero. -/
def valueIn (base : Nat) (cs : List Char) : Nat :=
  valueOf base (cs.map fun c => (hexDigit? c).getD 0)

/-- The number that a list of decimal digits writes. -/
def value (cs : List Char) : Nat := valueIn 10 cs

def isDigit (c : Char) : Bool := (digit? c).isSome

/-- Reads a number written with at least one digit and nothing else. -/
def read? (cs : List Char) : Option Nat :=
  if !cs.isEmpty && cs.all isDigit then some (value cs) else none

/-- The sign of a number, true for a minus, and what follows it; a number may have no sign. -/
def sign : List Char → Bool × List Char
  | '-' :: cs => (true, cs)
  | '+' :: cs => (false, cs)
  | cs => (false, cs)

end BatchFetch.Decimal
