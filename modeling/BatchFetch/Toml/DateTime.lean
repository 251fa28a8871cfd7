import BatchFetch.Text.Decimal
import BatchFetch.Toml.Value

/-! # TOML dates and times

A date, a time of day, or both with or without the distance from universal time. -/

namespace BatchFetch.Toml.Read

/-- Reads a number of `n` digits between two bounds. -/
def boundedDigits (n low high : Nat) : Reader Nat := fun cs =>
  let ds := cs.take n
  if ds.length = n ∧ ds.all Decimal.isDigit ∧ low ≤ Decimal.value ds ∧ Decimal.value ds ≤ high then
    some (Decimal.value ds, cs.drop n)
  else none

/-- What is left of a text that begins with a character. -/
def char? (c : Char) (cs : List Char) : Option (List Char) := dropPrefix? [c] cs

def isLeap (year : Nat) : Bool := year % 4 == 0 && (year % 100 != 0 || year % 400 == 0)

def days (year month : Nat) : Nat :=
  if month = 2 then if isLeap year then 29 else 28
  else if month ∈ [4, 6, 9, 11] then 30
  else 31

def date? (cs : List Char) : Option (List Char) := do
  let (year, cs) ← boundedDigits 4 0 9999 cs
  let cs ← char? '-' cs
  let (month, cs) ← boundedDigits 2 1 12 cs
  let cs ← char? '-' cs
  let (_, rest) ← boundedDigits 2 1 (days year month) cs
  some rest

/-- What is left of a text after the fraction of a second, if there is one. -/
def secondFraction? : List Char → Option (List Char)
  | '.' :: cs => if cs.head?.any Decimal.isDigit then some (cs.dropWhile Decimal.isDigit) else none
  | cs => some cs

/-- What is left of a text after hours and minutes. -/
def hourMinute? (cs : List Char) : Option (List Char) := do
  let (_, cs) ← boundedDigits 2 0 23 cs
  let cs ← char? ':' cs
  let (_, rest) ← boundedDigits 2 0 59 cs
  some rest

/-- What is left of a text after a time of day. -/
def time? (cs : List Char) : Option (List Char) := do
  let cs ← hourMinute? cs
  let cs ← char? ':' cs
  let (_, cs) ← boundedDigits 2 0 60 cs
  secondFraction? cs

/-- What is left of a text after the distance from universal time, if there is one. -/
def offset? : List Char → Option (List Char)
  | 'Z' :: cs => some cs
  | 'z' :: cs => some cs
  | '+' :: cs => hourMinute? cs
  | '-' :: cs => hourMinute? cs
  | cs => some cs

/-- What is left of a text after the time of day that belongs to a date, if there is one. -/
def timeOfDate? : List Char → Option (List Char)
  | c :: cs =>
    if c = 'T' ∨ c = 't' ∨ c = ' ' then
      match time? cs with
      | some rest => offset? rest
      | none => some (c :: cs)
    else some (c :: cs)
  | [] => some []

def dateTime : Reader Toml := fun cs =>
  ((date? cs).bind timeOfDate?).or (time? cs) |>.map fun rest => (.dateTime, rest)

end BatchFetch.Toml.Read
