import BatchFetch.Text.Decimal

/-! # Tables of code points

A table is written as a text of words. A word is a row of numbers in base sixteen with hyphens between
them; a row of one or two numbers is also a range of code points. -/

namespace BatchFetch.Unicode.Table

/-- The numbers of a word. -/
def row (word : List Char) : List Nat := (word.splitOn '-').map (Decimal.valueIn 16)

/-- The rows of a table. -/
def rows (text : String) : List (List Nat) :=
  ((text.toList.splitOnP Char.isWhitespace).filter (!·.isEmpty)).map row

/-- The ranges of a table: each row has the first and the last code point, or the only one. -/
def ranges (text : String) : List (Nat × Nat) :=
  (rows text).filterMap fun
    | [a] => some (a, a)
    | [a, b] => some (a, b)
    | _ => none

/-- Whether a code point lies in one of the ranges. -/
def mem (c : Nat) (rs : List (Nat × Nat)) : Bool := rs.any fun r => r.1 ≤ c && c ≤ r.2

/-- What follows a code point in the row that begins with it. -/
def row? (c : Nat) (rs : List (List Nat)) : Option (List Nat) :=
  rs.findSome? fun
    | x :: ts => if x = c then some ts else none
    | [] => none

end BatchFetch.Unicode.Table
