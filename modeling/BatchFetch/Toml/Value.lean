import BatchFetch.Number.Binary64

/-! # TOML values

The values that a TOML document can hold. Of a date or time only that it is one is kept. -/

namespace BatchFetch

/-- A TOML value. -/
inductive Toml where
  | string (s : String)
  | integer (n : Int)
  | float (x : Binary64)
  | boolean (b : Bool)
  | dateTime
  | array (items : List Toml)
  | table (members : List (String × Toml))
deriving Repr

namespace Toml

/-- Reads something at the start of a text; what is left of the text comes with it. -/
abbrev Reader (α : Type) := List Char → Option (α × List Char)

/-- What is left of a text that begins with another one. -/
def dropPrefix? : List Char → List Char → Option (List Char)
  | [], cs => some cs
  | p :: ps, c :: cs => if p = c then dropPrefix? ps cs else none
  | _ :: _, [] => none

/-- Spaces and tabs. -/
def isBlank (c : Char) : Bool := c == ' ' || c == '\t'

/-- What is left of a text after the blanks at its start. -/
def skipBlanks (cs : List Char) : List Char := cs.dropWhile isBlank

/-- What is left of a text after the end of a line at its start. -/
def newline? : List Char → Option (List Char)
  | '\n' :: cs => some cs
  | '\r' :: '\n' :: cs => some cs
  | _ => none

/-- Whether a character may stand in a comment: a tab, or anything that is no control character. -/
def isText (c : Char) : Bool := c == '\t' || (32 ≤ c.toNat && c.toNat != 127)

end Toml

end BatchFetch
