import BatchFetch.Unicode.Category

/-! # Quoted texts

A text in quotes for a diagnostic message, in which everything that is not plainly seen is escaped. -/

namespace BatchFetch.Quoted

def byCodePoint (c : Char) : List Char :=
  ['\\', 'u', '\x7b'] ++ Nat.toDigits 16 c.toNat ++ ['\x7d']

def escape (c : Char) : List Char :=
  if c = '\x00' then ['\\', '0']
  else if c = '\t' then ['\\', 't']
  else if c = '\r' then ['\\', 'r']
  else if c = '\n' then ['\\', 'n']
  else if c = '\\' ∨ c = '"' then ['\\', c]
  else if Unicode.Category.isExtending c || !Unicode.Category.isPrinted c then byCodePoint c
  else [c]

def text (s : String) : String := String.ofList ('"' :: s.toList.flatMap escape ++ ['"'])

end BatchFetch.Quoted
