import BatchFetch.Json.Value
import BatchFetch.Text.Decimal

/-! # Written JSON

A value is written over several lines, each item and member on lines of its own and two spaces further
in than what holds it; an empty list or object stays on one line. In texts only the quote, the
backslash and the characters below U+0020 are escaped. -/

namespace BatchFetch.Json

def hexDigit (n : Nat) : Char := (['0', '1', '2', '3', '4', '5', '6', '7', '8', '9',
  'a', 'b', 'c', 'd', 'e', 'f'][n]?).getD '0'

def escape (c : Char) : List Char :=
  if c = '"' then ['\\', '"']
  else if c = '\\' then ['\\', '\\']
  else if c = '\x08' then ['\\', 'b']
  else if c = '\t' then ['\\', 't']
  else if c = '\n' then ['\\', 'n']
  else if c = '\x0c' then ['\\', 'f']
  else if c = '\r' then ['\\', 'r']
  else if c.toNat < 32 then ['\\', 'u', '0', '0', hexDigit (c.toNat / 16), hexDigit (c.toNat % 16)]
  else [c]

def quote (s : String) : List Char := '"' :: s.toList.flatMap escape ++ ['"']

def indent (depth : Nat) : List Char := '\n' :: List.replicate (2 * depth) ' '

mutual

def write (depth : Nat) : Json → List Char
  | null => ['n', 'u', 'l', 'l']
  | number n => Decimal.digits n
  | text s => quote s
  | list [] => ['[', ']']
  | list (x :: xs) =>
    '[' :: (indent (depth + 1) ++ write (depth + 1) x ++ writeItems (depth + 1) xs) ++
      indent depth ++ [']']
  | object [] => ['{', '}']
  | object ((k, x) :: ms) =>
    '{' :: (indent (depth + 1) ++ quote k ++ [':', ' '] ++ write (depth + 1) x ++
      writeMembers (depth + 1) ms) ++ indent depth ++ ['}']

def writeItems (depth : Nat) : List Json → List Char
  | [] => []
  | x :: xs => ',' :: (indent depth ++ write depth x ++ writeItems depth xs)

def writeMembers (depth : Nat) : List (String × Json) → List Char
  | [] => []
  | (k, x) :: ms => ',' :: (indent depth ++ quote k ++ [':', ' '] ++ write depth x ++ writeMembers depth ms)

end

def document (x : Json) : String := String.ofList (x.write 0)

end BatchFetch.Json
