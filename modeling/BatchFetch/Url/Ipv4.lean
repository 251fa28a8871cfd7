import BatchFetch.Number.Power
import BatchFetch.Text.Decimal

/-! # Addresses of four bytes

An address is written as up to four numbers with dots between them, each in base ten, eight or sixteen.
The last number fills all bytes that the others leave. -/

namespace BatchFetch.Url.Ipv4

/-- The digits of a number in a base that is told by how it begins; a lone `0x` has none. -/
def digits : List Char → Nat × List Char
  | '0' :: 'x' :: cs => (16, cs)
  | '0' :: 'X' :: cs => (16, cs)
  | '0' :: c :: cs => (8, c :: cs)
  | cs => (10, cs)

/-- Reads a number of any size; without digits after `0x` it is zero. -/
def number? (part : List Char) : Option Nat :=
  if part.isEmpty then none
  else
    let (base, ds) := digits part
    if ds.all fun c => (Decimal.hexDigit? c).any (· < base) then some (Decimal.valueIn base ds) else none

/-- The parts of a host between its dots, without an empty last one. -/
def parts (host : List Char) : List (List Char) :=
  let ps := host.splitOn '.'
  if ps.getLast? = some [] then ps.dropLast else ps

/-- Whether the last part of a host is a number, so that the host has to be an address. -/
def endsInNumber (host : List Char) : Bool :=
  match (parts host).getLast? with
  | some last => (!last.isEmpty && last.all Decimal.isDigit) || (number? last).isSome
  | none => false

def assemble? (numbers : List Nat) : Option Nat :=
  match numbers.reverse with
  | [] => none
  | last :: others =>
    if others.length < 4 ∧ others.all (· < 256) ∧ last < twoTo (8 * (4 - others.length)) then
      some (Decimal.valueOf 256 others.reverse * twoTo (8 * (4 - others.length)) + last)
    else none

def read? (host : List Char) : Option Nat := (parts host).mapM number? >>= assemble?

def bytes (address : Nat) : List Nat :=
  [address / 0x1000000 % 256, address / 0x10000 % 256, address / 256 % 256, address % 256]

def text (address : Nat) : List Char :=
  List.intercalate ['.'] ((bytes address).map Decimal.digits)

end BatchFetch.Url.Ipv4
