import BatchFetch.Text.Decimal

/-! # Addresses of eight groups

An address is written as eight numbers in base sixteen with colons between them. One run of zeros may be
left out between two colons, and the last two groups may be written as four bytes in base ten. -/

namespace BatchFetch.Url.Ipv6

def group? (cs : List Char) : Option Nat :=
  if 0 < cs.length ∧ cs.length ≤ 4 ∧ cs.all fun c => (Decimal.hexDigit? c).isSome then
    some (Decimal.valueIn 16 cs)
  else none

/-- Reads a byte in base ten without leading zeros. -/
def byte? (cs : List Char) : Option Nat :=
  match Decimal.read? cs with
  | some n => if n < 256 ∧ Decimal.digits n = cs then some n else none
  | none => none

/-- Reads two groups that are written as four bytes. -/
def dotted? (cs : List Char) : Option (List Nat) :=
  match (cs.splitOn '.').mapM byte? with
  | some [a, b, c, d] => some [256 * a + b, 256 * c + d]
  | _ => none

def last? (cs : List Char) : Option (List Nat) :=
  match group? cs with
  | some g => some [g]
  | none => dotted? cs

/-- Reads groups with colons between them, the last of which `last` reads. -/
def groups? (last : List Char → Option (List Nat)) (cs : List Char) : Option (List Nat) :=
  let pieces := cs.splitOn ':'
  match pieces.dropLast.mapM group?, pieces.getLast?.bind last with
  | some gs, some end_ => some (gs ++ end_)
  | _, _ => none

/-- The same, where there may be no groups at all. -/
def groupsOrNone? (last : List Char → Option (List Nat)) (cs : List Char) : Option (List Nat) :=
  if cs.isEmpty then some [] else groups? last cs

/-- Splits a text at its first two colons in a row. -/
def splitGap : List Char → Option (List Char × List Char)
  | ':' :: ':' :: rest => some ([], rest)
  | c :: rest => (splitGap rest).map fun (a, b) => (c :: a, b)
  | [] => none

def read? (cs : List Char) : Option (List Nat) :=
  match splitGap cs with
  | some (left, right) =>
    match groupsOrNone? (fun g => (group? g).map ([·])) left, groupsOrNone? last? right with
    | some a, some b =>
      if a.length + b.length < 8 then some (a ++ List.replicate (8 - a.length - b.length) 0 ++ b) else none
    | _, _ => none
  | none =>
    match groups? last? cs with
    | some gs => if gs.length = 8 then some gs else none
    | none => none

def zeros (gs : List Nat) : Nat := (gs.takeWhile (· == 0)).length

/-- Where the first of the longest runs of zeros begins, and how long it is. -/
def longestGap : List Nat → Nat × Nat
  | [] => (0, 0)
  | g :: gs =>
    let here := zeros (g :: gs)
    let (i, n) := longestGap gs
    if n ≤ here then (0, here) else (i + 1, n)

def joined (gs : List Nat) : List Char := List.intercalate [':'] (gs.map (Nat.toDigits 16))

/-- An address, in which the longest run of zeros is left out if it has at least two. -/
def text (gs : List Nat) : List Char :=
  let (i, n) := longestGap gs
  if n < 2 then joined gs else joined (gs.take i) ++ [':', ':'] ++ joined (gs.drop (i + n))

end BatchFetch.Url.Ipv6
