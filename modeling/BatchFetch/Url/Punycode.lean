/-! # Punycode

A label of a domain name in ASCII. The ASCII characters of the label come first; each of the others is a
number in base 36, the distance from the place of insertion before it, where the places are counted
through all code points in ascending order. -/

namespace BatchFetch.Url.Punycode

/-! ### Digits -/

def digitChar (d : Nat) : Char := Char.ofNat (if d < 26 then 'a'.toNat + d else '0'.toNat + (d - 26))

def digit? (c : Char) : Option Nat :=
  if 'a' ≤ c ∧ c ≤ 'z' then some (c.toNat - 'a'.toNat)
  else if 'A' ≤ c ∧ c ≤ 'Z' then some (c.toNat - 'A'.toNat)
  else if '0' ≤ c ∧ c ≤ '9' then some (c.toNat - '0'.toNat + 26)
  else none

/-- The least digit at place `k` that does not end a number. -/
def threshold (bias k : Nat) : Nat := max 1 (min 26 (k - bias))

/-- How often a number can be divided until few digits are left, and what is left of it. -/
def scale (delta : Nat) : Nat × Nat :=
  if 455 < delta then
    let (n, rest) := scale (delta / 35)
    (n + 1, rest)
  else (0, delta)
termination_by delta
decreasing_by omega

/-- The bias after a number, when a label has `length` characters. -/
def adapt (delta length : Nat) (first : Bool) : Nat :=
  let delta := if first then delta / 700 else delta / 2
  let (n, rest) := scale (delta + delta / length)
  36 * n + 36 * rest / (rest + 38)

/-! ### Writing -/

def number (bias k q : Nat) : List Char :=
  let t := threshold bias k
  if q < t then [digitChar q]
  else digitChar (t + (q - t) % (36 - t)) :: number bias (k + 36) ((q - t) / (36 - t))
termination_by q
decreasing_by
  have : 1 ≤ threshold bias k := Nat.le_max_left ..
  exact Nat.lt_of_le_of_lt (Nat.div_le_self ..) (by omega)

/-- Writing in progress: the digits so far, the distance from the latest insertion, the bias, and the
    number of characters that are written. -/
structure Writing where
  digits : List Char := []
  delta : Nat := 0
  bias : Nat := 72
  written : Nat

/-- Passes one character of the label while those with code point `n` are written. -/
def Writing.pass (basic n : Nat) (w : Writing) (c : Char) : Writing :=
  if c.toNat < n then { w with delta := w.delta + 1 }
  else if c.toNat = n then
    { digits := w.digits ++ number w.bias 36 w.delta, delta := 0, written := w.written + 1
      bias := adapt w.delta (w.written + 1) (w.written == basic) }
  else w

/-- Writes the characters of a label with the code points `ns`, in ascending order; all below `from_` are
    written. -/
def Writing.all (basic : Nat) (label : List Char) (from_ : Nat) : List Nat → Writing → Writing
  | [], w => w
  | n :: ns, w =>
    let w := { w with delta := w.delta + (n - from_) * (w.written + 1) }
    let w := label.foldl (pass basic n) w
    all basic label (n + 1) ns { w with delta := w.delta + 1 }

/-- A label in ASCII, without the mark of such labels. -/
def encode (label : List Char) : List Char :=
  let basic := label.filter (·.toNat < 128)
  let others := ((label.map Char.toNat).filter (128 ≤ ·)).eraseDups.mergeSort (· ≤ ·)
  let w : Writing := Writing.all basic.length label 128 others { written := basic.length }
  basic ++ (if basic.isEmpty then [] else ['-']) ++ w.digits

/-! ### Reading -/

/-- Reading in progress: the label so far, the code point and the place of the latest insertion, and the
    bias; the number that is being read, its next place and the weight of that. -/
structure Reading where
  label : List Char
  codePoint : Nat := 128
  place : Nat := 0
  bias : Nat := 72
  delta : Nat := 0
  k : Nat := 36
  weight : Nat := 1

/-- Numbers from here on are too large. -/
def limit : Nat := 0x100000000

/-- Inserts the character that a number of distance `r.delta` stands for. -/
def Reading.insert? (r : Reading) : Option Reading :=
  let length := r.label.length + 1
  let place := r.place + r.delta
  let codePoint := r.codePoint + place / length
  if place < limit ∧ codePoint.isValidChar then
    some { label := r.label.insertIdx (place % length) (Char.ofNat codePoint), codePoint
           place := place % length + 1, bias := adapt r.delta length (r.place == 0) }
  else none

def Reading.digit? (r : Reading) (c : Char) : Option Reading := do
  let d ← Punycode.digit? c
  let t := threshold r.bias r.k
  let r := { r with delta := r.delta + d * r.weight }
  if d < t then r.insert?
  else if r.weight * (36 - t) < limit then
    some { r with weight := r.weight * (36 - t), k := r.k + 36 }
  else none

/-- The ASCII characters of a written label and the digits after the last hyphen. A hyphen that nothing
    precedes does not end the ASCII characters. -/
def split (cs : List Char) : List Char × List Char :=
  let digits := (cs.reverse.takeWhile (· != '-')).reverse
  let basic := cs.take (cs.length - digits.length - 1)
  if basic.isEmpty then ([], cs) else (basic, digits)

def decode? (cs : List Char) : Option (List Char) := do
  let (basic, digits) := split cs
  if basic.all (·.toNat < 128) then
    let r ← digits.foldlM Reading.digit? { label := basic }
    -- A number that is not finished has moved on to a later place.
    if r.k = 36 then some r.label else none
  else none

end BatchFetch.Url.Punycode
