import BatchFetch.Unicode.Composition

/-! # Normalization of text

The normal form of a text in which characters are composed: each is taken apart, marks are put in order,
and letters are composed with marks again. The syllables of Hangul are composed by arithmetic, all others
by table. -/

namespace BatchFetch.Unicode.Normalization

/-! ### Hangul -/

/-- The first syllable. -/
def firstSyllable : Nat := 0xac00

/-- The number of syllables. -/
def syllables : Nat := 11172

/-- The letters of which a syllable consists. -/
def letters (s : Nat) : List Nat :=
  let i := s - firstSyllable
  [0x1100 + i / 588, 0x1161 + i % 588 / 28] ++ (if i % 28 = 0 then [] else [0x11a7 + i % 28])

/-- The syllable of a leading consonant and a vowel, or of a syllable without a final consonant and such
    a consonant. -/
def syllable? (a b : Nat) : Option Nat :=
  if 0x1100 ≤ a ∧ a < 0x1113 ∧ 0x1161 ≤ b ∧ b < 0x1176 then
    some (firstSyllable + ((a - 0x1100) * 21 + (b - 0x1161)) * 28)
  else if firstSyllable ≤ a ∧ a < firstSyllable + syllables ∧ (a - firstSyllable) % 28 = 0 ∧
      0x11a7 < b ∧ b < 0x11c3 then
    some (a + (b - 0x11a7))
  else none

/-! ### Taking apart, ordering, composing -/

/-- The deepest composition in the table has this many levels. -/
def levels : Nat := 8

/-- The parts of a code point that cannot be taken apart any further. -/
def decompose : Nat → Nat → List Nat
  | 0, c => [c]
  | level + 1, c =>
    if firstSyllable ≤ c ∧ c < firstSyllable + syllables then letters c
    else
      match Composition.parts? c with
      | some (a, b) => decompose level a ++ [b]
      | none => [c]

/-- Whether a code point is a mark that takes part in ordering. -/
def isMark (c : Nat) : Bool := Composition.combiningClass c != 0

/-- Puts the marks between two letters in order of their classes; equal ones keep their order. -/
def order (marks : List Nat) : List Nat → List Nat
  | [] => sorted marks
  | c :: cs => if isMark c then order (marks ++ [c]) cs else sorted marks ++ c :: order [] cs
where
  sorted (ms : List Nat) : List Nat :=
    ms.mergeSort fun a b => Composition.combiningClass a ≤ Composition.combiningClass b

/-- The character that two code points compose. -/
def pair? (a b : Nat) : Option Nat := (syllable? a b).or (Composition.compose? a b)

/-- Whether a mark is kept from a letter by the marks between them. -/
def isBlocked (marks : List Nat) (c : Nat) : Bool :=
  match marks.getLast? with
  | some m => Composition.combiningClass c ≤ Composition.combiningClass m
  | none => false

/-- Composes a letter with what follows the marks that it could not be composed with. -/
def compose (letter : Nat) (marks : List Nat) : List Nat → List Nat
  | [] => letter :: marks
  | c :: cs =>
    match if isBlocked marks c then none else pair? letter c with
    | some x => compose x marks cs
    | none => if isMark c then compose letter (marks ++ [c]) cs else letter :: marks ++ compose c [] cs

/-- The composed normal form of a list of code points. -/
def composed (cs : List Nat) : List Nat :=
  match order [] (cs.flatMap (decompose levels)) with
  | [] => []
  | c :: rest => compose c [] rest

/-- The composed normal form of a text. -/
def normalize (cs : List Char) : List Char := (composed (cs.map Char.toNat)).map Char.ofNat

end BatchFetch.Unicode.Normalization
