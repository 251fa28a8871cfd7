import BatchFetch.Text.Utf8
import BatchFetch.Unicode.Category
import BatchFetch.Unicode.DomainMapping
import BatchFetch.Unicode.Joining
import BatchFetch.Unicode.Normalization
import BatchFetch.Url.Bidi
import BatchFetch.Url.Percent
import BatchFetch.Url.Punycode

/-! # Domain names

A domain name is mapped to small letters in composed form and split into labels. A label with characters
beyond ASCII is written in ASCII after the mark `xn--`; one that comes with that mark has to be the
writing of such a label. -/

namespace BatchFetch.Url.Domain
open Unicode

/-- The mark of a label that is written in ASCII. -/
def mark : List Char := ['x', 'n', '-', '-']

/-- The longest label that is written in ASCII, and the longest writing that is read. -/
def longestLabel : Nat := 1000

/-- The longest writing of a label that is read. -/
def longestWriting : Nat := 2000

/-- A text in small letters and composed form; none if a character of it may not stand in a domain name. -/
def mapped? (cs : List Char) : Option (List Char) :=
  (cs.mapM DomainMapping.ofChar?).map fun xs => Normalization.normalize xs.flatten

def isAscii (c : Char) : Bool := c.toNat < 128

/-- Whether an ASCII character may not stand in a domain name. -/
def isForbidden (c : Char) : Bool := c.toNat ≤ 32 || c.toNat == 127 || Percent.among "%#/:<>?@[\\]^|" c

/-! ### Labels -/

/-- Whether the characters before an invisible one, the nearest first, join what comes after them. -/
def joinsAfter (before : List Char) : Bool :=
  (before.find? fun c => !Joining.isTransparent c.toNat).any fun c => Joining.joinsNext c.toNat

/-- Whether the characters after an invisible one join what comes before them. -/
def joinsBefore (after : List Char) : Bool :=
  (after.find? fun c => !Joining.isTransparent c.toNat).any fun c => Joining.joinsPrevious c.toNat

/-- Whether every invisible joiner stands after a virama, or, if it is one that separates, between
    letters that would be joined; `before` holds the characters before, the nearest first. -/
def joinersSound (before : List Char) : List Char → Bool
  | [] => true
  | c :: cs =>
    let afterVirama := before.head?.any fun b => Composition.combiningClass b.toNat == Composition.virama
    let sound :=
      if c = '\u200d' then afterVirama
      else if c = '\u200c' then afterVirama || (joinsAfter before && joinsBefore cs)
      else true
    sound && joinersSound (c :: before) cs

/-- Whether a label in composed form is sound: it does not begin with a mark, and its joiners are. -/
def isSound (label : List Char) : Bool :=
  !label.head?.any Category.isMark && joinersSound [] label

/-- The label that is meant by one in small letters and composed form. -/
def meant? (label : List Char) : Option (List Char) :=
  if mark.isPrefixOf label then
    let writing := label.drop mark.length
    if longestWriting < writing.length then none
    else
      match Punycode.decode? writing with
      | some l => if !l.all isAscii ∧ mapped? l = some l then some l else none
      | none => none
  else some label

def written? (label : List Char) : Option (List Char) :=
  if label.all isAscii then some label
  else if longestLabel < label.length then none
  else some (mark ++ Punycode.encode label)

/-! ### Names -/

/-- The labels of a domain name, as they are meant. -/
def labels? (cs : List Char) : Option (List (List Char)) := do
  let name ← mapped? cs
  if name.any isForbidden then none
  else
    let labels ← (name.splitOn '.').mapM meant?
    if labels.all isSound && Bidi.areSound labels then some labels else none

/-- The name of some labels, written in ASCII. -/
def join? (labels : List (List Char)) : Option (List Char) :=
  (labels.mapM written?).map (List.intercalate ['.'])

/-- Whether a name in small letters is written in ASCII as it is meant, so that none of its characters has to be looked
    up: it has no label with the mark. -/
def isPlain (name : List Char) : Bool :=
  name.all (fun c => isAscii c && !c.isUpper && !isForbidden c) && (name.splitOn '.').all (!mark.isPrefixOf ·)

def ascii? (cs : List Char) : Option (List Char) :=
  if isPlain (cs.map Char.toLower) then some (cs.map Char.toLower) else labels? cs >>= join?

/-- The domain name in ASCII that a text with encoded bytes stands for. -/
def read? (cs : List Char) : Option (List Char) := Utf8.decode? (Percent.decode cs) >>= ascii?

end BatchFetch.Url.Domain
