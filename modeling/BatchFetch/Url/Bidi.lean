import BatchFetch.Unicode.Direction

/-! # Labels of two directions

In a domain name with a letter that is written from right to left, each label has to be of one direction,
told by its first character, so that the parts of the name keep their order on the page. -/

namespace BatchFetch.Url.Bidi
open Unicode

def classes (label : List Char) : List Direction := label.map fun c => .ofCodePoint c.toNat

/-- Whether a label makes its domain name one of two directions. -/
def isRightToLeft (label : List Char) : Bool :=
  (classes label).any [Direction.right, .arabicLetter, .arabicNumber].contains

/-- The last class of a label that is no nonspacing mark. -/
def last? (ds : List Direction) : Option Direction := ds.reverse.find? (· != .nonspacing)

/-- Classes that may stand in a label of either direction. -/
def neutral : List Direction :=
  [.europeanNumber, .europeanSeparator, .commonSeparator, .europeanTerminator, .otherNeutral,
    .boundaryNeutral, .nonspacing]

/-- Whether the classes are those of a label from right to left. -/
def isRight (ds : List Direction) : Bool :=
  ds.all ([Direction.right, .arabicLetter, .arabicNumber] ++ neutral).contains &&
    (last? ds).any [Direction.right, .arabicLetter, .europeanNumber, .arabicNumber].contains &&
    !(ds.contains .europeanNumber && ds.contains .arabicNumber)

/-- Whether the classes are those of a label from left to right. -/
def isLeft (ds : List Direction) : Bool :=
  ds.all (.left :: neutral).contains && (last? ds).any [Direction.left, .europeanNumber].contains

/-- Whether a label is of one direction; an empty one is. -/
def isSound (label : List Char) : Bool :=
  match classes label with
  | [] => true
  | .left :: ds => isLeft (.left :: ds)
  | .right :: ds => isRight (.right :: ds)
  | .arabicLetter :: ds => isRight (.arabicLetter :: ds)
  | _ => false

/-- Whether the labels of a domain name may stand together. -/
def areSound (labels : List (List Char)) : Bool :=
  !labels.any isRightToLeft || labels.all isSound

end BatchFetch.Url.Bidi
