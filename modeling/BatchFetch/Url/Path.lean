import BatchFetch.Url.Percent

/-! # Paths

A path is a list of segments. Segments of one dot are left out, and one of two dots takes the segment
before it away; the dots may be encoded. -/

namespace BatchFetch.Url.Path

def isDot (s : List Char) : Bool := ["." , "%2e"].contains (String.ofList s).toLower

def isDoubleDot (s : List Char) : Bool :=
  ["..", "%2e.", ".%2e", "%2e%2e"].contains (String.ofList s).toLower

/-- Whether a segment names a drive, as paths of files may begin: a letter and a colon or a bar. -/
def isDrive : List Char → Bool
  | [a, b] => a.isAlpha && (b == ':' || b == '|')
  | _ => false

/-- Adds a segment to those before it, the latest first; after the last one no slash follows. -/
def add (before : List (List Char)) (s : List Char) (last : Bool) : List (List Char) :=
  if isDoubleDot s then if last then [] :: before.tail else before.tail
  else if isDot s then if last then [] :: before else before
  else s :: before

/-- The segments that remain of those that are written, the latest first. -/
def resolve (before : List (List Char)) : List (List Char) → List (List Char)
  | [] => before
  | [s] => add before s true
  | s :: ss => resolve (add before s false) ss

/-- Whether a segment that names a drive becomes the first of the path. -/
def beginsWithDrive (before : List (List Char)) : List (List Char) → Bool
  | [] => false
  | s :: ss => (before.isEmpty && isDrive s) || beginsWithDrive (add before s false) ss

def segments (isSlash : Char → Bool) (path : List Char) : List (List Char) := path.splitOnP isSlash

/-- A path that is written without its first slash. -/
def read (isSlash : Char → Bool) (path : List Char) : List Char :=
  let kept := (resolve [] (segments isSlash path)).reverse
  kept.flatMap fun s => '/' :: Percent.encode Percent.path s

end BatchFetch.Url.Path
