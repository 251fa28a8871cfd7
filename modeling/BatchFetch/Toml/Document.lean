import BatchFetch.Toml.DateTime
import BatchFetch.Toml.Number
import BatchFetch.Toml.Text
import BatchFetch.Toml.Tree

/-! # TOML documents

A document is a sequence of lines: values under keys, headers of tables, and headers of tables in an
array. The values after a header belong to its table. -/

namespace BatchFetch.Toml.Read

/-! ### Blanks and comments -/

/-- What is left of a text after a comment, if there is one. -/
def skipComment : List Char → List Char
  | '#' :: cs => cs.dropWhile isText
  | cs => cs

/-- What is left of a text after blanks, comments and line ends; a comment has to end with its line. -/
def skipLines : Nat → List Char → List Char
  | 0, cs => cs
  | fuel + 1, cs =>
    match newline? (skipComment (skipBlanks cs)) with
    | some rest => skipLines fuel rest
    | none => skipBlanks cs

/-- What is left of a text after a line end, before which blanks and a comment may stand. -/
def lineEnd? (cs : List Char) : Option (List Char) :=
  match skipComment (skipBlanks cs) with
  | [] => some []
  | cs => newline? cs

/-! ### Values -/

def scalar : Reader Toml
  | [] => none
  | c :: cs =>
    if c = '"' ∨ c = '\'' then (string (c :: cs)).map fun (s, rest) => (.string (String.ofList s), rest)
    else if Decimal.isDigit c then (dateTime (c :: cs)).or (number (c :: cs))
    else if c = 't' then (dropPrefix? "true".toList (c :: cs)).map (.boolean true, ·)
    else if c = 'f' then (dropPrefix? "false".toList (c :: cs)).map (.boolean false, ·)
    else number (c :: cs)

/-- Reads the rest of an array whose items `item` reads. -/
def items (item : Reader Toml) : Nat → Reader (List Toml)
  | 0, _ => none
  | fuel + 1, cs =>
    match skipLines cs.length cs with
    | ']' :: rest => some ([], rest)
    | cs =>
      match item cs with
      | none => none
      | some (v, cs) =>
        match skipLines cs.length cs with
        | ']' :: rest => some ([v], rest)
        | ',' :: cs => (items item fuel cs).map fun (vs, rest) => (v :: vs, rest)
        | _ => none

/-- Reads a key and the value that `item` reads. -/
def pair (item : Reader Toml) : Reader (List String × Toml) := fun cs =>
  match key cs with
  | some (k, '=' :: cs) => (item (skipBlanks cs)).map fun (v, rest) => ((k, v), rest)
  | _ => none

/-- Reads the rest of a table that is written in braces, after its first pair or before it. -/
def pairs (item : Reader Toml) : Nat → Reader (List (List String × Toml))
  | 0, _ => none
  | fuel + 1, cs =>
    match pair item cs with
    | none => none
    | some (p, cs) =>
      match skipBlanks cs with
      | '\x7d' :: rest => some ([p], rest)
      | ',' :: cs => (pairs item fuel cs).map fun (ps, rest) => (p :: ps, rest)
      | _ => none

/-- Reads the rest of a table that is written in braces. -/
def inlineTable (item : Reader Toml) : Reader Toml := fun cs =>
  match skipBlanks cs with
  | '\x7d' :: rest => some (.table [], rest)
  | _ =>
    match pairs item cs.length cs with
    | none => none
    | some (ps, rest) => (Entries.insertAll ps []).map fun es => (.table es.toTable, rest)

/-- Reads a value that holds others up to a depth. -/
def value : Nat → Reader Toml
  | depth, '[' :: cs =>
    match depth with
    | 0 => none
    | depth + 1 => (items (value depth) (cs.length + 1) cs).map fun (vs, rest) => (.array vs, rest)
  | depth, '\x7b' :: cs =>
    match depth with
    | 0 => none
    | depth + 1 => inlineTable (value depth) cs
  | _, cs => scalar cs

/-! ### Lines -/

/-- A line that says something. -/
inductive Line where
  | pair (key : List String) (v : Toml)
  | table (key : List String)
  | row (key : List String)

def header : Reader Line
  | '[' :: '[' :: cs =>
    match key cs with
    | some (k, ']' :: ']' :: rest) => some (.row k, rest)
    | _ => none
  | '[' :: cs =>
    match key cs with
    | some (k, ']' :: rest) => some (.table k, rest)
    | _ => none
  | _ => none

def line (cs : List Char) : Option (Line × List Char) :=
  if cs.head? = some '[' then header cs
  else (pair (value (depthLimit - 1)) cs).map fun ((k, v), rest) => (.pair k v, rest)

def lines : Nat → List Char → Option (List Line)
  | 0, _ => none
  | fuel + 1, cs =>
    match skipLines cs.length cs with
    | [] => some []
    | '#' :: cs => if (skipComment ('#' :: cs)).isEmpty then some [] else none
    | cs => do
      let (l, cs) ← line cs
      let cs ← lineEnd? cs
      let ls ← lines fuel cs
      some (l :: ls)

/-- The pairs at the start of a list of lines, and the lines from the first header on. -/
def splitPairs : List Line → List (List String × Toml) × List Line
  | .pair k v :: ls =>
    let (ps, rest) := splitPairs ls
    ((k, v) :: ps, rest)
  | ls => ([], ls)

/-- Adds the lines from a header on to the tables before it. -/
def addLines : List Line → Entries → Option Entries
  | [], es => some es
  | .pair _ _ :: ls, es => addLines ls es
  | .table k :: ls, es => do
    let last ← k.getLast?
    let es ← es.addTable k.dropLast last (splitPairs ls).1
    addLines ls es
  | .row k :: ls, es => do
    let last ← k.getLast?
    let es ← es.addRow k.dropLast last (splitPairs ls).1
    addLines ls es

def build (ls : List Line) : Option Entries := do
  let (ps, rest) := splitPairs ls
  let es ← Entries.insertAll ps []
  addLines rest es

/-- The mark that may stand before a document. -/
def byteOrderMark : Char := '\ufeff'

end BatchFetch.Toml.Read

namespace BatchFetch.Toml

/-- Reads a document; none if it is not acceptable. -/
def read? (s : String) : Option (List (String × Toml)) := do
  let cs := match s.toList with
    | c :: cs => if c = Read.byteOrderMark then cs else c :: cs
    | [] => []
  let ls ← Read.lines (cs.length + 1) cs
  let es ← Read.build ls
  some es.toTable

end BatchFetch.Toml
