import BatchFetch.Text.Decimal
import BatchFetch.Toml.Value

/-! # TOML strings and keys

A string stands in double quotes, with escapes, or in single quotes, without. In three quotes it may run
over several lines; up to two quotes may stand before the closing three. -/

namespace BatchFetch.Toml.Read

/-- The closing quotes of a string over several lines, whose first one has been read: quotes that still
    belong to the string, and what is left of the text. -/
def closing? (quote : Char) : Reader (List Char)
  | a :: b :: rest =>
    if a = quote ∧ b = quote then
      let more := (rest.take 2).takeWhile (· == quote)
      some (more, rest.drop more.length)
    else none
  | _ => none

/-- The character of a code point that is written in base sixteen. -/
def codePoint? (ds : List Char) : Option Char :=
  let n := Decimal.valueIn 16 ds
  if ds.all (fun d => (Decimal.hexDigit? d).isSome) ∧ n.isValidChar then some (Char.ofNat n) else none

/-- What the characters after a backslash stand for, and how many they are. -/
def escape? : List Char → Option (Char × Nat)
  | 'b' :: _ => some ('\x08', 1)
  | 'f' :: _ => some ('\x0c', 1)
  | 'n' :: _ => some ('\n', 1)
  | 'r' :: _ => some ('\r', 1)
  | 't' :: _ => some ('\t', 1)
  | '\\' :: _ => some ('\\', 1)
  | '"' :: _ => some ('"', 1)
  | 'u' :: cs => if 4 ≤ cs.length then (codePoint? (cs.take 4)).map (·, 5) else none
  | 'U' :: cs => if 8 ≤ cs.length then (codePoint? (cs.take 8)).map (·, 9) else none
  | _ => none

/-- Whether a line has nothing but blanks left. -/
def endsLine (cs : List Char) : Bool := (newline? (skipBlanks cs)).isSome

/-- Whether a character is a blank or belongs to the end of a line, when `cs` follows it. -/
def isGap (c : Char) (cs : List Char) : Bool :=
  isBlank c || c == '\n' || (c == '\r' && cs.head? == some '\n')

/-- Reads the rest of a string in double quotes. The next `skip` characters have been read; blanks and
    line ends are passed over after a backslash that ends a line. -/
def basic (multiline : Bool) (skip : Nat) (trim : Bool) : Reader (List Char)
  | [] => none
  | c :: cs =>
    if 0 < skip then basic multiline (skip - 1) trim cs
    else if trim && isGap c cs then basic multiline 0 true cs
    else if c = '"' then
      if !multiline then some ([], cs)
      else
        match closing? '"' cs with
        | some r => some r
        | none => (basic multiline 0 false cs).map fun (s, rest) => (c :: s, rest)
    else if c = '\\' then
      if multiline && endsLine cs then basic multiline 0 true cs
      else
        match escape? cs with
        | some (x, n) => (basic multiline n false cs).map fun (s, rest) => (x :: s, rest)
        | none => none
    else if c = '\r' ∧ multiline ∧ cs.head? = some '\n' then basic multiline 0 false cs
    else if isText c ∨ c = '\n' ∧ multiline then
      (basic multiline 0 false cs).map fun (s, rest) => (c :: s, rest)
    else none

/-- Reads the rest of a string in single quotes. -/
def literal (multiline : Bool) : Reader (List Char)
  | [] => none
  | c :: cs =>
    if c = '\'' then
      if !multiline then some ([], cs)
      else
        match closing? '\'' cs with
        | some r => some r
        | none => (literal multiline cs).map fun (s, rest) => (c :: s, rest)
    else if c = '\r' ∧ multiline ∧ cs.head? = some '\n' then literal multiline cs
    else if isText c ∨ c = '\n' ∧ multiline then
      (literal multiline cs).map fun (s, rest) => (c :: s, rest)
    else none

/-- What is left of a text after at most one line end. -/
def skipNewline (cs : List Char) : List Char := (newline? cs).getD cs

def string : Reader (List Char)
  | '"' :: '"' :: '"' :: cs => basic true 0 false (skipNewline cs)
  | '"' :: cs => basic false 0 false cs
  | '\'' :: '\'' :: '\'' :: cs => literal true (skipNewline cs)
  | '\'' :: cs => literal false cs
  | _ => none

/-! ### Keys -/

/-- Whether a character may stand in a key without quotes. -/
def isKeyChar (c : Char) : Bool := c.isAlphanum || c == '-' || c == '_'

def simpleKey : Reader String
  | '"' :: cs => (basic false 0 false cs).map fun (s, rest) => (String.ofList s, rest)
  | '\'' :: cs => (literal false cs).map fun (s, rest) => (String.ofList s, rest)
  | cs =>
    match cs.span isKeyChar with
    | ([], _) => none
    | (k, rest) => some (String.ofList k, rest)

/-- Reads up to `n` parts of a key, with dots between them and blanks around them. -/
def keyParts : Nat → Reader (List String)
  | 0, _ => none
  | n + 1, cs =>
    match simpleKey (skipBlanks cs) with
    | none => none
    | some (k, rest) =>
      match skipBlanks rest with
      | '.' :: rest => (keyParts n rest).map fun (ks, rest) => (k :: ks, rest)
      | rest => some ([k], rest)

/-- Keys of this many parts, and values this deep in others, are refused. -/
def depthLimit : Nat := 80

def key : Reader (List String) := keyParts (depthLimit - 1)

end BatchFetch.Toml.Read
