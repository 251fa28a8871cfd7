import BatchFetch.Url.Host
import BatchFetch.Url.Path

/-! # URLs

A URL has a scheme and mostly a host, a path, a query and a fragment. The special schemes have a host by
rule and a default port, and take a backslash for a slash. Reading a URL normalizes it. -/

namespace BatchFetch

/-- A URL in normal form. -/
structure Url where
  scheme : List Char
  username : List Char := []
  password : List Char := []
  host : Option Url.Host := none
  port : Option Nat := none
  path : List Char := []
  query : Option (List Char) := none
  fragment : Option (List Char) := none
deriving DecidableEq, Repr

namespace Url

/-! ### Schemes -/

/-- The special schemes with their default ports. -/
def specialSchemes : List (String × Option Nat) :=
  [("http", some 80), ("https", some 443), ("ws", some 80), ("wss", some 443), ("ftp", some 21),
    ("file", none)]

def isSpecial (scheme : List Char) : Bool := specialSchemes.any (·.1.toList == scheme)

def defaultPort? (scheme : List Char) : Option Nat := (specialSchemes.find? (·.1.toList == scheme)).bind (·.2)

/-- Whether a character may stand in a scheme. -/
def isSchemeChar (c : Char) : Bool := c.isAlphanum || c == '+' || c == '-' || c == '.'

/-- Whether a character separates the segments of a path. -/
def isSlash (special : Bool) (c : Char) : Bool := c == '/' || special && c == '\\'

/-- Whether a character ends the authority of a URL. -/
def endsAuthority (special : Bool) (c : Char) : Bool := isSlash special c || c == '?' || c == '#'

/-! ### Written form -/

/-- The user name and password, with the sign that ends them; nothing if both are empty. -/
def credentials (u : Url) : List Char :=
  let password := if u.password.isEmpty then [] else ':' :: u.password
  if u.username.isEmpty && u.password.isEmpty then [] else u.username ++ password ++ ['@']

def portText : Option Nat → List Char
  | some p => ':' :: Decimal.digits p
  | none => []

/-- The part of a URL that names its host. Without a host, a path that begins with two slashes gets a dot
    before it, so that it is not read as a host. -/
def authority (u : Url) : List Char :=
  match u.host with
  | some h => ['/', '/'] ++ u.credentials ++ h.text ++ portText u.port
  | none => if u.path.take 2 = ['/', '/'] then ['/', '.'] else []

def text (u : Url) : List Char :=
  u.scheme ++ [':'] ++ u.authority ++ u.path ++ (u.query.map ('?' :: ·)).getD [] ++
    (u.fragment.map ('#' :: ·)).getD []

/-- The port of a URL: the one that is given, or else that of its scheme. -/
def effectivePort? (u : Url) : Option Nat := u.port.or (defaultPort? u.scheme)

/-! ### Reading -/

/-- The text of a URL without blanks and controls around it and without tabs and line ends in it. -/
def cleaned (cs : List Char) : List Char :=
  let isBlank (c : Char) : Bool := c.toNat ≤ 32
  (((cs.dropWhile isBlank).reverse.dropWhile isBlank).reverse).filter (!Percent.among "\t\n\r" ·)

/-- The scheme of a URL and what follows its colon. -/
def scheme? : List Char → Option (List Char × List Char)
  | [] => none
  | c :: cs =>
    match (c :: cs).span isSchemeChar with
    | (scheme, ':' :: rest) => if c.isAlpha then some (scheme.map Char.toLower, rest) else none
    | _ => none

/-- Takes the query and the fragment off the end of a URL, and encodes them. -/
def splitTail (special : Bool) (cs : List Char) : List Char × Option (List Char) × Option (List Char) :=
  let (front, fragment) := cs.span (· != '#')
  let (path, query) := front.span (· != '?')
  let set := if special then Percent.specialQuery else Percent.query
  (path, query.tail?.map (Percent.encode set), fragment.tail?.map (Percent.encode Percent.fragment))

/-- The user name and password before the last `@` of an authority. -/
structure UserInfo where
  username : List Char := []
  password : List Char := []
  rest : List Char

/-- Splits a list at the last element that equals `x`. -/
def splitLast (x : Char) (cs : List Char) : Option (List Char × List Char) :=
  let after := (cs.reverse.takeWhile (· != x)).reverse
  if after.length < cs.length then some (cs.take (cs.length - after.length - 1), after) else none

/-- Takes the user name and password off an authority. -/
def userInfo (authority : List Char) : UserInfo :=
  match splitLast '@' authority with
  | none => { rest := authority }
  | some (info, rest) =>
    let (username, password) := info.span (· != ':')
    { username := Percent.encode Percent.userinfo username
      password := Percent.encode Percent.userinfo (password.drop 1), rest }

/-- Splits a host from the port that follows it; a colon in brackets belongs to the host. -/
def splitPort (bracketed : Bool) : List Char → List Char × Option (List Char)
  | [] => ([], none)
  | c :: cs =>
    if c = ':' ∧ !bracketed then ([], some cs)
    else
      let (host, port) := splitPort (c == '[' || bracketed && c != ']') cs
      (c :: host, port)

def port? (scheme : List Char) (digits : List Char) : Except Fault (Option Nat) :=
  if !digits.all Decimal.isDigit then .error .port
  else
    let n := Decimal.value digits
    if 65535 < n then .error .port
    else .ok (if digits.isEmpty ∨ defaultPort? scheme = some n then none else some n)

/-- Reads the host of a scheme other than that of files. -/
def host? (special : Bool) (host : List Char) : Except Fault Host :=
  if !special then Host.verbatim? host
  else if host.isEmpty then .error .emptyHost
  else Host.special? host

/-- Reads what follows the slashes before an authority. -/
def afterSlashes? (scheme cs : List Char) : Except Fault Url := do
  let special := isSpecial scheme
  let (authority, rest) := cs.span fun c => !endsAuthority special c
  if authority = ['@'] ∧ !rest.isEmpty then throw .emptyHost
  let info := userInfo authority
  let (hostText, portText) := splitPort false info.rest
  let host ← host? special hostText
  if host.isEmpty then
    -- Without a host there is neither a port nor a user.
    if portText.isSome || !(info.username.isEmpty && info.password.isEmpty) then throw .emptyHost
  -- A backslash ends a port in any scheme.
  let (digits, odd) := (portText.getD []).span (· != '\\')
  let port ← port? scheme digits
  let (path, query, fragment) := splitTail special (odd ++ rest)
  let path :=
    match path with
    | [] => if special then ['/'] else []
    | c :: cs => Path.read (isSlash special) (if isSlash special c then cs else c :: cs)
  return { scheme, username := info.username, password := info.password
           host := if host.isEmpty then none else some host, port, path, query, fragment }

def file? (scheme cs : List Char) : Except Fault Url := do
  let (front, query, fragment) := splitTail true cs
  let read (path : List Char) : List Char := Path.read (isSlash true) path
  match front with
  | a :: b :: rest =>
    if isSlash true a ∧ isSlash true b then
      let (hostText, path) := rest.span (!isSlash true ·)
      if Path.isDrive hostText then return { scheme, path := read rest, query, fragment }
      let host ← if hostText.isEmpty then pure none else (Host.special? hostText).map some
      let path := path.drop 1
      let isLocal := host == some (.domain "localhost".toList) ||
        Path.beginsWithDrive [] (Path.segments (isSlash true) path)
      return { scheme, host := if isLocal then none else host, path := read path, query, fragment }
    else return { scheme, path := read (if isSlash true a then b :: rest else front), query, fragment }
  | [a] => return { scheme, path := read (if isSlash true a then [] else [a]), query, fragment }
  | [] => return { scheme, path := ['/'], query, fragment }

/-- Reads what follows a scheme that is not special. -/
def plain? (scheme : List Char) : List Char → Except Fault Url
  | '/' :: '/' :: cs => afterSlashes? scheme cs
  | cs =>
    let (path, query, fragment) := splitTail false cs
    let path :=
      match path with
      | '/' :: path => Path.read (isSlash false) path
      | path => Percent.encode Percent.controls path
    .ok { scheme, path, query, fragment }

def read? (s : String) : Except Fault Url :=
  match scheme? (cleaned s.toList) with
  | none => .error .relative
  | some (scheme, rest) =>
    if scheme = "file".toList then file? scheme rest
    else if isSpecial scheme then afterSlashes? scheme (rest.dropWhile (isSlash true))
    else plain? scheme rest

end Url

end BatchFetch
