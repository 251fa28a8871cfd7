import BatchFetch.Text.Decimal
import BatchFetch.Text.Utf8

/-! # Percent encoding

A byte is written as a percent sign and two digits of base sixteen. Each part of a URL has a set of ASCII
characters that are encoded in it; all others beyond ASCII always are. -/

namespace BatchFetch.Url.Percent

/-- The digits of base sixteen, as they are written. -/
def upperDigit (n : Nat) : Char := (['0', '1', '2', '3', '4', '5', '6', '7', '8', '9',
  'A', 'B', 'C', 'D', 'E', 'F'][n]?).getD '0'

def byte (b : UInt8) : List Char := ['%', upperDigit (b.toNat / 16), upperDigit (b.toNat % 16)]

/-- A text in which the characters of a set and those beyond ASCII are encoded. -/
def encode (set : Char → Bool) (cs : List Char) : List Char :=
  cs.flatMap fun c =>
    if set c || 127 < c.toNat then (String.utf8EncodeChar c).flatMap byte else [c]

/-- The bytes of a text whose encoded bytes are decoded; a percent sign that two digits do not follow
    stands for itself. -/
def decode : List Char → List UInt8
  | [] => []
  | '%' :: a :: b :: rest =>
    match Decimal.hexDigit? a, Decimal.hexDigit? b with
    | some x, some y => UInt8.ofNat (16 * x + y) :: decode rest
    | _, _ => String.utf8EncodeChar '%' ++ decode (a :: b :: rest)
  | c :: rest => String.utf8EncodeChar c ++ decode rest

/-! ### Sets of characters that are encoded -/

def among (cs : String) (c : Char) : Bool := cs.toList.contains c

def controls (c : Char) : Bool := c.toNat < 32 || c.toNat == 127

def query (c : Char) : Bool := controls c || among " \"#<>" c

/-- What is encoded in a query of a special scheme. -/
def specialQuery (c : Char) : Bool := query c || c == '\''

def fragment (c : Char) : Bool := controls c || among " \"<>`" c

def path (c : Char) : Bool := fragment c || among "#?\x7b\x7d" c

/-- What is encoded in a user name or password. -/
def userinfo (c : Char) : Bool := path c || among "/:;=@[\\]^|" c

end BatchFetch.Url.Percent
