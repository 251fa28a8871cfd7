import BatchFetch.Url.Ipv6

/-! # Socket addresses

An address and a port, as in `127.0.0.1:80` and `[::1]:80`. An address of eight groups may have a scope
number after a percent sign. -/

namespace BatchFetch.SocketAddress

/-- Whether a text is a number of at most `limit`, with any zeros before it. -/
def isNumber (limit : Nat) (cs : List Char) : Bool := (Decimal.read? cs).any (· ≤ limit)

/-- Splits a text before the first character that equals `x`, which is left out. -/
def splitAt (x : Char) (cs : List Char) : Option (List Char × List Char) :=
  match cs.span (· != x) with
  | (a, _ :: b) => some (a, b)
  | (_, []) => none

/-- Whether a text is a port with a colon before it. -/
def isPort : List Char → Bool
  | ':' :: cs => isNumber 65535 cs
  | _ => false

/-- Whether a text is an address of eight groups, with a scope number or without. -/
def isScoped (cs : List Char) : Bool :=
  match splitAt '%' cs with
  | some (address, scope) => (Url.Ipv6.read? address).isSome && isNumber 4294967295 scope
  | none => (Url.Ipv6.read? cs).isSome

def isValid (s : String) : Bool :=
  match s.toList with
  | '[' :: cs => (splitAt ']' cs).any fun (address, port) => isScoped address && isPort port
  | cs => (splitAt ':' cs).any fun (address, port) =>
      (Url.Ipv6.dotted? address).isSome && isNumber 65535 port

end BatchFetch.SocketAddress
