import BatchFetch.Url.Domain
import BatchFetch.Url.Ipv4
import BatchFetch.Url.Ipv6

/-! # Hosts

The host of a URL is a domain name or an address; the host of a scheme that is not special may be any
text without certain characters. -/

namespace BatchFetch.Url

/-- Why a text is no URL. -/
inductive Fault where
  | relative
  | emptyHost
  | ipv4
  | ipv6
  | port
  | domain
  | hostCharacter
deriving DecidableEq, Repr

def Fault.message : Fault → String
  | relative => "relative URL without a base"
  | emptyHost => "empty host"
  | ipv4 => "invalid IPv4 address"
  | ipv6 => "invalid IPv6 address"
  | port => "invalid port number"
  | domain => "invalid international domain name"
  | hostCharacter => "invalid domain character"

/-- A host. -/
inductive Host where
  | domain (name : List Char)
  | ipv4 (address : Nat)
  | ipv6 (groups : List Nat)
  /-- The host of a scheme that is not special, with bytes encoded. -/
  | verbatim (text : List Char)
deriving DecidableEq, Repr

namespace Host

def text : Host → List Char
  | domain name => name
  | ipv4 address => Ipv4.text address
  | ipv6 groups => '[' :: Ipv6.text groups ++ [']']
  | verbatim text => text

def isEmpty (h : Host) : Bool := h.text.isEmpty

def bracketed? (cs : List Char) : Except Fault Host :=
  match if cs.getLast? = some ']' then Ipv6.read? cs.dropLast else none with
  | some groups => .ok (.ipv6 groups)
  | none => .error .ipv6

def special? : List Char → Except Fault Host
  | '[' :: cs => bracketed? cs
  | cs =>
    match Domain.read? cs with
    | none => .error .domain
    | some name =>
      if name.isEmpty then .error .emptyHost
      else if Ipv4.endsInNumber name then
        match Ipv4.read? name with
        | some address => .ok (.ipv4 address)
        | none => .error .ipv4
      else .ok (.domain name)

/-- Whether a character may not stand in the host of a scheme that is not special. -/
def isForbidden (c : Char) : Bool := Percent.among "\x00\t\n\r #/:<>?@[\\]^|" c

def verbatim? : List Char → Except Fault Host
  | '[' :: cs => bracketed? cs
  | cs => if cs.any isForbidden then .error .hostCharacter else .ok (.verbatim (Percent.encode Percent.controls cs))

end Host

end BatchFetch.Url
