import BatchFetch.Config.Basic
import BatchFetch.Url.Basic

/-! # Endpoints

Targets of one endpoint share a circuit breaker. The key of an endpoint depends on the scope: all
targets have one key, or each has its own text, or those with the same scheme, host and port share one. -/

namespace BatchFetch

/-- An endpoint: a scheme, a host, and a port if there is one. -/
structure Endpoint where
  scheme : List Char
  host : Url.Host
  port : Option Nat
deriving DecidableEq, Repr

namespace Endpoint

/-- The endpoint of a URL; without a host there is none. -/
def ofUrl? (u : Url) : Option Endpoint :=
  u.host.map fun host => { scheme := u.scheme, host, port := u.effectivePort? }

/-- The endpoint of a target; one that is no URL has none. -/
def ofTarget? (target : String) : Option Endpoint := (Url.read? target).toOption.bind ofUrl?

def text (e : Endpoint) : String :=
  String.ofList (e.scheme ++ [':', '/', '/'] ++ e.host.text ++ Url.portText e.port)

def everything : String := "*"

/-- The key of a target in a scope. A target without an endpoint has its own text for a key. -/
def key : Scope → String → String
  | .everything, _ => everything
  | .url, target => target
  | .host, target => ((ofTarget? target).map text).getD target

end Endpoint

end BatchFetch
