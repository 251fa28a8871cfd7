import BatchFetch.Dispatch.Transport
import BatchFetch.Fetch.Exchange
import BatchFetch.Url.Basic

/-! # Fetching over HTTP

A target is fetched by one request for its URL. A target that is no URL of a known scheme, or for whose
URL no request can be written, fails before anything is sent; everything else is the network's to answer. -/

namespace BatchFetch

/-- A network: what it makes of a request for a URL, given the calls made before. -/
abbrev Network := List Call → Url → Exchange

namespace Http

/-- Whether a client can be built: its name has no control character other than a tab. -/
def canBuild (c : Config.Transport) : Bool :=
  c.userAgent.toList.all fun x => x == '\t' || !Url.Percent.controls x

/-- What is said about a client that cannot be built. -/
def buildMessage : String := Exchange.Stage.builder.words

def schemes : List (List Char) := ["http".toList, "https".toList]

/-- The URL of a target, or what is said about a target that cannot be fetched. -/
def url? (target : String) : Except String Url :=
  match Url.read? target with
  | .error e => .error e.message
  | .ok u =>
    if schemes.contains u.scheme then .ok u
    else .error ("unsupported scheme '" ++ String.ofList u.scheme ++ "'")

/-! ### Requests -/

/-- The text of which a text is the encoded form, if there is one. -/
def decoded? (cs : List Char) : Option (List Char) := Utf8.decode? (Url.Percent.decode cs)

/-- Whether the user name and password of a URL are sent apart from it. -/
def sendsCredentials (u : Url) : Bool :=
  match decoded? u.username with
  | none => false
  | some username => !username.isEmpty || !u.password.isEmpty && (decoded? u.password).isSome

def requestUrl (u : Url) : Url :=
  if sendsCredentials u then { u with username := [], password := [] } else u

/-- The most characters that the URL of a request may have. -/
def longestUrl : Nat := 65534

/-- Whether a request for a URL can be written: the URL is not too long, and its host has none of the
    characters that a name may have but a request may not. -/
def canRequest (u : Url) : Bool :=
  u.text.length ≤ longestUrl && !((u.host.map Url.Host.text).getD []).any (Url.Percent.among "\"`\x7b\x7d")

/-- The exchange for a URL: there is none with the network if no request can be written. -/
def exchange (net : Network) (calls : List Call) (u : Url) : Exchange :=
  let u := requestUrl u
  if canRequest u then net calls u else .failed Span.zero { stage := .builder, url := some u.text }

/-! ### Fetches -/

def readLimit (c : Config.Transport) : Span := Span.ofMillis c.readTimeoutMs

def attempt (c : Config.Transport) (net : Network) (calls : List Call) (target : String) : Outcome :=
  match url? target with
  | .error message => .failed .invalidRequest message
  | .ok u => (exchange net calls u).outcome (readLimit c)

/-- The time that one attempt at a target takes. -/
def attemptTime (c : Config.Transport) (net : Network) (calls : List Call) (target : String) : Span :=
  match url? target with
  | .error _ => Span.zero
  | .ok u => (exchange net calls u).duration (readLimit c)

/-- One fetch of a target, unless it was cancelled before. -/
def fetch (c : Config.Transport) (net : Network) (isCancelled : Bool) (target : String) : FetchResult :=
  if isCancelled then .finished target .cancelled 1 Span.zero
  else .finished target (attempt c net [] target) 1 (attemptTime c net [] target)

/-- The transport that fetches over a network. -/
def transport (c : Config.Transport) (net : Network) : Transport := fun calls target =>
  { after := attemptTime c net calls target, ending := .outcome (attempt c net calls target) }

/-- A network in which nothing can be reached, which is found out at once. -/
def unreachable : Network := fun _ u => .failed Span.zero { stage := .request, url := some u.text }

end Http

end BatchFetch
