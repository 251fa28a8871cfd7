import BatchFetch.Fetch.Outcome

/-! # Transports

A transport answers each call with a reply: after some time the call has an outcome, or breaks off, or it
never ends by itself. A reply may depend on all calls made before. A script is a transport that plays a
list of replies for each target. -/

namespace BatchFetch

/-- How a call ends by itself. -/
inductive Ending where
  | outcome (o : Outcome)
  | panic (message : String)
  | never
deriving DecidableEq, Repr

/-- The reply to a call: how it ends, and how long that takes. -/
structure Reply where
  after : Span := Span.zero
  ending : Ending
  /-- Whether the call is given up at once, and ends as cancelled, when its batch is stopped. -/
  heedsStop : Bool := true
deriving DecidableEq, Repr

/-- A call that was made. -/
structure Call where
  time : Nat
  target : String
deriving DecidableEq, Repr

/-- A transport: the reply to a call of a target, given the calls made before. -/
abbrev Transport := List Call → String → Reply

/-- A reply to every call of every target. -/
structure Script where
  replies : List (String × List Reply) := []
  fallback : Reply
deriving DecidableEq, Repr

namespace Script

/-- The reply to the call of a target that comes after `n` others. The last reply of a target repeats;
    a target without replies gets the fallback. -/
def reply (s : Script) (target : String) (n : Nat) : Reply :=
  match s.replies.lookup target with
  | some (r :: rs) => ((r :: rs)[n]?).getD ((r :: rs).getLastD r)
  | _ => s.fallback

def transport (s : Script) : Transport := fun calls target =>
  s.reply target (calls.countP (·.target == target))

end Script

end BatchFetch
