import BatchFetch.Metrics

/-! # A breaker over time

A breaker is used by callers who ask for admission, report how their calls ended, or drop their
permits unreported. Each call is known by a name while its permit is held. -/

namespace BatchFetch.Breaker

/-- A breaker in use: the time, the permits that are held, and what was recorded. -/
structure Session where
  now : Nat := 0
  breaker : Breaker := {}
  held : List (String × Permit) := []
  metrics : List Metric := []

/-- One use of a breaker. -/
inductive Use where
  | advance (d : Span)
  /-- A caller asks for admission and holds its permit under a name. -/
  | call (id : String)
  | complete (id : String) (verdict : Verdict)
  /-- A permit is dropped unreported, which is neutral. -/
  | drop (id : String)
  | guarded (verdict : Verdict)
deriving DecidableEq, Repr

/-- What came of a use. -/
inductive Use.Answer where
  | passed
  | admission (answer : Admission)
  | ended
  | unknown
deriving DecidableEq, Repr

namespace Session

def permit? (s : Session) (id : String) : Option Permit := s.held.lookup id

/-- The session after the breaker took a turn. -/
def after {α : Type} (s : Session) (t : Turn α) : Session :=
  { s with breaker := t.breaker, metrics := s.metrics ++ t.notes.map .breaker }

/-- Reports the end of the call that holds a permit. -/
def report (c : Settings) (s : Session) (p : Permit) (v : Verdict) : Session :=
  s.after (s.breaker.report c s.now p v)

/-- Gives up the permit that is held under a name, with a verdict. -/
def release (c : Settings) (s : Session) (id : String) (v : Verdict) : Use.Answer × Session :=
  match s.permit? id with
  | some p => (.ended, { s.report c p v with held := s.held.filter (·.1 != id) })
  | none => (.unknown, s)

/-- Holds a new permit under a name; an older one of that name is dropped. -/
def hold (c : Settings) (s : Session) (id : String) (p : Permit) : Session :=
  let (_, s) := s.release c id .neutral
  { s with held := s.held ++ [(id, p)] }

def step (c : Settings) (s : Session) : Use → Use.Answer × Session
  | .advance d => (.passed, { s with now := s.now + d.nanos })
  | .call id =>
    let t := s.breaker.ask c s.now
    let s := s.after t
    match t.answer with
    | .granted p => (.admission t.answer, s.hold c id p)
    | .refused _ => (.admission t.answer, s)
  | .complete id v => s.release c id v
  | .drop id => s.release c id .neutral
  | .guarded v =>
    let t := s.breaker.ask c s.now
    let s := s.after t
    match t.answer with
    | .granted p => (.admission t.answer, s.report c p v)
    | .refused _ => (.admission t.answer, s)

end Session

end BatchFetch.Breaker
