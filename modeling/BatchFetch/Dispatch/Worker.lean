import BatchFetch.Dispatch.Batch
import BatchFetch.Text.Quoted

/-! # Workers

A worker passes the gate, takes a token, and makes attempts until one succeeds or is not repeated. Each
of its moves is one step of the batch: it looks first whether the batch has stopped, and then does what
its phase asks for. -/

namespace BatchFetch.Batch

/-! ### The gate -/

/-- Takes a worker from the gate, if it is there. -/
def State.leaveGate (s : State) (i : Nat) : State := { s with gate := s.gate.erase i }

def State.takePermit (s : State) : State := { s with free := s.free - 1 }

/-- A permit is given back. The worker at the gate whose turn it then is, is served after those in line. -/
def State.givePermit (s : State) : State :=
  let s := { s with free := s.free + 1 }
  match s.gate[s.free - 1]? with
  | some i => s.toEnd i
  | none => s

/-- Whether a worker in a phase is past the gate and not done. -/
def Phase.isInside : Phase → Bool
  | .fresh | .queued | .done => false
  | .waiting _ _ | .calling _ _ _ _ | .backingOff _ _ => true

/-! ### The end of a worker -/

/-- A worker ends, and waits to be collected. A permit that it holds is given back. -/
def exit (b : Batch) (i : Nat) (e : Exit) (s : State) : State :=
  let inside := (s.phase i).isInside
  let s := (s.enter i .done).leaveGate i
  let s := { s with line := s.line.erase i, exits := s.exits ++ [(i, e)] }
  if inside ∧ b.permits.isSome then s.givePermit else s

/-- A worker ends with an outcome after a number of attempts. -/
def finish (b : Batch) (i : Nat) (o : Outcome) (attempts : Nat) (s : State) : State :=
  b.exit i (.result (.finished (b.target i) o attempts (Clock.since s.now b.start))) s

/-- A worker ends because the batch has stopped. -/
def cancel (b : Batch) (i : Nat) (attempts : Nat) (s : State) : State := b.finish i .cancelled attempts s

/-! ### Attempts -/

/-- What follows an attempt after so many retries: another one after a wait, or the end. -/
def conclude (b : Batch) (i : Nat) (retries : UInt32) (o : Outcome) (s : State) : State :=
  if o.kind.any (b.retry.shouldRetry retries) then
    let retry := retries + 1
    let wake := Clock.timer s.now (b.retry.delay (b.draw i retry) retry)
    s.sleep i (.backingOff retry wake) wake
  else b.finish i o (retries + 1).toNat s

def State.noteBreaker {α : Type} (s : State) (key : String) (t : Breaker.Turn α) (r : Registry) : State :=
  { s with registry := r }.note (t.notes.map (.breaker key))

/-- A worker makes an attempt after so many retries: its breaker refuses it, or a call begins. -/
def attempt (b : Batch) (i : Nat) (retries : UInt32) (s : State) : State :=
  let key := b.key i
  let (t, registry) := s.registry.ask b.breaker s.now key
  let s := s.noteBreaker key t registry
  match t.answer with
  | .refused retryIn =>
    let refusal : CircuitOpen := { endpoint := key, retryIn }
    b.conclude i retries (.refused refusal) (s.note [.refused i s.now refusal])
  | .granted permit =>
    let reply := b.transport (b.earlier ++ s.calls) (b.target i)
    let ends := Clock.due s.now reply.after
    (s.note [.called i ⟨s.now, b.target i⟩ key permit.trial]).sleep i
      (.calling retries permit ends reply) ends

/-- The breaker of a worker's endpoint learns how its call ended. -/
def tell (b : Batch) (i : Nat) (p : Permit) (v : Verdict) (s : State) : State :=
  let (t, registry) := s.registry.report b.breaker s.now (b.key i) p v
  s.noteBreaker (b.key i) t registry

def endCall (b : Batch) (i : Nat) (retries : UInt32) (p : Permit) (o : Outcome) (s : State) : State :=
  b.conclude i retries o (b.tell i p o.verdict (s.note [.ended i s.now o]))

/-- A worker's call breaks off, and the worker with it. -/
def breakOff (b : Batch) (i : Nat) (p : Permit) (message : String) (s : State) : State :=
  b.exit i (.panic message) (b.tell i p .neutral (s.note [.brokeOff i s.now message]))

/-! ### Moves -/

/-- A worker takes a token, or learns when to look again. -/
def look (b : Batch) (i : Nat) (since : Nat) (s : State) : State :=
  match s.bucket.take b.limits s.now with
  | (.granted, bucket) =>
    b.attempt i 0 ({ s with bucket }.note [.tokenTaken i (Clock.since s.now since)])
  | (.wait d, bucket) =>
    let wake := Clock.timer s.now d
    { s with bucket }.sleep i (.waiting since wake) wake

def State.canMove (s : State) (i : Nat) : Bool :=
  match s.phase i with
  | .fresh => true
  | .queued => s.stopped || s.gate.idxOf i < s.free
  | .waiting _ wake => s.stopped || wake ≤ s.now
  | .calling _ _ ends reply => s.stopped && reply.heedsStop || reply.ending != .never && ends ≤ s.now
  | .backingOff _ wake => s.stopped || wake ≤ s.now
  | .done => false

/-- When a worker will be able to move by itself. -/
def State.wakes? (s : State) (i : Nat) : Option Nat :=
  match s.phase i with
  | .waiting _ wake => some wake
  | .calling _ _ ends reply => if reply.ending = .never then none else some ends
  | .backingOff _ wake => some wake
  | .fresh | .queued | .done => none

def move (b : Batch) (i : Nat) (s : State) : State :=
  match s.phase i with
  | .fresh =>
    if s.stopped then b.cancel i 1 s
    else if b.permits.isNone then s.enter i (.waiting s.now s.now)
    else if s.gate.length < s.free then s.takePermit.enter i (.waiting s.now s.now)
    else { s with gate := s.gate ++ [i] }.enter i .queued
  | .queued =>
    if s.stopped then b.cancel i 1 s
    else (s.leaveGate i).takePermit.enter i (.waiting s.now s.now)
  | .waiting since _ => if s.stopped then b.cancel i 1 s else b.look i since s
  | .calling retries permit _ reply =>
    if s.stopped && reply.heedsStop then b.endCall i retries permit .cancelled s
    else
      match reply.ending with
      | .outcome o => b.endCall i retries permit o s
      | .panic message => b.breakOff i permit message s
      | .never => s
  | .backingOff retry _ => if s.stopped then b.cancel i retry.toNat s else b.attempt i retry s
  | .done => s

/-! ### Collecting results -/

/-- What is reported of a worker that broke off. -/
def brokeOffMessage (i : Nat) (message : String) : String :=
  "task " ++ Decimal.text i ++ " panicked with message " ++ Quoted.text message

/-- The result that is delivered for a worker: its own, or, if it broke off, a failure of the target that
    is pending for it. -/
def resultOf (b : Batch) (i : Nat) (s : State) : Exit → FetchResult
  | .result r => r
  | .panic message =>
    .finished ((s.pending.lookup i).getD "") (.failed .internal (brokeOffMessage i message)) 1
      (Clock.since s.now b.start)

/-- A worker that has ended is collected, and its result is delivered. -/
def collect (b : Batch) (i : Nat) (e : Exit) (s : State) : State :=
  { s with exits := s.exits.erase (i, e), pending := s.pending.filter (·.1 != i) }.note
    [.finished i (b.resultOf i s e)]

end BatchFetch.Batch
