import BatchFetch.Dispatch.Run

/-! # Batches in real time

Where a batch has the clock for itself, time passes only when there is nothing else to do. In real time it goes on
with everything that is done, and any amount of it may be over before the next thing happens. A timer may fire as soon as
the millisecond in which it is due has begun. -/

namespace BatchFetch.Batch

/-- A phase that lasts until a time, and no longer than until another one. -/
def Phase.endBy (t : Nat) : Phase → Phase
  | .waiting since wake => .waiting since (min wake t)
  | .calling retries permit ends reply => .calling retries permit (min ends t) reply
  | .backingOff retry wake => .backingOff retry (min wake t)
  | p => p

/-- What a worker waits for comes now. -/
def State.fire (s : State) (i : Nat) : State := s.enter i ((s.phase i).endBy s.now)

/-- The steps of a batch while time goes on by itself. The workers that have ended are collected one after another. -/
inductive LiveStep (b : Batch) : State → State → Prop where
  | stop {s : State} (due : b.stopDue s = true) : LiveStep b s (b.stop s)
  | move {s : State} (i : Nat) (can : s.canMove i = true) : LiveStep b s (b.move i s)
  | collect {s : State} (i : Nat) (e : Exit) (rest : List (Nat × Exit)) (first : s.exits = (i, e) :: rest) :
      LiveStep b s (b.collect i e s)
  | fire {s : State} (i wake : Nat) (wakes : s.wakes? i = some wake) (due : wake / 1000000 ≤ s.now / 1000000) :
      LiveStep b s (s.fire i)
  /-- Time passes, whatever there is to do. -/
  | pass {s : State} (t : Nat) (later : s.now ≤ t) : LiveStep b s (s.advance t)

/-- What a batch can come to in real time. -/
inductive LiveReachable (b : Batch) : State → Prop where
  | start : LiveReachable b b.initial
  | step {s t : State} (reach : LiveReachable b s) (hs : LiveStep b s t) : LiveReachable b t

/-- Takes steps until the batch is over, but no more than so many. Each takes a nanosecond, and as many more as `lapse`
    tells for the time at which it is taken. -/
def runLive (b : Batch) (lapse : Nat → Nat) : Nat → State → State
  | 0, s => s
  | fuel + 1, s =>
    match b.next s with
    | some t => b.runLive lapse fuel (t.advance (t.now + lapse t.now + 1))
    | none => s

/-- How many steps a batch is given in real time: one for each nanosecond until it stops, and then two for each worker
    and two to stop. -/
def liveFuel (b : Batch) : Nat := b.deadline - b.start + 2 * b.targets.length + 2

/-- The batch when it has run in real time. It is over then if its calls heed the stop. -/
def live (b : Batch) (lapse : Nat → Nat) : State := b.runLive lapse b.liveFuel b.initial

end BatchFetch.Batch
