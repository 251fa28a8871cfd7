import BatchFetch.Dispatch.Worker

/-! # Running a batch

A running batch takes one step after another. It stops when its caller gives it up or its time is over;
a worker moves; a worker that has ended is collected; or, when nothing of this can happen, the clock goes
on to the next time at which something does. `Step` allows any order of what can happen at one time, `next`
serves the workers in line. -/

namespace BatchFetch.Batch

/-- Whether the caller gives the batch up now. -/
def callerDue (b : Batch) (s : State) : Bool := !s.givenUp && b.cancelAt.any (· ≤ s.now)

/-- Whether the batch runs out of time now. -/
def deadlineDue (b : Batch) (s : State) : Bool := !s.stopped && decide (b.deadline ≤ s.now)

/-- Whether the batch has to be stopped now. -/
def stopDue (b : Batch) (s : State) : Bool := b.callerDue s || b.deadlineDue s

/-- The batch is stopped. -/
def stop (b : Batch) (s : State) : State :=
  { s with stopped := true, givenUp := s.givenUp || b.callerDue s }

/-- The times at which something will happen by itself. -/
def wakeTimes (b : Batch) (s : State) : List Nat :=
  (List.range s.phases.length).filterMap s.wakes? ++
    (if s.givenUp then [] else b.cancelAt.toList) ++ (if s.stopped then [] else [b.deadline])

/-- The clock goes on to a time. -/
def State.advance (s : State) (t : Nat) : State := { s with now := t }

/-- The steps of a batch, in any order. -/
inductive Step (b : Batch) : State → State → Prop where
  /-- It is stopped when that is due. -/
  | stop {s : State} (due : b.stopDue s = true) : Step b s (b.stop s)
  /-- A worker moves. -/
  | move {s : State} (i : Nat) (can : s.canMove i = true) : Step b s (b.move i s)
  /-- A worker that has ended is collected. -/
  | collect {s : State} (i : Nat) (e : Exit) (ended : (i, e) ∈ s.exits) : Step b s (b.collect i e s)
  /-- Time passes when there is nothing else to do. -/
  | wait {s : State} (t : Nat) (ready : b.stopDue s = false) (idle : ∀ i, s.canMove i = false)
      (collected : s.exits = []) (going : s.isOver = false) (soonest : (b.wakeTimes s).min? = some t) :
      Step b s (s.advance t)

/-- What a batch can come to from its start. -/
inductive Reachable (b : Batch) : State → Prop where
  | start : Reachable b b.initial
  | step {s t : State} (reach : Reachable b s) (hs : Step b s t) : Reachable b t

/-- The next step, with the workers in line; none when the batch is over. -/
def next (b : Batch) (s : State) : Option State :=
  if b.stopDue s then some (b.stop s)
  else
    match s.exits with
    | (i, e) :: _ => some (b.collect i e s)
    | [] =>
      match s.line.find? s.canMove with
      | some i => some (b.move i s)
      | none => if s.isOver then none else (b.wakeTimes s).min?.map s.advance

/-- Takes steps until the batch is over, but no more than so many. -/
def run (b : Batch) : Nat → State → State
  | 0, s => s
  | fuel + 1, s =>
    match b.next s with
    | some s => b.run fuel s
    | none => s

/-- How many steps a batch is given to end. -/
def fuel : Nat := 0x4000000000000000

/-- The batch when it is over; none if it does not come to that. A call may never end, and a limiter that is short of less
    than a token's worth of a nanosecond lets its callers look again and again while the clock stands still. -/
def final? (b : Batch) : Option State :=
  let s := b.run fuel b.initial
  if s.isOver then some s else none

end BatchFetch.Batch
