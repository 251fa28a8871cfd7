import BatchFetch.RateLimit.Bucket

/-! # Waiting in line

Callers who wait for tokens of one bucket. Each looks at the bucket, sleeps for the wait that it is
told, and looks again; whoever looks first takes the token. Those whose timers end together look in
the order in which the timers were set. Cancelling the line ends every wait at once. -/

namespace BatchFetch

/-- A line in front of a bucket: when each waiting caller looks again, in the order in which the
    timers were set, and when callers were let through. -/
structure Line where
  now : Nat
  bucket : Bucket
  waiting : List Nat
  admitted : List Nat := []

namespace Line

/-- A line of `n` callers who arrive together. -/
def arrive (now : Nat) (bucket : Bucket) (n : Nat) : Line :=
  { now, bucket, waiting := List.replicate n now }

def next? (q : Line) : Option Nat := q.waiting.min?

/-- The caller whose turn it is at time `t` looks at the bucket. -/
def look (l : Limits) (t : Nat) (q : Line) : Line :=
  let others := q.waiting.erase t
  match q.bucket.take l t with
  | (.granted, b) => { now := t, bucket := b, waiting := others, admitted := q.admitted ++ [t] }
  | (.wait d, b) =>
    { now := t, bucket := b, waiting := others ++ [Clock.timer t d], admitted := q.admitted }

/-- Lets callers look until all are through or the line is cancelled, which ends it at once. -/
def run (l : Limits) (cancelAt : Option Nat) : Nat → Line → Line
  | 0, q => q
  | fuel + 1, q =>
    match q.next? with
    | none => q
    | some t =>
      match cancelAt with
      | some c => if c ≤ t then { q with now := max q.now c } else run l cancelAt fuel (q.look l t)
      | none => run l cancelAt fuel (q.look l t)

/-- How many looks a line of `n` is given: in each round one caller gets through, and all others may
    have looked in vain, more than once where rounding left a token just short of one. -/
def looks (n : Nat) : Nat := 8 * (n + 2) * (n + 2)

end Line

end BatchFetch
