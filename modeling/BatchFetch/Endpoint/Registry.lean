import BatchFetch.Breaker.Basic

/-! # Registries

A registry holds one circuit breaker for each key that was looked up, in the order in which the keys
appeared. -/

namespace BatchFetch

/-- The breakers by key. -/
structure Registry where
  breakers : List (String × Breaker) := []
deriving DecidableEq, Repr

namespace Registry

/-- The keys in the order in which they appeared. -/
def keys (r : Registry) : List String := r.breakers.map (·.1)

/-- The breaker of a key, which is new if the key is. -/
def get (r : Registry) (key : String) : Breaker := (r.breakers.lookup key).getD {}

/-- Puts a breaker at its key; a new key comes last. -/
def put (r : Registry) (key : String) (b : Breaker) : Registry :=
  if r.keys.contains key then
    { breakers := r.breakers.map fun e => if e.1 == key then (key, b) else e }
  else { breakers := r.breakers ++ [(key, b)] }

def touch (r : Registry) (key : String) : Registry := r.put key (r.get key)

def size (r : Registry) : Nat := r.breakers.length

def isEmpty (r : Registry) : Bool := r.breakers.isEmpty

/-- The place of a key in the order of appearance. -/
def place (r : Registry) (key : String) : Nat := r.keys.idxOf key

def ask (s : Breaker.Settings) (now : Nat) (key : String) (r : Registry) :
    Breaker.Turn Admission × Registry :=
  let t := (r.get key).ask s now
  (t, r.put key t.breaker)

/-- Reports to the breaker of a key how a call ended. -/
def report (s : Breaker.Settings) (now : Nat) (key : String) (p : Permit) (v : Verdict) (r : Registry) :
    Breaker.Turn Unit × Registry :=
  let t := (r.get key).report s now p v
  (t, r.put key t.breaker)

end Registry

end BatchFetch
