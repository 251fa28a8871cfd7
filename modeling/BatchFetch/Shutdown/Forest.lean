/-! # Shutdown

Cancellation tokens form trees: a coordinator is at the root, its tokens and their tokens below it.
Cancelling a token marks it and everything below it; what is created below a marked token is marked
from the start. Triggering a coordinator cancels its root; handles made by cloning share the root. -/

namespace BatchFetch.Shutdown

/-- A token: the place of its parent, unless it is a root, and its mark. -/
structure Node where
  parent : Option Nat
  cancelled : Bool
deriving DecidableEq, Repr

/-- The tokens in order of creation, each after its parent, and the places of the coordinators and
    tokens that were handed out. -/
structure Forest where
  nodes : List Node := []
  coordinators : List Nat := []
  tokens : List Nat := []
deriving Repr

/-- One use of a forest; coordinators and tokens are named by their order of creation. -/
inductive Use where
  | coordinator
  | clone (n : Nat)
  | child (n : Nat)
  | grandchild (n : Nat)
  | trigger (n : Nat)
  | cancel (n : Nat)
deriving DecidableEq, Repr

def marked (nodes : List Node) (x : Nat) : Bool := (nodes[x]?).any (·.cancelled)

/-- Marks the token at place `x` and all tokens below it. Since a token comes after its parent, one
    pass in order of creation finds each parent marked before its children. -/
def mark (x : Nat) (nodes : List Node) : List Node :=
  nodes.foldl (fun done n =>
    done ++ [{ n with cancelled := n.cancelled || done.length == x || n.parent.any (marked done) }]) []

namespace Forest

def start : Forest := { nodes := [⟨none, false⟩], coordinators := [0] }

/-- Whether the token at a place is cancelled. -/
def isCancelled (f : Forest) (x : Nat) : Bool := marked f.nodes x

/-- A token below the one at place `x`, marked if that is. -/
def below (f : Forest) (x : Nat) : Node := ⟨some x, f.isCancelled x⟩

/-- Adds a root and hands it out as a coordinator. -/
def addCoordinator (f : Forest) : Forest :=
  { f with nodes := f.nodes ++ [⟨none, false⟩], coordinators := f.coordinators ++ [f.nodes.length] }

/-- Adds a token below the one at place `x` and hands it out. -/
def addToken (f : Forest) (x : Nat) : Forest :=
  { f with nodes := f.nodes ++ [f.below x], tokens := f.tokens ++ [f.nodes.length] }

def cancelAt (f : Forest) (x : Nat) : Forest := { f with nodes := mark x f.nodes }

/-- One use of a forest; a name that nothing has makes no difference. -/
def step (f : Forest) : Use → Forest
  | .coordinator => f.addCoordinator
  | .clone n =>
    (f.coordinators[n]?).elim f fun x => { f with coordinators := f.coordinators ++ [x] }
  | .child n => (f.coordinators[n]?).elim f f.addToken
  | .grandchild n => (f.tokens[n]?).elim f f.addToken
  | .trigger n => (f.coordinators[n]?).elim f f.cancelAt
  | .cancel n => (f.tokens[n]?).elim f f.cancelAt

/-- The forest after some uses of a single coordinator and what comes of it. -/
def after (us : List Use) : Forest := us.foldl step start

def triggered (f : Forest) : List Bool := f.coordinators.map f.isCancelled

def cancelled (f : Forest) : List Bool := f.tokens.map f.isCancelled

/-- Whether a wait for the token at place `x` ends while the forest is used so. It ends when the token is found to be
    cancelled, at once or after some use. -/
def waitEnds (f : Forest) (x : Nat) : List Use → Bool
  | [] => f.isCancelled x
  | u :: us => f.isCancelled x || (f.step u).waitEnds x us

/-- Whether a wait for coordinator `n` to be triggered ends while the forest is used so. -/
def resolves (f : Forest) (n : Nat) (us : List Use) : Bool := (f.coordinators[n]?).any (f.waitEnds · us)

end Forest

end BatchFetch.Shutdown
