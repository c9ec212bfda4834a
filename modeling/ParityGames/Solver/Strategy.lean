import ParityGames.Failure

/-!
# Lifting strategies and lock policies

A strategy decides in which order vertices are lifted.  All thirteen reach the
same least fixpoint; they differ in how much work they do.  The two lock
policies decide how far the propagation strategies spread locks.
-/

namespace ParityGames

/-- The lifting strategies. -/
inductive Strategy where
  | input
  | inputNonReturning
  | random
  | randomNonReturning
  | priority
  | priorityNonReturning
  | incoming
  | incomingNonReturning
  | recursive
  | recursivePriority
  | recursiveIncoming
  | propagation
  | propagationHybrid
  deriving DecidableEq, Repr, Inhabited

namespace Strategy

/-- Every strategy, in the order they are listed and compared. -/
def all : List Strategy :=
  [.input, .inputNonReturning, .random, .randomNonReturning, .priority,
    .priorityNonReturning, .incoming, .incomingNonReturning, .recursive,
    .recursivePriority, .recursiveIncoming, .propagation, .propagationHybrid]

/-- The name of a strategy. -/
def name : Strategy → String
  | .input => "input"
  | .inputNonReturning => "input-nonreturning"
  | .random => "random"
  | .randomNonReturning => "random-nonreturning"
  | .priority => "priority"
  | .priorityNonReturning => "priority-nonreturning"
  | .incoming => "incoming"
  | .incomingNonReturning => "incoming-nonreturning"
  | .recursive => "recursive"
  | .recursivePriority => "recursive-priority"
  | .recursiveIncoming => "recursive-incoming"
  | .propagation => "propagation"
  | .propagationHybrid => "propagation-hybrid"

/-- The strategy used when none is chosen. -/
def default : Strategy := .recursive

/-- Whether the strategy draws from the random generator. -/
def isRandomized : Strategy → Bool
  | .random | .randomNonReturning => true
  | _ => false

/-- The strategy with exactly this name. -/
def ofName? (s : String) : Option Strategy := all.find? (·.name == s)

/-- The failure for a name that is no strategy. -/
def unknown (given : String) : Failure :=
  .coded .invalidStrategy s!"unknown strategy {Text.quote given}"

/-- Reads a strategy name, ignoring case and surrounding blanks. -/
def parse (s : String) : Except Failure Strategy :=
  match ofName? (Text.keyword s) with
  | some st => .ok st
  | none => .error (unknown s)

end Strategy

/-- How far the propagation strategies lock predecessors. -/
inductive LockPolicy where
  | safe
  | eager
  deriving DecidableEq, Repr, Inhabited

namespace LockPolicy

/-- The name of a policy. -/
def name : LockPolicy → String
  | .safe => "safe"
  | .eager => "eager"

/-- The number of a policy. -/
def index : LockPolicy → Nat
  | .safe => 0
  | .eager => 1

/-- Reads a policy name, ignoring case and surrounding blanks; the empty name
is the safe policy. -/
def parse (s : String) : Except Failure LockPolicy :=
  match Text.keyword s with
  | "" | "safe" => .ok .safe
  | "eager" => .ok .eager
  | _ => .error (.coded .invalidConfig
      s!"unknown lock policy {Text.quote s} (want safe or eager)")

end LockPolicy

end ParityGames
