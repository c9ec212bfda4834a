/-!
# Log records

A log record is a level, a message and a list of named values.  Operations
that report progress return their records as data; a logger prints them,
or drops those below its level.
-/

namespace ParityGames

namespace Log

/-- The severity of a record, in increasing order. -/
inductive Level where
  | debug
  | info
  | warn
  | error
  deriving DecidableEq, Repr

/-- The rank of a level, for comparisons. -/
def Level.rank : Level → Nat
  | .debug => 0
  | .info => 1
  | .warn => 2
  | .error => 3

/-- A value attached to a record. -/
inductive Value where
  | text (s : String)
  | int (n : Int)
  | duration (nanos : Nat)
  deriving DecidableEq, Repr

/-- A log record. -/
structure Record where
  level : Level
  message : String
  fields : List (String × Value) := []
  deriving DecidableEq, Repr

/-- A debug record. -/
def debug (message : String) (fields : List (String × Value) := []) : Record :=
  { level := .debug, message, fields }

/-- An info record. -/
def info (message : String) (fields : List (String × Value) := []) : Record :=
  { level := .info, message, fields }

/-- A warning record. -/
def warn (message : String) (fields : List (String × Value) := []) : Record :=
  { level := .warn, message, fields }

/-- An error record. -/
def error (message : String) (fields : List (String × Value) := []) : Record :=
  { level := .error, message, fields }

end Log

end ParityGames
