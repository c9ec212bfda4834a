import ParityGames.Format.PGSolver
import ParityGames.Format.GameJson

/-!
# Game formats

A game is stored either in PGSolver format or in JSON.  A file name decides
which: a name ending in `.json`, ignoring case and one trailing `.gz`, is
JSON, and every other name is PGSolver.
-/

namespace ParityGames

/-- The two encodings of a game. -/
inductive GameFormat where
  | pgsolver
  | json
  deriving Repr, DecidableEq, Inhabited

namespace GameFormat

/-- The name of a format. -/
def name : GameFormat → String
  | .pgsolver => "pgsolver"
  | .json => "json"

/-- The format a file name implies. -/
def detect (path : String) : GameFormat :=
  let lower := path.map Char.toLower
  let base := if lower.endsWith ".gz" then (lower.dropEnd 3).toString else lower
  if base.endsWith ".json" then .json else .pgsolver

/-- Reads a game in a format. -/
def read (f : GameFormat) (text : String) : Except Failure Arena :=
  match f with
  | .pgsolver => (PGSolver.read text).mapError (·.toFailure)
  | .json => (GameJson.read text).mapError (·.toFailure)

theorem detect_json_gz : detect "game.json.gz" = .json := by decide +kernel

theorem detect_plain : detect "game" = .pgsolver := by decide +kernel

end GameFormat

end ParityGames
