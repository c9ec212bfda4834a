import ParityGames.Pipeline.Runner
import ParityGames.Format.GameFile

/-!
# Loading games

Loading reads a game file (see `GameFile.read`) and reports it as an
instrumented step: a missing file is coded `FILE_NOT_FOUND`, any other
failure `INVALID_GAME`, both around the reason, as `load <path>: …`.  A
request that may not go on fails before the file is opened.
-/

namespace ParityGames

namespace Pipeline

variable {m : Type → Type} [Monad m]

/-- Loads a game file. -/
def load (p : Platform m) (fx : Effects m) (life : Lifetime) (path : String) :
    m (Except Failure Arena) := do
  if let some f := life.failure? then return .error f
  fx.event (.loadStart path)
  match ← GameFile.read p path with
  | .error f =>
    fx.event (.loadComplete path 0 0 (some f.text))
    let code := if f.has .notExist then ErrorCode.fileNotFound else ErrorCode.invalidGame
    return .error (Failure.wrapCoded code f s!"load {path}")
  | .ok a =>
    fx.event (.loadComplete path a.size 0 none)
    fx.log (Log.debug "loaded game" [("path", .text path), ("vertices", .int a.size),
      ("edges", .int a.edges)])
    return .ok a

end Pipeline

end ParityGames
