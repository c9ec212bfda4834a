import ParityGames.Failure

/-!
# Size limits

Checks that keep a request within the resources a server grants it: the
number of vertices, the largest priority, the total number of measure
components, and the shape of an output path.  A limit of zero or less turns
its check off.  The component count is computed in signed 64-bit arithmetic,
which wraps, as the number of vertices times half of one more than the
largest priority.
-/

namespace ParityGames

namespace Limits

/-- Refuses more vertices than the limit. -/
def checkGameSize (vertices limit : Int) : Except Failure Unit :=
  if limit > 0 && vertices > limit then
    .error (.coded .gameTooLarge s!"game has {vertices} vertices (max {limit})")
  else .ok ()

/-- Refuses a largest priority above the limit. -/
def checkPriority (maxPriority limit : Int) : Except Failure Unit :=
  if limit > 0 && maxPriority > limit then
    .error (.coded .gameTooLarge s!"game has priority {maxPriority} (max {limit})")
  else .ok ()

/-- The number of measure components, in wrapping 64-bit arithmetic. -/
def measureCells (vertices maxPriority : Int) : Int :=
  (Int64.ofInt vertices * ((Int64.ofInt maxPriority + 1) / 2)).toInt

/-- Refuses measures with more components in total than the limit. -/
def checkMeasureSize (vertices maxPriority limit : Int) : Except Failure Unit :=
  if limit ≤ 0 then .ok ()
  else
    let cells := measureCells vertices maxPriority
    if cells > limit then
      .error (.coded .gameTooLarge
        s!"measures of {vertices} vertices up to priority {maxPriority} need {cells} components (max {limit})")
    else .ok ()

/-- Control characters: the C0 and C1 ranges and `DEL`. -/
def isControl (c : Char) : Bool := c.toNat < 32 || (c.toNat ≥ 0x7F && c.toNat ≤ 0x9F)

/-- Checks a path to write to: not empty, at most 500 bytes, no control
characters, and not ending in a separator. -/
def checkOutputPath (path : String) : Except Failure Unit :=
  if path.isEmpty then .error (.coded .invalidPath "path cannot be empty")
  else if path.utf8ByteSize > 500 then
    .error (.coded .invalidPath "path too long (max 500 characters)")
  else if path.toList.any isControl then
    .error (.coded .invalidPath "path contains invalid characters")
  else if path.endsWith "/" || path.endsWith "\\" then
    .error (.coded .invalidPath "path must name a file, not a directory")
  else .ok ()

theorem measureCells_small : measureCells 10 3 = 20 := by decide

end Limits

end ParityGames
