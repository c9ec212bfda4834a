import ParityGames.Json.Parse
import ParityGames.Json.Decode
import ParityGames.Game.Player

/-!
# Stored solutions

A stored solution is the JSON object of its winners (as player names), the
final measures (as text), the solve statistics and the solve time in
microseconds.  Reading one back follows the rules of the JSON record
decoder: unknown fields are skipped, names match ignoring case, and any
mismatch or unknown player name makes the entry unreadable.  An absent or
`null` list stays absent, which is not the same as an empty list.
-/

namespace ParityGames

namespace Pipeline

/-- Solve statistics as stored: any integers. -/
structure Counts where
  lifts : Int := 0
  maxRecursionDepth : Int := 0
  locked : Int := 0
  deriving Repr, DecidableEq, Inhabited

/-- A stored solution. -/
structure Entry where
  winners : Option (Array Player) := none
  measures : Option (Array String) := none
  stats : Counts := {}
  durationUs : Int := 0
  deriving Repr, Inhabited

/-- The JSON of statistics. -/
def Counts.toJson (c : Counts) : Json :=
  .obj [("lifts", Json.int c.lifts), ("max_recursion_depth", Json.int c.maxRecursionDepth),
    ("locked", Json.int c.locked)]

/-- The JSON of a list that may be absent. -/
def optionalList {α : Type} (f : α → Json) : Option (Array α) → Json
  | some xs => .arr (xs.toList.map f)
  | none => .null

/-- The JSON of a stored solution. -/
def Entry.toJson (e : Entry) : Json :=
  .obj [("winners", optionalList (fun (p : Player) => Json.str p.name) e.winners),
    ("measures", optionalList Json.str e.measures), ("stats", e.stats.toJson),
    ("duration_us", Json.int e.durationUs)]

/-- Fills one field of statistics. -/
def fillCounts (c : Counts) (field : String) (v : Json) : Json.Decoding Counts :=
  match field with
  | "lifts" => return { c with lifts := ← Json.intField "int" c.lifts v }
  | "max_recursion_depth" =>
    return { c with maxRecursionDepth := ← Json.intField "int" c.maxRecursionDepth v }
  | "locked" => return { c with locked := ← Json.intField "int" c.locked v }
  | _ => pure c

/-- Stored players. -/
def playerKind : Json.ElementKind Player :=
  { size := 8, refs := false, blank := .even, fill := Json.parsedField "arena.Player" Player.parse }

/-- Stored texts. -/
def textKind : Json.ElementKind String :=
  { size := 16, refs := true, blank := "", fill := Json.textField "string" }

/-- A stored solution while it is read. -/
structure EntryFields where
  winners : Option (Buffer Player) := none
  measures : Option (Buffer String) := none
  stats : Counts := {}
  durationUs : Int := 0

/-- Fills one field of a stored solution. -/
def fillEntry (e : EntryFields) (field : String) (v : Json) : Json.Decoding EntryFields :=
  match field with
  | "winners" => return { e with winners := ← Json.listField "[]arena.Player" playerKind e.winners v }
  | "measures" => return { e with measures := ← Json.listField "[]string" textKind e.measures v }
  | "stats" => do
    let stats ← Json.recordField "Stats" "solver.Stats" ["lifts", "max_recursion_depth", "locked"]
      fillCounts e.stats v
    return { e with stats }
  | "duration_us" => return { e with durationUs := ← Json.intField "int64" e.durationUs v }
  | _ => pure e

/-- Reads a stored solution; the error is the reason it is unreadable. -/
def Entry.read (text : String) : Except String Entry := do
  let doc ← (Json.readExact text).mapError (·.exactText)
  let names := ["winners", "measures", "stats", "duration_us"]
  let decoding := Json.recordField "cachedSolution" "pipeline.cachedSolution" names fillEntry {} doc
  let fields ← (Json.decodeAll decoding).mapError (·.message)
  return {
    winners := fields.winners.map (·.items)
    measures := fields.measures.map (·.items)
    stats := fields.stats
    durationUs := fields.durationUs }

end Pipeline

end ParityGames
