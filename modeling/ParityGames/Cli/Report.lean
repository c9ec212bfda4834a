import ParityGames.Screen.Table
import ParityGames.Pipeline.Runner
import ParityGames.Benchmark
import ParityGames.Text.Floating
import ParityGames.Text.Duration

/-!
# What the commands print

The command line shows its results as short reports: a title, key/value
lines with the keys in a column of sixteen, status lines that start with an
icon (`✓`, `!`, `›`), and bordered tables.  Colours are off, so the styles
only shape the text: a styled text has its tabs widened to four spaces and,
when it spans several lines, every line padded to the widest.

`bench --csv` writes three `;`-separated tables instead, each after its
title: the lift counts, the times in microseconds, and whether the odd
player wins vertex `0`.  A cell is quoted when it holds the separator, a
quote or a line break, starts with a blank, or is `\.`; quotes inside are
doubled.
-/

namespace ParityGames

namespace Analysis

/-- The summary as a JSON object; the hubs appear only when there are some. -/
def Summary.toJson (s : Summary) : Json :=
  .obj ([("vertices", Json.nat s.vertices), ("edges", Json.nat s.edges),
    ("max_priority", Json.nat s.maxPriority), ("even_owned", Json.nat s.evenOwned),
    ("odd_owned", Json.nat s.oddOwned), ("self_loops", Json.nat s.selfLoops),
    ("priority_histogram", .arr (s.histogram.toList.map Json.nat)),
    ("max_out_degree", Json.nat s.maxOutDegree), ("max_in_degree", Json.nat s.maxInDegree),
    ("mean_out_degree", .num (Text.floatJson s.meanOutDegree)),
    ("std_out_degree", .num (Text.floatJson s.stdOutDegree)),
    ("sccs", Json.nat s.sccs), ("nontrivial_sccs", Json.nat s.nontrivialSccs),
    ("largest_scc", Json.nat s.largestScc)] ++
    (if s.hubs.isEmpty then [] else [("hubs", .arr (s.hubs.map Json.nat))]))

end Analysis

namespace Cli

open Screen

/-- How many winners a solve shows unless asked for all. -/
def winnersPreview : Nat := 16

/-- A title line. -/
def titleLine (s : String) : String := block 0 0 s ++ "\n"

/-- A key/value line, the key in a column of sixteen. -/
def keyValue (key value : String) : String := block 16 0 key ++ " " ++ block 0 0 value ++ "\n"

/-- A success line. -/
def successLine (s : String) : String := "✓ " ++ s ++ "\n"

/-- A warning line. -/
def warningLine (s : String) : String := "! " ++ block 0 0 s ++ "\n"

/-- An information line. -/
def infoLine (s : String) : String := "› " ++ s ++ "\n"

/-- An indented detail line. -/
def detailLine (s : String) : String := "  " ++ block 0 0 s ++ "\n"

/-- The line naming a file that was written. -/
def fileLine (path : String) : String := "  → " ++ block 0 0 path ++ "\n"

/-- The size of a game and whether its solution came from the cache. -/
def statsLine (vertices edges : Nat) (cached : Bool) : String :=
  s!"  {vertices} vertices · {edges} edges · " ++ (if cached then "cached" else "fresh") ++ "\n"

/-- The winners of the first `limit` vertices as `v:player`, all of them
when `limit` is zero, and how many more there are. -/
def winnersLine (winners : Array Player) (limit : Nat) : String :=
  let n := if limit > 0 && winners.size > limit then limit else winners.size
  let shown := (winners.toList.take n).zipIdx.map fun (p, v) => s!"{v}:{p.name}"
  " ".intercalate (if n < winners.size then shown ++ [s!"… {winners.size - n} more"] else shown)

/-- What `solve` prints for one or more strategies on a game. -/
def solveReport (path : String) (a : Arena) (results : List Pipeline.Result) (limit : Nat) : String :=
  match results with
  | [] => ""
  | first :: _ =>
    let winners := first.winners.getD #[]
    let head := titleLine path ++ statsLine a.size a.edges (results.all (·.cacheHit)) ++ "\n" ++
      keyValue "winners" (winnersLine winners limit) ++
      keyValue "even wins" (toString (first.wonBy .even).length) ++
      keyValue "odd wins" (toString (first.wonBy .odd).length) ++ "\n"
    match results with
    | [r] =>
      head ++ keyValue "strategy" r.strategy.name ++ keyValue "lifts" (toString r.stats.lifts) ++
        keyValue "recursion depth" (toString r.stats.maxRecursionDepth) ++
        keyValue "locked" (toString r.stats.locked) ++ keyValue "time" (Text.durationText r.duration)
    | _ =>
      let agrees (r : Pipeline.Result) : Bool := r.winners.getD #[] == winners
      let row (r : Pipeline.Result) : List String :=
        [r.strategy.name, toString r.stats.lifts, toString r.stats.maxRecursionDepth,
         toString r.stats.locked, Text.durationText r.duration,
         if !agrees r then "✗ disagrees" else if r.cacheHit then "cached" else "fresh"]
      let table : Table :=
        { header := ["strategy", "lifts", "depth", "locked", "time", ""], rows := results.map row }
      head ++ table.render ++ "\n" ++
        (if results.all agrees then successLine s!"all {results.length} strategies agree"
         else warningLine "strategies disagree on the winners")

/-- The lift and time tables of a benchmark; with `spread`, strategies run
several times show mean and deviation. -/
def benchReport (r : Benchmark.Report) (spread : Bool) : String :=
  let header := "game" :: r.strategies
  let many (x : Benchmark.Result) : Bool := spread && x.runs > 1
  let liftCell (x : Benchmark.Result) : String :=
    if many x then s!"{Text.floatFixed x.liftsMean 1} ± {Text.floatFixed x.liftsStd 1}"
    else toString x.lifts
  let timeCell (x : Benchmark.Result) : String :=
    if many x then s!"{Text.floatFixed x.timeMean 0} ± {Text.floatFixed x.timeStd 0}" else "0"
  let rows := r.rows.toList
  let lifts : Table :=
    { header := header ++ ["agree"],
      rows := rows.map fun w => w.game :: w.results.toList.map liftCell ++ [if w.agree then "✓" else "✗"] }
  let times : Table := { header, rows := rows.map fun w => w.game :: w.results.toList.map timeCell }
  let disagree := (rows.filter (!·.agree)).length
  titleLine "Lifts" ++ lifts.render ++ "\n" ++ titleLine "Time (µs)" ++ times.render ++ "\n" ++
    (if disagree > 0 then warningLine s!"strategies disagree on {disagree} of {rows.length} games"
     else successLine s!"all strategies agree on {rows.length} games")

/-- Whether a character is a Unicode blank. -/
def isUnicodeBlank (c : Char) : Bool :=
  let n := c.toNat
  (9 ≤ n && n ≤ 13) || n == 32 || n == 0x85 || n == 0xA0 || n == 0x1680 ||
    (0x2000 ≤ n && n ≤ 0x200A) || n == 0x2028 || n == 0x2029 || n == 0x202F ||
    n == 0x205F || n == 0x3000

/-- A cell of a `;`-separated table, quoted when it must be. -/
def csvField (s : String) : String :=
  let cs := s.toList
  let needs := !cs.isEmpty && (cs == ['\\', '.'] ||
    cs.any (fun c => c == ';' || c == '"' || c == '\r' || c == '\n') || (cs.head?.map isUnicodeBlank).getD false)
  if !needs then s else "\"" ++ String.join (s.toList.map fun c => if c == '"' then "\"\"" else c.toString) ++ "\""

/-- A row of a `;`-separated table. -/
def csvRecord (cells : List String) : String := ";".intercalate (cells.map csvField) ++ "\n"

/-- The `;`-separated tables of a benchmark. -/
def benchCsv (r : Benchmark.Report) : String :=
  let header := csvRecord ("path" :: r.strategies)
  let table (title : String) (cell : Benchmark.Result → String) : String :=
    title ++ "\n" ++ header ++ String.join (r.rows.toList.map fun w => csvRecord (w.game :: w.results.toList.map cell))
  table "Lifts:" (fun x => toString x.lifts) ++ table "Time (µs):" (fun _ => "0") ++
    table "Outcome V0:" (fun x => if x.oddWinsFirst then "1" else "0")

/-- What `info` prints about a game. -/
def summaryReport (path : String) (s : Analysis.Summary) : String :=
  let histogram := s.histogram.toList.zipIdx.filterMap fun (n, p) =>
    if n > 0 then some [toString p, toString n] else none
  let table : Table := { header := ["priority", "vertices"], rows := histogram }
  titleLine path ++ keyValue "vertices" (toString s.vertices) ++ keyValue "edges" (toString s.edges) ++
    keyValue "owned by even" (toString s.evenOwned) ++ keyValue "owned by odd" (toString s.oddOwned) ++
    keyValue "self-loops" (toString s.selfLoops) ++ keyValue "max priority" (toString s.maxPriority) ++
    keyValue "out-degree" s!"max {s.maxOutDegree}, mean {Text.floatFixed s.meanOutDegree 2} ± {Text.floatFixed s.stdOutDegree 2}" ++
    keyValue "in-degree" s!"max {s.maxInDegree}" ++
    keyValue "SCCs" s!"{s.sccs} ({s.nontrivialSccs} nontrivial, largest {s.largestScc})" ++
    (if s.hubs.isEmpty then "" else keyValue "hubs" (", ".intercalate (s.hubs.map toString))) ++
    "\n" ++ table.render ++ "\n"

theorem winnersLine_more : winnersLine #[.even, .odd, .even] 2 = "0:even 1:odd … 1 more" := by decide +kernel

theorem csvField_separator : csvField "a;b" = "\"a;b\"" := by decide +kernel

end Cli

end ParityGames
