import ParityGames.Solver.Run
import ParityGames.Analysis.Summary

/-!
# Comparing strategies

A benchmark solves every game with every requested strategy and reports, per
game, the lift counts and winners of each strategy and whether all of them
agree on the winners.  A randomized strategy may be run several times with
consecutive seeds; its row then also carries the mean and the corrected
standard deviation of the lift counts.  The first run of a strategy gives the
counts, winners and statistics shown for it.

Strategies are requested by name, so a report may name a strategy that does
not exist: solving with it fails, and the report stays as far as it got.  A
game that is not valid stops the benchmark before any of its strategies run.
Only whole rows enter the report.
-/

namespace ParityGames

namespace Benchmark

/-- A named game. -/
structure Game where
  name : String
  arena : Arena

/-- What to run: strategies by name (empty means all), the runs of a
randomized strategy, the seed of its first run and the lock policy, and the
library whose statistics summarize the runs. -/
structure Options where
  strategies : List String := []
  repetitions : Int := 1
  seed : Int := 0
  policy : LockPolicy := .safe
  cancelled : Bool := false
  library : Analysis.Library := .standard

/-- The measurements of one strategy on one game. -/
structure Result where
  strategy : String
  lifts : Nat := 0
  stats : Stats := {}
  winners : Array Player := #[]
  runs : Nat := 1
  liftsMean : Float := 0
  liftsStd : Float := 0
  timeMean : Float := 0
  timeStd : Float := 0
  deriving Inhabited

/-- The measurements of one game. -/
structure Row where
  game : String
  vertices : Nat
  edges : Nat
  results : Array Result := #[]
  agree : Bool := true

/-- A benchmark report: the strategy columns and one row per finished game. -/
structure Report where
  strategies : List String
  rows : Array Row := #[]

/-- A benchmark as far as it got, the failure that stopped it, and its log. -/
structure Outcome where
  report : Report
  failure : Option Failure := none
  log : List Log.Record := []

/-- Whether vertex `0` is won by the odd player. -/
def Result.oddWinsFirst (r : Result) : Bool := r.winners[0]? == some Player.odd

/-- The mean and corrected standard deviation of samples by the library's
statistics; one sample has none. -/
def spread (lib : Analysis.Library) (xs : List Float) : Float × Float :=
  match xs with
  | [x] => (x, 0)
  | _ => lib.meanStdDev xs

/-- Adds a run number to a seed, wrapping as a signed 64-bit word. -/
def seedPlus (seed : Int) (i : Nat) : Int :=
  (Int64.ofInt ((if seed == 0 then 1 else seed) + i)).toInt

/-- Runs one strategy `runs` times; the result, the winners of every run and
the log, or the failure that stopped it. -/
def runStrategy (o : Options) (a : Arena) (name : String) :
    Except Failure (Result × List (Array Player)) × List Log.Record :=
  if o.cancelled then (.error Failure.canceledFailure, [])
  else
    match Strategy.ofName? name with
    | none => (.error (Strategy.unknown name), [])
    | some st =>
      let runs := if st.isRandomized && o.repetitions > 1 then o.repetitions.toNat else 1
      let solveRun (i : Nat) :=
        (Solver.new a (Solver.generatorFor (seedPlus o.seed i)) o.policy).solve st
      let outs : List (Array Player × Solver × List Log.Record) := (List.range runs).map solveRun
      let lifts := outs.map fun (_, s, _) => s.stats.lifts.toFloat
      let (mean, std) := spread o.library lifts
      let (tMean, tStd) := spread o.library (outs.map fun _ => 0)
      let log := outs.flatMap fun (_, _, l) => l
      match outs with
      | [] => (.error Failure.canceledFailure, log)
      | (w, s, _) :: _ =>
        let res : Result :=
          { strategy := name, lifts := s.stats.lifts, stats := s.stats, winners := w, runs,
            liftsMean := mean, liftsStd := std, timeMean := tMean, timeStd := tStd }
        (.ok (res, outs.map (·.1)), log)

/-- Benchmarks one game: its row, or the failure with the log so far. -/
def runGame (o : Options) (strategies : List String) (g : Game) :
    Except Failure Row × List Log.Record :=
  match g.arena.validate with
  | .error e => (.error ((Failure.ofArena e).context g.name), [])
  | .ok _ =>
    let start : Row := { game := g.name, vertices := g.arena.size, edges := g.arena.edges }
    let step (acc : Except Failure (Row × Option (Array Player)) × List Log.Record) (name : String) :=
      match acc with
      | (.error f, log) => (.error f, log)
      | (.ok (row, reference), log) =>
        match runStrategy o g.arena name with
        | (.error f, more) => (.error ((f.context name).context g.name), log ++ more)
        | (.ok (res, outcomes), more) =>
          let reference := reference <|> outcomes.head?
          let agree := row.agree && outcomes.all fun w => some w == reference
          (.ok ({ row with results := row.results.push res, agree }, reference), log ++ more)
    match strategies.foldl step (.ok (start, none), []) with
    | (.error f, log) => (.error f, log)
    | (.ok (row, _), log) =>
      let warn := if row.agree then [] else [Log.warn "strategies disagree" [("game", .text g.name)]]
      (.ok row, log ++ warn ++
        [Log.debug "benchmarked game" [("game", .text g.name), ("vertices", .int row.vertices)]])

/-- Benchmarks every game in order, stopping at the first failure. -/
def run (o : Options) (games : List Game) : Outcome :=
  let strategies := if o.strategies.isEmpty then Strategy.all.map (·.name) else o.strategies
  games.foldl (fun out g =>
    if out.failure.isSome then out
    else
      match runGame o strategies g with
      | (.ok row, log) =>
        { out with report := { out.report with rows := out.report.rows.push row }, log := out.log ++ log }
      | (.error f, log) => { out with failure := some f, log := out.log ++ log })
    { report := { strategies } }

end Benchmark

end ParityGames
