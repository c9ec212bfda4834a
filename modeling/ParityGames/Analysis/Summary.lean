import ParityGames.Analysis.Graph

/-!
# Structural summary of a game

Sizes, owner and priority counts, degree statistics, the strongly connected
components and, on request, the vertices of highest PageRank.

The mean and standard deviation of the out-degrees use the corrected
two-pass formula: with `d = x - mean`, the variance is
`(Σd² - (Σd)²/n) / (n - 1)`; a single vertex has deviation `0`.  A component
is nontrivial when it has more than one vertex or a self-loop, since only
those can hold an infinite play.

PageRank uses damping `0.85` on the simple graph: a node without successors
spreads its weight over all nodes.  The ranks are iterated from the uniform
vector until they settle, and nodes whose ranks agree to ten significant
digits count as tied and are ordered by id.

The components, the PageRank weights and the mean and deviation come from a
graph library (`Library`), which the summary takes as a parameter: what
is proved of summaries holds for every library, and where it needs a
property of the library that property is named (`Library.Partitions`).
`Library.standard` computes them by the plain algorithms above.
-/

namespace ParityGames

namespace Analysis

/-- The structural summary of a game. -/
structure Summary where
  vertices : Nat := 0
  edges : Nat := 0
  maxPriority : Nat := 0
  evenOwned : Nat := 0
  oddOwned : Nat := 0
  selfLoops : Nat := 0
  histogram : Array Nat := #[]
  maxOutDegree : Nat := 0
  maxInDegree : Nat := 0
  meanOutDegree : Float := 0
  stdOutDegree : Float := 0
  sccs : Nat := 0
  nontrivialSccs : Nat := 0
  largestScc : Nat := 0
  hubs : List Nat := []
  deriving Inhabited

/-- Orders components largest first, then by smallest node. -/
def componentBefore (x y : List Nat) : Bool :=
  x.length > y.length || (x.length == y.length && x.headD 0 ≤ y.headD 0)

/-- The mean and the corrected standard deviation of a list of numbers. -/
def meanStdDev (xs : List Float) : Float × Float :=
  let n := xs.length.toFloat
  let mean := xs.foldl (· + ·) 0 / n
  let (ss, comp) := xs.foldl (fun (acc : Float × Float) x =>
    let d := x - mean
    (acc.1 + d * d, acc.2 + d)) (0, 0)
  let variance := (ss - comp * comp / n) / (n - 1)
  (mean, variance.sqrt)

/-- The damping factor of PageRank. -/
def damping : Float := 0.85

/-- One PageRank step: the new weight of each node. -/
def rankStep (g : SimpleGraph) (v : Array Float) : Array Float :=
  let n := g.size.toFloat
  let total := v.foldl (· + ·) 0
  let dangling := (List.range g.size).foldl (fun s j =>
    if (g.succ.getD j #[]).isEmpty then s + v.getD j 0 else s) 0
  (Array.range g.size).map fun i =>
    let inflow := (g.pred.getD i #[]).foldl (fun s j =>
      s + damping / (g.succ.getD j #[]).size.toFloat * v.getD j 0) 0
    (1 - damping) / n * total + damping / n * dangling + inflow

/-- The Euclidean distance of two weight vectors. -/
def distance (v w : Array Float) : Float :=
  ((v.zip w).foldl (fun (s : Float) (p : Float × Float) => s + (p.1 - p.2) * (p.1 - p.2)) 0).sqrt

/-- Iterates PageRank at most `fuel` times, until a step moves the weights by
less than `1e-15`. -/
def rankIterate (g : SimpleGraph) : Nat → Array Float → Array Float
  | 0, v => v
  | fuel + 1, v =>
    let w := rankStep g v
    if distance v w < 1e-15 then w else rankIterate g fuel w

/-- The PageRank weights of the nodes. -/
def pageRank (g : SimpleGraph) : Array Float :=
  rankIterate g 10000 (Array.replicate g.size (1 / g.size.toFloat))

/-- A weight rounded to ten significant digits, as an integer key. -/
def rankKey (r : Float) : Int :=
  if r ≤ 0 then 0
  else
    let e := (Float.floor (Float.log10 r)).toInt64.toInt
    let scaled := r * Float.pow 10 (9 - e).toNat.toFloat / Float.pow 10 (e - 9).toNat.toFloat
    (Float.round scaled).toInt64.toInt * 1000 + e

/-- The `count` nodes of highest weight, ties by id. -/
def hubs (ranks : Array Float) (g : SimpleGraph) (count : Nat) : List Nat :=
  let keyed := (List.range g.size).map fun i => (i, rankKey (ranks.getD i 0), ranks.getD i 0)
  let before (x y : Nat × Int × Float) : Bool :=
    if x.2.1 == y.2.1 then x.1 ≤ y.1 else x.2.2 > y.2.2
  ((keyed.mergeSort before).map (·.1)).take count

/-- The graph algorithms a summary takes from a library: the strongly
connected components of a simple graph, in any order, the PageRank weights
of its nodes, and the mean and corrected standard deviation of a sample. -/
structure Library where
  components : SimpleGraph → List (List Nat)
  pageRank : SimpleGraph → Array Float
  meanStdDev : List Float → Float × Float

/-- The library of the plain algorithms: components by reachability, PageRank
by iteration from the uniform vector, the two-pass deviation. -/
def Library.standard : Library :=
  { components := SimpleGraph.components, pageRank := Analysis.pageRank,
    meanStdDev := Analysis.meanStdDev }

/-- What the component counts of a summary rely on: the library's components
are non-empty and hold every node of the graph exactly once. -/
structure Library.Partitions (lib : Library) : Prop where
  nonempty : ∀ g, ∀ c ∈ lib.components g, c ≠ []
  perm : ∀ g, (lib.components g).flatten.Perm (List.range g.size)

/-- The strongly connected components of an arena's simple graph, each in
increasing order, largest first, ties by smallest vertex. -/
def components (lib : Library) (a : Arena) : List (List Nat) :=
  ((lib.components (SimpleGraph.ofArena a)).map (·.mergeSort)).mergeSort componentBefore

/-- Summarizes a game, listing `hubCount` PageRank hubs. -/
def summarize (lib : Library) (a : Arena) (hubCount : Nat) : Summary :=
  let base : Summary :=
    { vertices := a.size, edges := a.edges, maxPriority := a.maxPriority,
      evenOwned := a.countOwnedBy Player.even, oddOwned := a.countOwnedBy Player.odd,
      histogram := a.priorityHistogram }
  if a.size = 0 then base
  else
    let vs := (List.range a.size).map a.vertex
    let (mean, std) := lib.meanStdDev (vs.map fun v => v.outDegree.toFloat)
    let g := SimpleGraph.ofArena a
    let comps := lib.components g
    { base with
      maxOutDegree := vs.foldl (fun m v => max m v.outDegree) 0,
      maxInDegree := vs.foldl (fun m v => max m v.inDegree) 0,
      selfLoops := ((List.range a.size).filter a.hasSelfLoop).length,
      meanOutDegree := mean,
      stdOutDegree := if a.size = 1 then 0 else std,
      sccs := comps.length,
      nontrivialSccs := (comps.filter fun c => c.length > 1 || c.any a.hasSelfLoop).length,
      largestScc := comps.foldl (fun m c => max m c.length) 0,
      hubs := if hubCount > 0 then hubs (lib.pageRank g) g hubCount else [] }

end Analysis

end ParityGames
