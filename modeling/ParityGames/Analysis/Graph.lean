import ParityGames.Game.Arena

/-!
# The simple graph of a game

The simple graph of an arena has one node per vertex and an edge `v → w`
whenever the vertex with id `v` has at least one edge to a different vertex
`w`: parallel edges collapse and self-loops are left out.

The plain way to find its strongly connected components is by reachability:
the component of `v` is the set of nodes that `v` reaches and that reach
`v`.  Each search runs on fuel that counts the nodes it may still expand,
which is enough for the search to finish.
-/

namespace ParityGames

namespace Analysis

/-- A directed graph on nodes `0 … n-1` by its successor and predecessor lists. -/
structure SimpleGraph where
  succ : Array (Array Nat)
  pred : Array (Array Nat)
  deriving Repr, Inhabited

/-- Adds the edge `v → w` unless the graph has it already. -/
def addSimpleEdge (succ : Array (Array Nat)) (v w : Nat) : Array (Array Nat) :=
  succ.modify v fun ws => if ws.contains w then ws else ws.push w

/-- The simple graph of an arena: a node for every position, and the edges
of each vertex from its id, without those back to the id. -/
def SimpleGraph.ofArena (a : Arena) : SimpleGraph :=
  let succ := a.vertices.foldl (fun succ v =>
    v.outgoing.foldl (fun succ w => if w == v.id then succ else addSimpleEdge succ v.id w) succ)
    (Array.replicate a.size #[])
  let pred := succ.zipIdx.foldl (fun (p : Array (Array Nat)) (ws, v) =>
    ws.foldl (fun p w => p.modify w (·.push v)) p) (Array.replicate a.size #[])
  { succ, pred }

/-- The number of nodes. -/
def SimpleGraph.size (g : SimpleGraph) : Nat := g.succ.size

/-- The number of edges. -/
def SimpleGraph.edgeCount (g : SimpleGraph) : Nat := g.succ.foldl (fun n ws => n + ws.size) 0

/-- Marks every node reachable from the pending nodes, expanding at most
`fuel` of them. -/
def reachWithin (adj : Array (Array Nat)) : Nat → List Nat → Array Bool → Array Bool
  | 0, _, seen => seen
  | _ + 1, [], seen => seen
  | fuel + 1, x :: rest, seen =>
    if seen.getD x true then reachWithin adj fuel rest seen
    else reachWithin adj fuel ((adj.getD x #[]).toList ++ rest) (seen.set! x true)

/-- The nodes reachable from `start` along `adj`, as flags. -/
def reach (adj : Array (Array Nat)) (start : Nat) : Array Bool :=
  let edges := adj.foldl (fun n ws => n + ws.size) 0
  reachWithin adj (adj.size + edges + 1) [start] (Array.replicate adj.size false)

/-- The component of `v`: the nodes that `v` reaches and that reach `v`, in
increasing order. -/
def componentOf (g : SimpleGraph) (v : Nat) : List Nat :=
  let fw := reach g.succ v
  let bw := reach g.pred v
  (List.range g.size).filter fun u => fw.getD u false && bw.getD u false

/-- The strongly connected components, each in increasing order, listed by
their smallest node. -/
def SimpleGraph.components (g : SimpleGraph) : List (List Nat) :=
  let step (acc : Array Bool × List (List Nat)) (v : Nat) :=
    let (done, comps) := acc
    if done.getD v true then acc
    else
      let c := componentOf g v
      (c.foldl (fun d u => d.set! u true) done, c :: comps)
  ((List.range g.size).foldl step (Array.replicate g.size false, [])).2.reverse

end Analysis

end ParityGames
