import ParityGames.Failure
import ParityGames.Text.Utf8

/-!
# Building an arena from a vertex list

A game given as a list of vertices (owner, priority, successors and an
optional label, the id being the position in the list) is built in two
passes: first every vertex gets its owner, priority and label, in order;
then the edges are added, vertex by vertex and successor by successor.
Adding the edges in this order fixes the order of every predecessor list.
The first failing call is the outcome; nothing is validated beyond that.
-/

namespace ParityGames

/-- One vertex of a game given as a list. -/
structure VertexSpec where
  owner : Player
  priority : Int
  successors : List Int
  label : Option String := none
  deriving Repr

/-- Builds the arena of a vertex list. -/
def Arena.ofSpecs (specs : List VertexSpec) : Except Failure Arena := do
  let numbered := specs.zipIdx
  let mut a := Arena.new specs.length
  for (v, i) in numbered do
    a ← (a.setOwner i v.owner).mapError .ofArena
    a ← (a.setPriority i v.priority).mapError .ofArena
    if let some l := v.label then a ← (a.setLabel i (Text.utf8Bytes l)).mapError .ofArena
  for (v, i) in numbered do
    for s in v.successors do a ← (a.addEdge i s).mapError .ofArena
  return a

theorem ofSpecs_nil : (Arena.ofSpecs []).toOption.map (·.size) = some 0 := by
  decide +kernel

end ParityGames
