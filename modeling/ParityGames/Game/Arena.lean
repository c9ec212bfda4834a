import ParityGames.Game.Player
import ParityGames.Text.Quoted

/-!
# Arenas

An arena is the board of a parity game: a finite set of vertices numbered
`0, 1, …, n-1`, each owned by a player and carrying a non-negative priority
and an optional label, and directed edges between them.  Every vertex keeps
both its outgoing and its incoming edges, in the order they were added, and
the arena keeps its edge count and its largest priority up to date.

The operations refuse ids outside the arena and negative priorities; the
checks and their messages are collected in `ArenaError`.  `Arena.validate`
checks that the stored lists describe a game in which every vertex can move.
-/

namespace ParityGames

/-- A label is a byte text: it may hold bytes that are not UTF-8. -/
abbrev Label := List UInt8

/-- One vertex of an arena, with the id it was created under. -/
structure Vertex where
  id : Nat := 0
  owner : Player := Player.even
  priority : Nat := 0
  outgoing : Array Nat := #[]
  incoming : Array Nat := #[]
  label : Label := []
  deriving Repr, Inhabited, DecidableEq

namespace Vertex

/-- Whether the priority is even. -/
def priorityEven (v : Vertex) : Bool := v.priority % 2 == 0

/-- Whether the priority is odd. -/
def priorityOdd (v : Vertex) : Bool := v.priority % 2 == 1

/-- Whether Even owns the vertex (code `0`). -/
def ownerEven (v : Vertex) : Bool := v.owner.isEven

/-- Whether Odd owns the vertex (code `1`). -/
def ownerOdd (v : Vertex) : Bool := v.owner.isOdd

/-- Number of outgoing edges. -/
def outDegree (v : Vertex) : Nat := v.outgoing.size

/-- Number of incoming edges. -/
def inDegree (v : Vertex) : Nat := v.incoming.size

end Vertex

/-- Why an arena operation or check failed. -/
inductive ArenaError where
  | unknownVertex (id : Int)
  | unknownSource (id : Int)
  | unknownTarget (id : Int)
  | negativePriority (id : Nat) (priority : Int)
  | storedId (id stored : Nat)
  | noSuccessor (id : Nat)
  | invalidTarget (id target : Nat)
  | incomingMismatch (id recorded expected : Nat)
  | invalidSource (id source : Nat)
  deriving Repr, DecidableEq

/-- The four kinds of arena failure. -/
inductive ArenaErrorKind where
  | unknownVertex
  | negativePriority
  | noSuccessor
  | invalidEdgeEndpoint
  deriving Repr, DecidableEq

namespace ArenaError

/-- The kind a failure belongs to. -/
def kind : ArenaError → ArenaErrorKind
  | .unknownVertex _ | .unknownSource _ | .unknownTarget _ => .unknownVertex
  | .negativePriority _ _ => .negativePriority
  | .noSuccessor _ => .noSuccessor
  | .storedId _ _ | .invalidTarget _ _ | .incomingMismatch _ _ _ | .invalidSource _ _ =>
    .invalidEdgeEndpoint

/-- The text of a failure. -/
def message : ArenaError → String
  | .unknownVertex id => s!"unknown vertex: {id}"
  | .unknownSource id => s!"unknown vertex: edge source {id}"
  | .unknownTarget id => s!"unknown vertex: edge target {id}"
  | .negativePriority id p => s!"priority must not be negative: vertex {id} has priority {p}"
  | .storedId id stored => s!"vertex {id}: invalid edge endpoint: stored id {stored}"
  | .noSuccessor id => s!"vertex {id}: vertex has no outgoing edge"
  | .invalidTarget id t => s!"vertex {id}: invalid edge endpoint: target {t}"
  | .incomingMismatch id r e =>
    s!"vertex {id}: invalid edge endpoint: {r} incoming recorded, {e} expected"
  | .invalidSource id s => s!"vertex {id}: invalid edge endpoint: source {s}"

end ArenaError

/-- The board of a parity game. -/
structure Arena where
  vertices : Array Vertex := #[]
  edges : Nat := 0
  maxPriority : Nat := 0
  deriving Repr, Inhabited

namespace Arena

/-- The number of vertices. -/
def size (a : Arena) : Nat := a.vertices.size

/-- Grows the arena to `n` vertices, each new one with its id and default
fields; a size that is not larger changes nothing and is reported as `false`. -/
def resize (a : Arena) (n : Int) : Bool × Arena :=
  if n ≤ a.size then (false, a)
  else
    let added := Array.ofFn fun (k : Fin (n.toNat - a.size)) => ({ id := a.size + k } : Vertex)
    (true, { a with vertices := a.vertices ++ added })

/-- The arena of `n` default vertices and no edges. -/
def new (n : Int) : Arena := (resize {} n).2

/-- Whether `id` names a vertex. -/
def has (a : Arena) (id : Int) : Bool := 0 ≤ id && id < a.size

/-- The vertex with id `id`, if there is one. -/
def vertex? (a : Arena) (id : Int) : Option Vertex :=
  if id < 0 then none else a.vertices[id.toNat]?

/-- The vertex with id `id`, or a default vertex. -/
@[inline] def vertex (a : Arena) (id : Nat) : Vertex := if h : id < a.vertices.size then a.vertices[id] else {}

/-- Every vertex carries its position as its id. -/
def Numbered (a : Arena) : Prop := ∀ i < a.size, (a.vertex i).id = i

instance (a : Arena) : Decidable a.Numbered := inferInstanceAs (Decidable (∀ i < a.size, _))

/-- Changes the vertex `id`, which must exist. -/
def modify (a : Arena) (id : Nat) (f : Vertex → Vertex) : Arena :=
  { a with vertices := a.vertices.modify id f }

/-- The largest priority of any vertex, `0` for an empty arena. -/
def scanMaxPriority (vs : Array Vertex) : Nat :=
  vs.foldl (fun m v => max m v.priority) 0

/-- Sets the owner of a vertex. -/
def setOwner (a : Arena) (id : Int) (p : Player) : Except ArenaError Arena :=
  if a.has id then .ok (a.modify id.toNat fun v => { v with owner := p })
  else .error (.unknownVertex id)

/-- Sets the priority of a vertex.  The largest priority is raised at once;
it is searched again only when the vertex that held it drops below it. -/
def setPriority (a : Arena) (id : Int) (p : Int) : Except ArenaError Arena :=
  if !a.has id then .error (.unknownVertex id)
  else if p < 0 then .error (.negativePriority id.toNat p)
  else
    let old := (a.vertex id.toNat).priority
    let a := a.modify id.toNat fun v => { v with priority := p.toNat }
    if p.toNat > a.maxPriority then .ok { a with maxPriority := p.toNat }
    else if old == a.maxPriority && p.toNat < old then
      .ok { a with maxPriority := scanMaxPriority a.vertices }
    else .ok a

/-- Sets the label of a vertex. -/
def setLabel (a : Arena) (id : Int) (l : Label) : Except ArenaError Arena :=
  if a.has id then .ok (a.modify id.toNat fun v => { v with label := l })
  else .error (.unknownVertex id)

/-- Adds an edge, appending it to the source's outgoing and the target's
incoming list. -/
def addEdge (a : Arena) (src dst : Int) : Except ArenaError Arena :=
  if !a.has src then .error (.unknownSource src)
  else if !a.has dst then .error (.unknownTarget dst)
  else
    let a := a.modify src.toNat fun v => { v with outgoing := v.outgoing.push dst.toNat }
    let a := a.modify dst.toNat fun v => { v with incoming := v.incoming.push src.toNat }
    .ok { a with edges := a.edges + 1 }

/-- The number of edges from a vertex to its stored id. -/
def selfLoops (v : Vertex) : Nat := v.outgoing.count v.id

/-- Removes every edge at a vertex and resets it to its id and default fields.  Its
neighbours lose every occurrence of it from their lists, and the edge count
drops by the edges at the vertex, a self-loop counted once. -/
def clearVertex (a : Arena) (id : Int) : Except ArenaError Arena :=
  if !a.has id then .error (.unknownVertex id)
  else
    let i := id.toNat
    let v := a.vertex i
    let a := v.outgoing.foldl (fun a t =>
      if t == i then a else a.modify t fun w => { w with incoming := w.incoming.filter (· != i) }) a
    let a := v.incoming.foldl (fun a s =>
      if s == i then a else a.modify s fun w => { w with outgoing := w.outgoing.filter (· != i) }) a
    let edges := a.edges - (v.outgoing.size + v.incoming.size - selfLoops v)
    let a := a.modify i fun _ => { id := i }
    .ok { a with edges := edges, maxPriority := scanMaxPriority a.vertices }

/-- Whether a vertex has an edge to itself, looked up in the shorter of its
two lists. -/
def hasSelfLoop (a : Arena) (id : Nat) : Bool :=
  let v := a.vertex id
  if v.incoming.size < v.outgoing.size then v.incoming.contains id else v.outgoing.contains id

/-- The number of vertices with priority `p`. -/
def countByPriority (a : Arena) (p : Int) : Nat :=
  a.vertices.foldl (fun n v => if (v.priority : Int) == p then n + 1 else n) 0

/-- The number of vertices of each priority from `0` to the largest. -/
def priorityHistogram (a : Arena) : Array Nat :=
  a.vertices.foldl (fun h v => h.modify v.priority (· + 1))
    (Array.replicate (a.maxPriority + 1) 0)

/-- The number of vertices owned by `p`. -/
def countOwnedBy (a : Arena) (p : Player) : Nat :=
  a.vertices.foldl (fun n v => if v.owner == p then n + 1 else n) 0

/-- The ids of the vertices owned by `p`, ascending. -/
def ownedBy (a : Arena) (p : Player) : List Nat :=
  (List.range a.size).filter fun i => (a.vertex i).owner == p

/-- The number of recorded incoming edges each vertex should have, from the
outgoing lists. -/
def expectedIncoming (a : Arena) : Array Nat :=
  a.vertices.foldl (fun acc v => v.outgoing.foldl (fun acc t => acc.modify t (· + 1)) acc)
    (Array.replicate a.size 0)

/-- The first fault of the vertices and their outgoing lists in id order: a
stored id that is not the position, a vertex without an edge, or an edge to
an unknown vertex. -/
def outgoingFault (a : Arena) : Option ArenaError :=
  (List.range a.size).findSome? fun i =>
    let v := a.vertex i
    if v.id != i then some (.storedId i v.id)
    else if v.outgoing.isEmpty then some (.noSuccessor i)
    else (v.outgoing.toList.find? fun (t : Nat) => !a.has t).map (.invalidTarget i)

/-- The first fault of the incoming lists in id order: a count that does not
match the outgoing lists, or an edge from an unknown vertex. -/
def incomingFault (a : Arena) : Option ArenaError :=
  let expected := a.expectedIncoming
  (List.range a.size).findSome? fun i =>
    let v := a.vertex i
    let e := expected[i]?.getD 0
    if v.incoming.size != e then some (.incomingMismatch i v.incoming.size e)
    else (v.incoming.toList.find? fun (s : Nat) => !a.has s).map (.invalidSource i)

/-- Checks that every vertex has its position as id and an outgoing edge,
that every edge ends at a vertex, and that the incoming lists agree with the
outgoing ones. -/
def validate (a : Arena) : Except ArenaError Unit :=
  match a.outgoingFault with
  | some e => .error e
  | none =>
    match a.incomingFault with
    | some e => .error e
    | none => .ok ()

theorem size_new (n : Nat) : (new n).size = n := by
  simp [new, resize, size]
  split <;> simp_all

end Arena

end ParityGames
