import ParityGames.Solver.Lift

/-!
# Running the strategies

Each strategy is a loop of lifts.  The *sweeping* strategies walk a fixed
order of the vertices: the returning ones start over after every change, the
non-returning ones finish the pass and repeat until a pass changes nothing.
The orders are by id, by ascending priority, or by descending number of
incoming edges, ties by id.  The *random* strategies draw vertices or whole
permutations from the generator.  The *recursive* strategies lift a set until
a pass changes nothing, first stabilising the changed part of a pass by a
nested call.  The *propagation* strategies first lock the vertices that a
self-loop settles, spread locks to predecessors whose measure can no longer
change, and lift the rest recursively; the hybrid one also locks every vertex
the recursion drives to `⊤`.

Every loop carries fuel from `Solver.budget`, which is never exhausted.
-/

namespace ParityGames

namespace Solver

/-- The vertex ids in increasing order. -/
def inputOrder (s : Solver) : List Nat := List.range s.size

/-- The ids by ascending priority, ties by id. -/
def priorityOrder (s : Solver) : List Nat :=
  (inputOrder s).mergeSort fun a b => (s.arena.vertex a).priority ≤ (s.arena.vertex b).priority

/-- The ids by descending number of incoming edges, ties by id. -/
def incomingOrder (s : Solver) : List Nat :=
  (inputOrder s).mergeSort fun a b => (s.arena.vertex b).inDegree ≤ (s.arena.vertex a).inDegree

/-- Lifts a vertex that is not `⊤`; a `⊤` vertex is skipped as unchanged. -/
def liftLive (s : Solver) (v : Nat) : Bool × Solver :=
  if (s.measure v).top then (false, s) else s.lift v

/-- Walks `order` from position `i`, starting over after every change. -/
def sweepReturning (order : Array Nat) : Nat → Nat → Solver → Solver
  | 0, _, s => s
  | fuel + 1, i, s =>
    match order[i]? with
    | none => s
    | some v =>
      let (changed, s) := s.liftLive v
      sweepReturning order fuel (if changed then 0 else i + 1) s

/-- Lifts the vertices of `order` in turn, reporting whether anything changed
since the start of the pass (`changed` so far). -/
def sweepFrom : List Nat → Bool → Solver → Bool × Solver
  | [], changed, s => (changed, s)
  | v :: vs, changed, s =>
    let (c, s) := s.liftLive v
    sweepFrom vs (changed || c) s

/-- One pass over `order`, reporting whether anything changed. -/
def sweepOnce (order : List Nat) (s : Solver) : Bool × Solver := sweepFrom order false s

/-- Passes over `order` until one changes nothing. -/
def sweepNonReturning (order : List Nat) : Nat → Solver → Solver
  | 0, s => s
  | fuel + 1, s =>
    let (changed, s) := sweepOnce order s
    if changed then sweepNonReturning order fuel s else s

/-- Draws vertices until each has been drawn without changing since the last
change; `finished` marks those. -/
def liftRandomLoop (n : Nat) : Nat → Array Bool → Nat → Solver → Solver
  | 0, _, _, s => s
  | fuel + 1, finished, remaining, s =>
    if remaining == 0 then s
    else
      let (v, s) := s.draw (·.below n)
      let (changed, s) := s.liftLive v
      if changed then liftRandomLoop n fuel (Array.replicate n false) n s
      else if finished[v]?.getD true then liftRandomLoop n fuel finished remaining s
      else liftRandomLoop n fuel (finished.set! v true) (remaining - 1) s

/-- The random strategy. -/
def liftRandom (fuel : Nat) (s : Solver) : Solver :=
  let n := s.size
  if n == 0 then s else liftRandomLoop n fuel (Array.replicate n false) n s

/-- Passes over fresh random permutations until one changes nothing. -/
def liftRandomNonReturning : Nat → Solver → Solver
  | 0, s => s
  | fuel + 1, s =>
    if s.size == 0 then s
    else
      let n := s.size
      let (order, s) := s.draw (·.permutation n)
      let (changed, s) := sweepOnce order.toList s
      if changed then liftRandomNonReturning fuel s else s

/-- Lifts a vertex until it stops changing. -/
def liftToFixpoint (v : Nat) : Nat → Solver → Solver
  | 0, s => s
  | fuel + 1, s =>
    let (changed, s) := s.lift v
    if changed then liftToFixpoint v fuel s else s

/-- Whether a predecessor `u` of a locked vertex may be locked once lifted;
`successorTop` tells whether that locked vertex is `⊤`. -/
def lockable (s : Solver) (u : Nat) (successorTop : Bool) : Bool :=
  let pred := s.arena.vertex u
  if pred.outDegree == 1 then true
  else if pred.owner.isOdd && successorTop then true
  else match s.policy with
    | .eager => pred.owner.isEven && !successorTop
    | .safe => pred.outgoing.all s.isLocked

/-- Locks the lockable, unlocked predecessors of the queued vertices,
lifting each to its fixpoint first and queueing it in turn. -/
def propagateLocks (fuel : Nat) : Nat → Array Nat → Nat → Solver → Solver
  | 0, _, _, s => s
  | rounds + 1, queue, i, s =>
    match queue[i]? with
    | none => s
    | some v =>
      let top := (s.measure v).top
      let (queue, s) := (s.arena.vertex v).incoming.foldl (fun (queue, s) u =>
        if s.isLocked u || !s.lockable u top then (queue, s)
        else
          let s := liftToFixpoint u fuel s
          (queue.push u, s.lock u)) (queue, s)
      propagateLocks fuel rounds queue (i + 1) s

/-- One pass of the recursive strategy over `set`: lifts every unlocked,
finite vertex and collects those that changed.  In hybrid mode a vertex
driven to `⊤` is locked at once and spreads locks. -/
def recursivePass (fuel : Nat) (hybrid : Bool) (set : List Nat) (s : Solver) :
    List Nat × Solver :=
  let (changed, s) := set.foldl (fun (changed, s) v =>
    if s.isLocked v || (s.measure v).top then (changed, s)
    else
      let (c, s) := s.lift v
      if !c then (changed, s)
      else
        let s := if hybrid && (s.measure v).top then
            propagateLocks fuel (s.size + 1) #[v] 0 (s.lock v)
          else s
        (changed.push v, s)) ((#[] : Array Nat), s)
  (changed.toList, s)

/-- The recursive strategy on `set` at a nesting depth. -/
def liftRecursive (hybrid : Bool) : Nat → List Nat → Nat → Solver → Solver
  | 0, _, _, s => s
  | fuel + 1, set, depth, s =>
    let s := s.noteDepth depth
    let (changed, s) := recursivePass fuel hybrid set s
    if changed.isEmpty then s
    else
      let s := if changed.length < set.length then liftRecursive hybrid fuel changed (depth + 1) s
        else s
      liftRecursive hybrid fuel set depth s

/-- Whether the self-loop of `v` decides its measure alone: it is the only
edge, or the owner may stay on a priority of its own parity. -/
def settledBySelfLoop (s : Solver) (v : Nat) : Bool :=
  let vert := s.arena.vertex v
  if vert.outDegree > 1 && vert.ownerEven != vert.priorityEven then false
  else s.arena.hasSelfLoop v

/-- The propagation strategies; the log record reports the locking pass. -/
def propagate (fuel : Nat) (hybrid : Bool) (s : Solver) : Solver × Log.Record :=
  let (queue, s) := (List.range s.size).foldl (fun (queue, s) v =>
    if s.settledBySelfLoop v then (queue.push v, (liftToFixpoint v fuel s).lock v)
    else (queue, s)) ((#[] : Array Nat), s)
  let s := propagateLocks fuel (s.size + 1) queue 0 s
  let record := Log.debug "locking pass finished"
    [("locked", .int s.stats.locked), ("policy", .text s.policy.name)]
  let unlocked := (List.range s.size).filter fun v => !s.isLocked v
  (liftRecursive hybrid fuel unlocked 0 s, record)

/-- Runs one strategy from the current state, with its log records. -/
def runStrategy (st : Strategy) (s : Solver) : Solver × List Log.Record :=
  let fuel := s.budget
  match st with
  | .input => (sweepReturning (inputOrder s).toArray (fuel * (s.size + 1)) 0 s, [])
  | .inputNonReturning => (sweepNonReturning (inputOrder s) fuel s, [])
  | .random => (liftRandom (fuel * 64 * (s.size + 1)) s, [])
  | .randomNonReturning => (liftRandomNonReturning fuel s, [])
  | .priority => (sweepReturning (priorityOrder s).toArray (fuel * (s.size + 1)) 0 s, [])
  | .priorityNonReturning => (sweepNonReturning (priorityOrder s) fuel s, [])
  | .incoming => (sweepReturning (incomingOrder s).toArray (fuel * (s.size + 1)) 0 s, [])
  | .incomingNonReturning => (sweepNonReturning (incomingOrder s) fuel s, [])
  | .recursive => (liftRecursive false fuel (inputOrder s) 0 s, [])
  | .recursivePriority => (liftRecursive false fuel (priorityOrder s) 0 s, [])
  | .recursiveIncoming => (liftRecursive false fuel (incomingOrder s) 0 s, [])
  | .propagation =>
    let (s, r) := propagate fuel false s
    (s, [r])
  | .propagationHybrid =>
    let (s, r) := propagate fuel true s
    (s, [r])

/-- Solves from scratch: resets measures, locks and counters, runs the
strategy and returns the winners with the log of the run. -/
def solve (s : Solver) (st : Strategy) : Array Player × Solver × List Log.Record :=
  let s := { s.reset with stats := {} }
  let started := Log.debug "solve started"
    [("strategy", .text st.name), ("vertices", .int s.size), ("edges", .int s.arena.edges)]
  let (s, records) := runStrategy st s
  let finished := Log.debug "solve finished"
    [("strategy", .text st.name), ("lifts", .int s.stats.lifts),
      ("depth", .int s.stats.maxRecursionDepth), ("locked", .int s.stats.locked),
      ("elapsed", .duration 0)]
  (s.winners, s, started :: records ++ [finished])

end Solver

end ParityGames
