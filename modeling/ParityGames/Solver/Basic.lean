import ParityGames.Solver.Strategy
import ParityGames.Measure.Rank
import ParityGames.Random.Generator
import ParityGames.Log.Record

/-!
# The lifting solver

A solver holds one progress measure per vertex, all bound to the maximum
measure of the arena: the bound of odd index `p` is the number of vertices of
priority `p`.  Lifting a vertex replaces its measure by the best value its
successors offer: for a successor `w` this is `prog v w`, the least measure
that is at least the measure of `w` up to the priority of `v`, and strictly
above it when that priority is odd.  Even owners take the least offer, every
other owner the greatest.

Starting from all zeros and lifting until nothing changes reaches the least
fixpoint, in which a vertex is won by Odd exactly when its measure is `⊤`.

Vertex ids outside the arena stop an operation with an `IndexFault`.
-/

namespace ParityGames

/-- Work counters of a solver; they do not affect its results. -/
structure Stats where
  lifts : Nat := 0
  maxRecursionDepth : Nat := 0
  locked : Nat := 0
  deriving DecidableEq, Repr, Inhabited

/-- The state of the lifting solver over one arena.  Beside each measure it
keeps the measure's number on the scale of the maximum (`Scale.rank`). -/
structure Solver where
  arena : Arena
  maximum : Maximum
  scale : Scale
  measures : Array Measure
  ranks : Array Nat
  locked : Array Bool
  policy : LockPolicy
  rng : Random.Generator
  stats : Stats := {}
  deriving Inhabited

namespace Solver

/-- The maximum measure of an arena, from its priority histogram. -/
def maximumOf (a : Arena) : Maximum :=
  Maximum.ofBounds 0 (a.priorityHistogram.map Int.ofNat)

/-- A fresh solver: all measures zero, nothing locked, counters zero. -/
def new (a : Arena) (rng : Random.Generator) (policy : LockPolicy := .safe) : Solver :=
  let m := maximumOf a
  { arena := a
    maximum := m
    scale := Scale.ofMaximum m
    measures := Array.replicate a.size (Measure.zero m)
    ranks := Array.replicate a.size 0
    locked := Array.replicate a.size false
    policy
    rng }

/-- The generator for a seed, where seed `0` means `1`. -/
def generatorFor (seed : Int) : Random.Generator :=
  Random.Generator.ofSeed (if seed == 0 then 1 else seed)

/-- The number of vertices. -/
def size (s : Solver) : Nat := s.arena.size

/-- Runs a draw on the solver's generator and keeps the advanced generator.
The generator is taken out of the solver while it draws, so that it has no
other holder. -/
@[inline] def draw {α : Type} (s : Solver) (f : Random.Generator → α × Random.Generator) : α × Solver :=
  let g := s.rng
  let s := { s with rng := { ring := #[], tap := 0, feed := 0 } }
  let (a, g) := f g
  (a, { s with rng := g })

/-- The measure of a vertex. -/
@[inline] def measure (s : Solver) (v : Nat) : Measure :=
  if h : v < s.measures.size then s.measures[v] else Measure.zero s.maximum

/-- The number of the measure of a vertex. -/
@[inline] def rank (s : Solver) (v : Nat) : Nat := s.ranks.getD v 0

/-- Whether a vertex is locked. -/
def isLocked (s : Solver) (v : Nat) : Bool := s.locked[v]?.getD false

/-- Zeroes every measure and clears every lock. -/
def reset (s : Solver) : Solver :=
  { s with
    measures := s.measures.map Measure.reset
    ranks := s.ranks.map (fun _ => 0)
    locked := s.locked.map (fun _ => false) }

/-- Changes the work counters and nothing else. -/
def mapStats (s : Solver) (f : Stats → Stats) : Solver := { s with stats := f s.stats }

/-- Zeroes every work counter. -/
def resetStats (s : Solver) : Solver := s.mapStats fun _ => {}

/-- Zeroes the lift counter. -/
def resetLiftCount (s : Solver) : Solver := s.mapStats fun t => { t with lifts := 0 }

/-- Zeroes the deepest recursion seen. -/
def resetMaxRecursionDepth (s : Solver) : Solver :=
  s.mapStats fun t => { t with maxRecursionDepth := 0 }

/-- Zeroes the count of locked vertices. -/
def resetLockedCount (s : Solver) : Solver := s.mapStats fun t => { t with locked := 0 }

/-- The winners the current measures claim: Odd exactly at `⊤`. -/
def winners (s : Solver) : Array Player :=
  s.measures.map fun m => if m.top then Player.odd else Player.even

/-- The least measure a vertex of priority `p` needs for an edge to a vertex
with measure `target`: `target` cut after index `p`, increased once more
when `p` is odd, or `⊤` when it cannot be increased.  A priority outside
either measure gives zero. -/
def progOf (maximum : Maximum) (p : Nat) (target : Measure) : Measure :=
  if p < maximum.size && p < target.size then
    if target.top then Measure.topOf maximum
    else
      let k := Measure.prefixLength p
      let odd := Measure.cutAfter target.odd k maximum.bounds.size
      if p % 2 == 0 then { odd, size := maximum.size, top := false, bound := maximum }
      else
        let (raised, odd) := Measure.raisePrefix odd maximum.bounds k
        { odd, size := maximum.size, top := !raised, bound := maximum }
  else Measure.zero maximum

/-- `prog` for an edge `v → w` of the arena. -/
def prog (s : Solver) (v w : Nat) : Measure :=
  progOf s.maximum (s.arena.vertex v).priority (s.measure w)

/-- `prog` as the calls on measures compute it into a scratch measure `dst`:
the target copied up to the priority of `v`, then raised once for an odd
priority, or `⊤` where it cannot be.  A boundary that a call refuses stops
the program. -/
def progInto (s : Solver) (dst : Measure) (v w : Nat) : Except MeasureError Measure := do
  let p := (s.arena.vertex v).priority
  let dst ← dst.makePartialEqualOf p (s.measure w)
  if p % 2 == 0 || dst.top then return dst
  let (raised, dst) ← dst.partialIncrement p
  return if raised then dst else dst.makeTop

/-- `prog` for ids given from outside: an id outside the arena is a fault,
the source checked first. -/
def progChecked (s : Solver) (v w : Int) : Except IndexFault Measure :=
  if v < 0 || v ≥ s.size then .error ⟨v, s.size⟩
  else if w < 0 || w ≥ s.measures.size then .error ⟨w, s.measures.size⟩
  else .ok (s.prog v.toNat w.toNat)

/-- The better of an offer and the best so far: the lesser for an even
owner, the greater for any other. -/
def better (even : Bool) (best cand : Measure) : Measure :=
  if (even && cand.less best) || (!even && cand.greater best) then cand else best

/-- The value lifting gives a vertex: the best offer of its successors, for
an even owner the least starting from `⊤`, for any other owner the greatest
starting from zero. -/
def liftValue (s : Solver) (v : Nat) : Measure :=
  let vert := s.arena.vertex v
  let even := vert.owner.isEven
  let start := if even then Measure.topOf s.maximum else Measure.zero s.maximum
  vert.outgoing.foldl (fun best w => better even best (progOf s.maximum vert.priority (s.measure w))) start

/-- Changes the measure of a vertex given from outside. -/
def updateMeasure (s : Solver) (v : Int) (f : Measure → Measure) : Except IndexFault Solver :=
  if v < 0 || v ≥ s.measures.size then .error ⟨v, s.measures.size⟩
  else
    let m := f (s.measure v.toNat)
    .ok { s with measures := s.measures.set! v.toNat m, ranks := s.ranks.set! v.toNat (s.scale.rank m) }

/-- Locks a vertex, counting it if it was not locked. -/
def lock (s : Solver) (v : Nat) : Solver :=
  if s.isLocked v then s
  else { s with locked := s.locked.set! v true, stats := { s.stats with locked := s.stats.locked + 1 } }

/-- Notes the depth of a recursive pass. -/
def noteDepth (s : Solver) (depth : Nat) : Solver :=
  { s with stats := { s.stats with maxRecursionDepth := max s.stats.maxRecursionDepth depth } }

/-- The number of finite measures under the maximum. -/
def measureCount (s : Solver) : Nat := s.maximum.bounds.foldl (fun n b => n * (b + 1)) 1

/-- A bound on the number of loop rounds any strategy needs: every round
that does not finish changes a measure, measures only rise, and each vertex
can rise at most `measureCount` times. -/
def budget (s : Solver) : Nat := (s.size + 1) * (s.size + 1) * (s.measureCount + 2) + 16

end Solver

end ParityGames
