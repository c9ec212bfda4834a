import ParityGames.Solver.Basic

/-!
# Lifting a vertex

Lifting a vertex sets its measure to `liftValue`: the best offer of its
edges.  The solver keeps the number of every measure on the scale of the
maximum (`Scale.rank`), and on numbers the offer of an edge is arithmetic
(`Scale.progRank`), so the best offer is found by comparing numbers.  Only
the value that is kept is built as a measure, by `progOf` on the chosen
edge, and the lift changes the vertex exactly when the best number differs
from its own.

Of several equally good offers the first one counts: a later offer replaces
the best only when it is strictly better.  Among `⊤` offers this matters,
since a `⊤` measure keeps the entries it was built from.
-/

namespace ParityGames

namespace Solver

/-- The offer of the edge to `w` on numbers, from the numbers of the
measures and a source described as `Scale.progStep` needs it. -/
@[inline] def offer (c : Scale) (ranks : Array Nat) (weight : Nat) (nothing raising : Bool)
    (w : Nat) : Nat :=
  c.progStep weight nothing raising (ranks.getD w 0)

/-- The position in `ws` of the best offer from position `i` on, given the
best so far: its number and position, the position `ws.size` standing for
the starting value (`⊤` for an even owner, zero otherwise).  An offer
replaces the best when it is strictly below it (even owner) or strictly
above it (any other owner). -/
def bestFrom (c : Scale) (ranks : Array Nat) (even : Bool) (weight : Nat) (nothing raising : Bool)
    (ws : Array Nat) (i best pos : Nat) : Nat :=
  if h : i < ws.size then
    let o := offer c ranks weight nothing raising ws[i]
    if (even && o < best) || (!even && o > best) then
      bestFrom c ranks even weight nothing raising ws (i + 1) o i
    else bestFrom c ranks even weight nothing raising ws (i + 1) best pos
  else pos
termination_by ws.size - i

/-- Lifts a vertex: counts the lift, sets its measure to `liftValue`, and
reports whether it changed. -/
def lift (s : Solver) (v : Nat) : Bool × Solver :=
  let vert := s.arena.vertex v
  let even := vert.owner.isEven
  let p := vert.priority
  let ws := vert.outgoing
  let c := s.scale
  let start := if even then c.count else 0
  let weight := c.keptWeight p
  let nothing := Scale.keepsNothing s.maximum.size p
  let raising := p % 2 == 1
  let pos := bestFrom c s.ranks even weight nothing raising ws 0 start ws.size
  let best := if h : pos < ws.size then offer c s.ranks weight nothing raising ws[pos] else start
  let stats := { s.stats with lifts := s.stats.lifts + 1 }
  if best == s.rank v && v < s.ranks.size then (false, { s with stats })
  else
    let value :=
      if h : pos < ws.size then progOf s.maximum p (s.measure ws[pos])
      else if even then Measure.topOf s.maximum else Measure.zero s.maximum
    (true, { s with measures := s.measures.set! v value, ranks := s.ranks.set! v best, stats })

/-- `lift` for an id given from outside: the lift is counted before an id
outside the arena stops it. -/
def liftChecked (s : Solver) (v : Int) : Solver × Except IndexFault Bool :=
  if v < 0 || v ≥ s.size then
    ({ s with stats := { s.stats with lifts := s.stats.lifts + 1 } }, .error ⟨v, s.size⟩)
  else
    let (changed, s) := s.lift v.toNat
    (s, .ok changed)

theorem bestFrom_done (c : Scale) (ranks : Array Nat) (even : Bool) (weight : Nat)
    (nothing raising : Bool) (ws : Array Nat) (best pos : Nat) :
    bestFrom c ranks even weight nothing raising ws ws.size best pos = pos := by
  rw [bestFrom]
  simp

end Solver

end ParityGames
