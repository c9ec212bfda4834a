import ParityGames.Proofs.SameGame
import ParityGames.Pipeline.Memory

/-!
# What the cache keys determine

A stored solution is found by the hash of the game's PGSolver text and the
strategy, lock policy and seed; a stored drawing by the same hash and the
format, detail and measures flags.  Arenas with one text record the same game
(`Arena.SameGame`), and a solve of them names the same winners whatever the
settings.  A solution key also fixes the strategy, policy and seed, and then
the measures and counters agree too, but for the propagation strategies:
eager propagation freezes measures in the order it walks the predecessor
lists, which the text does not keep, so two arenas with one text may get
different measures from it (`eager_solutions_read_incoming_order`).  A drawing
key fixes neither strategy nor policy, so a stored drawing with measures is
the drawing it stands for only when both solves keep to the least fixpoint
(`drawings_read_lock_policy`).
-/

namespace ParityGames

namespace Pipeline

open Solver

variable {a b : Arena}

theorem solveFresh_winners (fx : Effects Id) (a : Arena) (o : Settings) :
    (solveFresh fx a o).winners =
      some ((Solver.new a (generatorFor o.seed) o.policy).solve o.strategy).1 := rfl

theorem solveFresh_measures (fx : Effects Id) (a : Arena) (o : Settings) :
    (solveFresh fx a o).measures = some ((Array.range a.size).map fun v =>
      (((Solver.new a (generatorFor o.seed) o.policy).solve o.strategy).2.1.measure v).render) := rfl

/-- The printed measures of two states over `n` vertices agree when each does. -/
theorem measureTexts_eq {n : Nat} {t u : Solver}
    (agree : ∀ v < n, (t.measure v).render = (u.measure v).render) :
    ((Array.range n).map fun v => (t.measure v).render) =
      (Array.range n).map fun v => (u.measure v).render := by
  apply Array.ext (by simp)
  intro i inside _
  simp only [Array.getElem_map, Array.getElem_range]
  exact agree i (by simpa using inside)

/-- A drawing of a solved game reads the result only through its winners and,
when measures are drawn, its printed measures, and the arena only through
what the game records. -/
theorem renderUncached_congr {m : Type → Type} [Monad m] (fx : Effects m) (same : a.SameGame b)
    (numberedA : a.Numbered) (numberedB : b.Numbered)
    {res res' : Result} (rs : RenderSettings) (winners : res'.winners = res.winners)
    (measures : rs.measures = true → res'.measures = res.measures) :
    renderUncached fx b (some res') rs = renderUncached fx a (some res) rs := by
  unfold renderUncached
  dsimp only
  rw [winners, same.toDot_eq numberedA numberedB]
  by_cases drawn : rs.measures = true
  · rw [measures drawn]
  · simp only [drawn, Bool.false_eq_true, if_false]

/-- A dot drawing of a solved game is the dot text of the game with the
result's winners and, when asked for, its measures. -/
theorem renderUncached_dot (fx : Effects Id) (a : Arena) (res : Result) {rs : RenderSettings}
    (dot : rs.format = .dot) :
    renderUncached fx a (some res) rs =
      .ok (Render.toDot a
        { detailed := rs.detailed, winners := res.winners.getD #[],
          measures := if rs.measures then res.measures.getD #[] else #[] }).toUTF8 := by
  unfold renderUncached
  rw [dot]
  rfl

/-- A stored drawing is the drawing it stands for whenever every solve it may
stand for keeps to the least fixpoint.  Two drawings under one drawing key,
of solves of arenas that record the same game, are the same whatever the
strategies, policies and seeds of the solves, as long as every random solve
stops by its own test and, where measures are drawn, no propagation ran
under the eager policy. -/
theorem stored_drawing_agrees (reachableA : a.Reachable) (reachableB : b.Reachable)
    (same : a.SameGame b) (r : Runner) (fx : Effects Id) (o o' : Settings) (rs : RenderSettings)
    (stops : SolveStops o.strategy (new a (generatorFor o.seed) o.policy))
    (stops' : SolveStops o'.strategy (new b (generatorFor o'.seed) o'.policy))
    (exact : rs.measures = true →
      (o.strategy = .propagation ∨ o.strategy = .propagationHybrid → o.policy = .safe) ∧
        (o'.strategy = .propagation ∨ o'.strategy = .propagationHybrid → o'.policy = .safe)) :
    r.keyer.renderKey (gameHash b) rs.keyOpts = r.keyer.renderKey (gameHash a) rs.keyOpts ∧
      renderUncached fx b (some (solveFresh fx b o')) rs =
        renderUncached fx a (some (solveFresh fx a o)) rs := by
  have intactA := reachableA.intact
  have intactB := reachableB.intact
  have startA := LiftReachable.new (generatorFor o.seed) o.policy reachableA
  have startB := LiftReachable.new (generatorFor o'.seed) o'.policy reachableB
  refine ⟨by rw [same.gameHash_eq intactA.numbered intactB.numbered],
    renderUncached_congr fx same intactA.numbered intactB.numbered rs ?winners ?measures⟩
  case winners =>
    rw [solveFresh_winners, solveFresh_winners,
      solve_winners_agree startA startB intactA intactB same o.strategy o'.strategy stops stops']
  case measures =>
    -- both solves keep to the one least fixpoint of the game
    intro drawn
    obtain ⟨safe, safe'⟩ := exact drawn
    rw [solveFresh_measures, solveFresh_measures, same.size_eq]
    exact congrArg some (measureTexts_eq (solve_renders_agree startA startB intactA intactB same
      o.strategy o'.strategy safe safe' stops stops'))

/-- Two arenas in which `0` has a self-loop and `1` and `2` move to `0`, the
edges into `0` added in two orders, one solved in input order under the eager
policy and the other by safe propagation, drawn as dot with measures. -/
theorem stored_drawing_agrees_reordered :
    let a : Arena :=
      { vertices := #[{ outgoing := #[0], incoming := #[0, 1, 2] }, { id := 1, outgoing := #[0] },
          { id := 2, outgoing := #[0] }],
        edges := 3 }
    let b : Arena :=
      { vertices := #[{ outgoing := #[0], incoming := #[0, 2, 1] }, { id := 1, outgoing := #[0] },
          { id := 2, outgoing := #[0] }],
        edges := 3 }
    let o : Settings := { strategy := .input, policy := .eager, seed := 0, refresh := false }
    let o' : Settings := { strategy := .propagation, policy := .safe, seed := 0, refresh := false }
    let rs : RenderSettings := { format := .dot, detailed := false, measures := true }
    let fx : Effects Id := Effects.silent .missing
    a.Reachable ∧ b.Reachable ∧ a.SameGame b ∧
      SolveStops o.strategy (new a (generatorFor o.seed) o.policy) ∧
      SolveStops o'.strategy (new b (generatorFor o'.seed) o'.policy) ∧
      (rs.measures = true →
        (o.strategy = .propagation ∨ o.strategy = .propagationHybrid → o.policy = .safe) ∧
          (o'.strategy = .propagation ∨ o'.strategy = .propagationHybrid → o'.policy = .safe)) ∧
      ((default : Runner).keyer.renderKey (gameHash b) rs.keyOpts =
          (default : Runner).keyer.renderKey (gameHash a) rs.keyOpts ∧
        renderUncached fx b (some (solveFresh fx b o')) rs =
          renderUncached fx a (some (solveFresh fx a o)) rs) := by
  intro a b o o' rs fx
  have loop : (Arena.new 3).Reachable := .new 3
  have reachableA : a.Reachable := @Arena.Reachable.addEdge _ _ 2 0
    (@Arena.Reachable.addEdge _ _ 1 0 (@Arena.Reachable.addEdge _ _ 0 0 loop rfl) rfl) rfl
  have reachableB : b.Reachable := @Arena.Reachable.addEdge _ _ 1 0
    (@Arena.Reachable.addEdge _ _ 2 0 (@Arena.Reachable.addEdge _ _ 0 0 loop rfl) rfl) rfl
  have same : a.SameGame b := Arena.sameGame_reorder a 0 fun _ => #[0, 2, 1]
  have stops : SolveStops o.strategy (new a (generatorFor o.seed) o.policy) := nofun
  have stops' : SolveStops o'.strategy (new b (generatorFor o'.seed) o'.policy) := nofun
  have exact : rs.measures = true →
      (o.strategy = .propagation ∨ o.strategy = .propagationHybrid → o.policy = .safe) ∧
        (o'.strategy = .propagation ∨ o'.strategy = .propagationHybrid → o'.policy = .safe) :=
    fun _ => ⟨nofun, fun _ => rfl⟩
  exact ⟨reachableA, reachableB, same, stops, stops', exact,
    stored_drawing_agrees reachableA reachableB same default fx o o' rs stops stops' exact⟩

/-- Four vertices as the PGSolver text `parity 3; 0 0 0 0; 1 1 0 2,3; 2 1 0 0;
3 1 1 1;` gives them: `0` of priority `0` with a self-loop, `1` and `2` of
priority `1`, `1` moving to `2` and `3` and `2` to `0`, and `3` of priority
`1`, owned by Odd, moving back to `1`. -/
def oddCycle : Arena :=
  { vertices := #[{ outgoing := #[0], incoming := #[0, 2] },
      { id := 1, priority := 1, outgoing := #[2, 3], incoming := #[3] },
      { id := 2, priority := 1, outgoing := #[0], incoming := #[1] },
      { id := 3, owner := .odd, priority := 1, outgoing := #[1], incoming := #[1] }],
    edges := 5, maxPriority := 1 }

/-- The drawing key sees neither the strategy nor the lock policy, and the
measures it draws depend on the policy: propagation under the eager policy
labels `1` and `3` of `oddCycle` with `(1)` and `(2)`, under the safe policy
with `(2)` and `(3)`, so the two dot drawings with measures differ. -/
theorem drawings_read_lock_policy :
    renderUncached (Effects.silent .missing : Effects Id) oddCycle
        (some (solveFresh (Effects.silent .missing : Effects Id) oddCycle
          { strategy := .propagation, policy := .eager, seed := 0, refresh := false }))
        { format := .dot, detailed := false, measures := true } ≠
      renderUncached (Effects.silent .missing : Effects Id) oddCycle
        (some (solveFresh (Effects.silent .missing : Effects Id) oddCycle
          { strategy := .propagation, policy := .safe, seed := 0, refresh := false }))
        { format := .dot, detailed := false, measures := true } := by
  rw [renderUncached_dot _ oddCycle _ rfl, renderUncached_dot _ oddCycle _ rfl]
  intro drawn
  have texts := String.toByteArray_inj.mp (Except.ok.inj drawn)
  revert texts
  decide +kernel

end Pipeline

end ParityGames
