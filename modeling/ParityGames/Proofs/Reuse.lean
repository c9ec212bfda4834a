import ParityGames.Proofs.SameGame
import ParityGames.Proofs.Termination
import ParityGames.Proofs.MeasureCalls

/-!
# Solving again after use

`Solver.solve` starts from `solveStart`: every measure zero, no lock, the
counters zero.  Whatever a solver went through since it was made (solves by any
strategy, lifts, resets of measures and counters, edits of single measures by
their own calls; the states `Used`), each of them keeps the invariant `Kept`,
under which that start is the start of a fresh solver over the same arena with
the generator the solver holds now (`Kept.solveStart_eq`).

The strategies that draw nothing never read the generator: from a state with
another generator they end in the same state with that generator
(`runStrategy_withRng`, the propagation strategies through the lock passes one
by one).  So after any use a solve by such a strategy is the fresh one but for
the generator, and a second solve repeats it.  The random strategies reach the
least fixpoint from any generator when they stop by their own test, so every
solve names the winners and leaves the measures of a fresh one
(`solve_after_use`).
-/

namespace ParityGames

theorem Measure.equal_self (m : Measure) : m.equal m = true := by
  simp [Measure.equal]

namespace Solver

/-- The states a solver reaches from a fresh one over an arena the operations
built: solves by any strategy, lifts given from outside, resets, changes of
the counters (the four resets among them), and the edits of the measure of a
vertex given from outside that the measure's own calls make. -/
inductive Used : Solver → Prop
  | new {a : Arena} (g : Random.Generator) (policy : LockPolicy) :
      a.Reachable → Used (new a g policy)
  | solve {s : Solver} (st : Strategy) : Used s → Used (s.solve st).2.1
  | lift {s : Solver} (v : Int) : Used s → Used (s.liftChecked v).1
  | reset {s : Solver} : Used s → Used s.reset
  | counters {s : Solver} (f : Stats → Stats) : Used s → Used { s with stats := f s.stats }
  | setValue {s t : Solver} {v i x : Int} {changed : Bool} {m : Measure} : Used s →
      (s.measure v.toNat).setValue i x = .ok (changed, m) →
      s.updateMeasure v (fun _ => m) = .ok t → Used t
  | makeTop {s t : Solver} {v : Int} : Used s → s.updateMeasure v Measure.makeTop = .ok t → Used t
  | resetMeasure {s t : Solver} {v : Int} : Used s → s.updateMeasure v Measure.reset = .ok t → Used t

variable {s t : Solver} {a : Arena}

section Kept

/-- What every such state keeps: an arena the operations built, measures and
their numbers that agree with its maximum, and one lock flag per vertex. -/
structure Kept (s : Solver) : Prop where
  reachable : s.arena.Reachable
  coherent : s.Coherent
  locked_size : s.locked.size = s.size

theorem kept_new (reachable : a.Reachable) (g : Random.Generator) (policy : LockPolicy) :
    (new a g policy).Kept :=
  ⟨reachable, coherent_new a g policy, by simp [new, size]⟩

theorem Kept.counters (kept : s.Kept) (f : Stats → Stats) : { s with stats := f s.stats }.Kept :=
  ⟨kept.reachable, { kept.coherent with }, kept.locked_size⟩

theorem Kept.liftChecked (kept : s.Kept) (v : Int) : (s.liftChecked v).1.Kept := by
  rw [liftChecked_fst]
  split
  · refine ⟨?_, kept.coherent.lift kept.reachable.consistent v.toNat, ?_⟩
    · rw [arena_lift]
      exact kept.reachable
    · rw [locked_lift, size_lift]
      exact kept.locked_size
  · exact kept.counters fun stats => { stats with lifts := stats.lifts + 1 }

theorem Kept.reset (kept : s.Kept) : s.reset.Kept :=
  ⟨kept.reachable, kept.coherent.reset, by simpa [Solver.reset, size] using kept.locked_size⟩

/-- An edit of one measure that keeps it within the maximum keeps the state. -/
theorem Kept.updateMeasure (kept : s.Kept) {v : Int} {f : Measure → Measure}
    (fits : (f (s.measure v.toNat)).Fits s.maximum) (stored : s.updateMeasure v f = .ok t) :
    t.Kept := by
  unfold Solver.updateMeasure at stored
  split at stored
  · cases stored
  · cases stored
    exact ⟨kept.reachable, kept.coherent.store fits rfl s.stats, kept.locked_size⟩

theorem solve_congr (start : s.solveStart = t.solveStart) (st : Strategy) :
    s.solve st = t.solve st := by
  unfold solve
  unfold solveStart at start
  rw [start]

/-- A solve of such a state starts where a solve of a fresh solver with the
same generator starts: the measures it zeroes fit the maximum, so they are
the fresh zero, and the lock flags it clears are one per vertex. -/
theorem Kept.solveStart_eq (kept : s.Kept) :
    s.solveStart = (new s.arena s.rng s.policy).solveStart := by
  have coherent := kept.coherent
  have measures : s.measures.map Measure.reset =
      Array.replicate s.size (Measure.zero (maximumOf s.arena)) := by
    apply Array.ext (by simp [coherent.measures_size])
    intro i inside _
    have within : i < s.measures.size := by simpa using inside
    have atI : s.measure i = s.measures[i] := dif_pos within
    rw [Array.getElem_map, Array.getElem_replicate, ← coherent.maximum_eq, ← atI]
    exact reset_of_fits (coherent.fits i)
  have fresh : (Array.replicate s.size (Measure.zero (maximumOf s.arena))).map Measure.reset =
      Array.replicate s.size (Measure.zero (maximumOf s.arena)) := by
    rw [Array.map_replicate, reset_of_fits (Measure.fits_zero _)]
  simp only [solveStart, Solver.reset, new, Solver.mk.injEq]
  refine ⟨trivial, coherent.maximum_eq, coherent.scale_eq, ?_, ?_, ?_, trivial, trivial, trivial⟩
  · rw [measures]
    exact fresh.symm
  · rw [Array.map_const', Array.map_const', coherent.ranks_size, Array.size_replicate]
    rfl
  · rw [Array.map_const', Array.map_const', kept.locked_size, Array.size_replicate]
    rfl

theorem Kept.solve_eq (kept : s.Kept) (st : Strategy) :
    s.solve st = (new s.arena s.rng s.policy).solve st :=
  solve_congr kept.solveStart_eq st

theorem Kept.sound_solveStart (kept : s.Kept) : s.solveStart.Sound := by
  rw [kept.solveStart_eq]
  exact (sound_new kept.reachable.consistent _ _).solveStart

end Kept

section Runs

theorem liftRandomLoop_reaches {n : Nat} (positive : 0 < n) :
    ∀ (fuel : Nat) (finished : Array Bool) (remaining : Nat) (s : Solver), s.size = n →
      Reaches s (liftRandomLoop n fuel finished remaining s)
  | 0, _, _, s, _ => .refl s
  | fuel + 1, finished, remaining, s, sized => by
    rw [liftRandomLoop]
    split
    · exact .refl s
    · have drawn : Reaches s (s.draw (·.below n)).2 := (Move.draw s (s.rng.below n).2).reaches
      have inside : (s.draw (·.below n)).1 < n := s.rng.below_lt positive
      generalize s.draw (·.below n) = result at drawn inside ⊢
      obtain ⟨v, drawnState⟩ := result
      dsimp only at drawn inside ⊢
      have lifted := liftLive_reaches (s := drawnState) (v := v)
        (by rw [drawn.size_eq, sized]; exact inside)
      generalize drawnState.liftLive v = result at lifted ⊢
      obtain ⟨changed, u⟩ := result
      have sizedU : u.size = n := by rw [lifted.size_eq, drawn.size_eq, sized]
      -- whichever way the loop goes on, it goes on from `u`
      have rest : ∀ finished remaining,
          Reaches s (liftRandomLoop n fuel finished remaining u) := fun finished remaining =>
        drawn.trans (lifted.trans (liftRandomLoop_reaches positive fuel finished remaining u sizedU))
      split
      · exact rest _ _
      · split
        · exact rest _ _
        · exact rest _ _

theorem liftRandom_reaches (fuel : Nat) (s : Solver) : Reaches s (liftRandom fuel s) := by
  unfold liftRandom
  dsimp only
  split
  · exact .refl s
  · rename_i nonempty
    exact liftRandomLoop_reaches (Nat.pos_of_ne_zero (by simpa using nonempty)) fuel _ _ s rfl

/-- Every strategy is a run of moves; the random one draws its vertices. -/
theorem runStrategy_reaches (consistent : s.arena.Consistent) (st : Strategy) :
    Reaches s (runStrategy st s).1 := by
  rw [runStrategy_fst]
  by_cases random : st = .random
  · subst random
    exact liftRandom_reaches _ s
  · exact strategyLoop_reaches consistent s.budget random

theorem Move.locked_size_eq {k : Nat} (move : Move s k t) : t.locked.size = s.locked.size := by
  cases move with
  | lift => rw [locked_lift]
  | lock => exact locked_size_lock _ _
  | noteDepth => rfl
  | draw => rfl

theorem Move.policy_eq {k : Nat} (move : Move s k t) : t.policy = s.policy := by
  cases move with
  | lift => exact policy_lift _ _
  | lock v =>
    unfold Solver.lock
    split <;> rfl
  | noteDepth => rfl
  | draw => rfl

theorem Reaches.locked_size_eq (reaches : Reaches s t) : t.locked.size = s.locked.size := by
  obtain ⟨_, moves⟩ := reaches
  induction moves with
  | refl => rfl
  | tail _ move ih => exact move.locked_size_eq.trans ih

theorem Reaches.policy_eq (reaches : Reaches s t) : t.policy = s.policy := by
  obtain ⟨_, moves⟩ := reaches
  induction moves with
  | refl => rfl
  | tail _ move ih => exact move.policy_eq.trans ih

/-- A state a solve of such a state passes through: reached from the start,
which is sound, by moves that keep the arena, the policy and the lock flags. -/
theorem Kept.of_reaches (kept : s.Kept) (reaches : Reaches s.solveStart t) : t.Kept where
  reachable := by
    rw [reaches.arena_eq]
    exact kept.reachable
  coherent := (reaches.gains kept.sound_solveStart).sound.coherent
  locked_size := by
    rw [reaches.locked_size_eq, size, reaches.arena_eq]
    simpa [solveStart, Solver.reset, size] using kept.locked_size

theorem solve_reaches (consistent : s.arena.Consistent) (st : Strategy) :
    Reaches s.solveStart (s.solve st).2.1 := by
  rw [solve_fst_snd, ← runStrategy_fst]
  exact runStrategy_reaches (s := s.solveStart) consistent st

theorem Kept.solve (kept : s.Kept) (st : Strategy) : (s.solve st).2.1.Kept :=
  kept.of_reaches (solve_reaches kept.reachable.consistent st)

theorem Used.kept (used : s.Used) : s.Kept := by
  induction used with
  | new g policy reachable => exact kept_new reachable g policy
  | solve st _ ih => exact ih.solve st
  | lift v _ ih => exact ih.liftChecked v
  | reset _ ih => exact ih.reset
  | counters f _ ih => exact ih.counters f
  | setValue _ set stored ih => exact ih.updateMeasure ((ih.coherent.fits _).setValue set) stored
  | makeTop _ stored ih => exact ih.updateMeasure (ih.coherent.fits _).makeTop stored
  | resetMeasure _ stored ih => exact ih.updateMeasure (ih.coherent.fits _).reset stored

end Runs

section Generator

/-! The strategies that draw nothing never read the generator.  Run from a
state over the same arena with another generator, the propagation strategies
end in the same state with that generator; the others do over any arena with
the same game (`runStrategy_relocate`). -/

variable {b : Arena} {g : Random.Generator}

/-- A fold whose steps keep the arena keeps it. -/
theorem foldl_arena {α : Type} {F : α × Solver → Nat → α × Solver}
    (step : ∀ (x : α) (t : Solver) (v : Nat), t.arena = b → (F (x, t) v).2.arena = t.arena) :
    ∀ (set : List Nat) (x : α) (s : Solver), s.arena = b → (set.foldl F (x, s)).2.arena = s.arena
  | [], _, _, _ => rfl
  | v :: vs, x, s, onArena => by
    rw [List.foldl_cons]
    have kept := step x s v onArena
    exact (foldl_arena step vs _ _ (kept.trans onArena)).trans kept

theorem lock_relocate (v : Nat) : (s.relocate b g).lock v = (s.lock v).relocate b g := by
  unfold Solver.lock
  rw [isLocked_relocate]
  split <;> rfl

theorem liftToFixpoint_relocate (v : Nat) : ∀ (fuel : Nat) (s : Solver), s.arena.SameGame b →
    liftToFixpoint v fuel (s.relocate b g) = (liftToFixpoint v fuel s).relocate b g
  | 0, _, _ => rfl
  | fuel + 1, s, same => by
    rw [liftToFixpoint, liftToFixpoint, lift_relocate same v]
    have kept := arena_lift s v
    generalize s.lift v = lifted at kept ⊢
    obtain ⟨changed, u⟩ := lifted
    cases changed
    · rfl
    · exact liftToFixpoint_relocate v fuel u (kept ▸ same)

theorem lockPredecessors_withRng (fuel : Nat) (top : Bool) (queue : Array Nat) (s : Solver)
    (u : Nat) (onArena : s.arena = b) :
    lockPredecessors fuel top (queue, s.relocate b g) u =
        ((lockPredecessors fuel top (queue, s) u).1,
          (lockPredecessors fuel top (queue, s) u).2.relocate b g) ∧
      (lockPredecessors fuel top (queue, s) u).2.arena = s.arena := by
  subst onArena
  unfold lockPredecessors
  dsimp only
  rw [isLocked_relocate]
  -- over its own arena the relocated state locks as the state does
  have lockable : (s.relocate s.arena g).lockable u top = s.lockable u top := rfl
  rw [lockable]
  split
  · exact ⟨rfl, rfl⟩
  · rw [liftToFixpoint_relocate u fuel s (Arena.SameGame.refl _), lock_relocate]
    exact ⟨rfl, by rw [arena_lock, arena_liftToFixpoint]⟩

theorem propagateLocks_withRng (fuel : Nat) : ∀ (rounds : Nat) (queue : Array Nat) (i : Nat)
    (s : Solver), s.arena = b →
      propagateLocks fuel rounds queue i (s.relocate b g) =
          (propagateLocks fuel rounds queue i s).relocate b g ∧
        (propagateLocks fuel rounds queue i s).arena = s.arena := by
  intro rounds
  induction rounds with
  | zero => intro queue i s _; exact ⟨rfl, rfl⟩
  | succ rounds ih =>
    intro queue i s onArena
    subst onArena
    cases found : queue[i]? with
    | none =>
      rw [propagateLocks_none found, propagateLocks_none found]
      exact ⟨rfl, rfl⟩
    | some v =>
      rw [propagateLocks_some found, propagateLocks_some found, arena_relocate, measure_relocate,
        ← Array.foldl_toList, ← Array.foldl_toList]
      have step := fun x t u (onArena : t.arena = s.arena) =>
        lockPredecessors_withRng (g := g) fuel (s.measure v).top x t u onArena
      rw [foldl_relocate (· = s.arena) step _ queue s rfl]
      have kept := foldl_arena (fun x t u onArena => (step x t u onArena).2)
        (s.arena.vertex v).incoming.toList queue s rfl
      obtain ⟨moved, stays⟩ := ih _ (i + 1) _ kept
      exact ⟨moved, stays.trans kept⟩

theorem lockAtTop_withRng (fuel : Nat) (hybrid : Bool) (v : Nat) (onArena : s.arena = b) :
    lockAtTop fuel hybrid v (s.relocate b g) = (lockAtTop fuel hybrid v s).relocate b g ∧
      (lockAtTop fuel hybrid v s).arena = s.arena := by
  unfold lockAtTop
  rw [measure_relocate]
  split
  · have sized : (s.relocate b g).size = s.size := by rw [size, arena_relocate, ← onArena]; rfl
    rw [sized, lock_relocate]
    obtain ⟨moved, stays⟩ := propagateLocks_withRng (b := b) (g := g) fuel (s.size + 1) #[v] 0
      (s.lock v) ((arena_lock s v).trans onArena)
    exact ⟨moved, stays.trans (arena_lock s v)⟩
  · exact ⟨rfl, rfl⟩

theorem passStep_withRng (fuel : Nat) (hybrid : Bool) (changed : Array Nat) (s : Solver) (v : Nat)
    (onArena : s.arena = b) :
    passStep fuel hybrid (changed, s.relocate b g) v =
        ((passStep fuel hybrid (changed, s) v).1, (passStep fuel hybrid (changed, s) v).2.relocate b g) ∧
      (passStep fuel hybrid (changed, s) v).2.arena = s.arena := by
  unfold passStep
  dsimp only
  rw [isLocked_relocate, measure_relocate]
  split
  · exact ⟨rfl, rfl⟩
  · rw [lift_relocate (onArena ▸ Arena.SameGame.refl s.arena) v]
    have kept := arena_lift s v
    generalize s.lift v = lifted at kept ⊢
    obtain ⟨c, t⟩ := lifted
    dsimp only at kept ⊢
    cases c
    · exact ⟨rfl, kept⟩
    · obtain ⟨moved, stays⟩ := lockAtTop_withRng (g := g) fuel hybrid v (kept.trans onArena)
      exact ⟨by rw [moved]; rfl, stays.trans kept⟩

theorem recursivePass_withRng (fuel : Nat) (hybrid : Bool) (set : List Nat) (onArena : s.arena = b) :
    recursivePass fuel hybrid set (s.relocate b g) =
        ((recursivePass fuel hybrid set s).1, (recursivePass fuel hybrid set s).2.relocate b g) ∧
      (recursivePass fuel hybrid set s).2.arena = s.arena := by
  rw [recursivePass_eq, recursivePass_eq]
  rw [foldl_relocate (· = b) (fun x t v onArena => passStep_withRng fuel hybrid x t v onArena)
    set #[] s onArena]
  exact ⟨rfl, foldl_arena (fun x t v onArena => (passStep_withRng (g := g) fuel hybrid x t v onArena).2)
    set #[] s onArena⟩

theorem liftRecursive_withRng (hybrid : Bool) :
    ∀ (fuel : Nat) (set : List Nat) (depth : Nat) (s : Solver), s.arena = b →
      liftRecursive hybrid fuel set depth (s.relocate b g) =
          (liftRecursive hybrid fuel set depth s).relocate b g ∧
        (liftRecursive hybrid fuel set depth s).arena = s.arena := by
  intro fuel
  induction fuel with
  | zero => intro set depth s _; exact ⟨rfl, rfl⟩
  | succ fuel ih =>
    intro set depth s onArena
    rw [liftRecursive, liftRecursive]
    have noted : (s.relocate b g).noteDepth depth = (s.noteDepth depth).relocate b g := rfl
    dsimp only
    obtain ⟨passed, kept⟩ := recursivePass_withRng (g := g) (s := s.noteDepth depth) fuel hybrid set onArena
    rw [noted, passed]
    generalize recursivePass fuel hybrid set (s.noteDepth depth) = result at kept ⊢
    obtain ⟨changed, t⟩ := result
    dsimp only at kept ⊢
    split
    · exact ⟨rfl, kept⟩
    · -- the nested call on the changed part, then the next pass on the whole set
      have nested : (if changed.length < set.length then
            liftRecursive hybrid fuel changed (depth + 1) (t.relocate b g) else t.relocate b g) =
          (if changed.length < set.length then
            liftRecursive hybrid fuel changed (depth + 1) t else t).relocate b g ∧
          (if changed.length < set.length then
            liftRecursive hybrid fuel changed (depth + 1) t else t).arena = t.arena := by
        split
        · exact ih changed (depth + 1) t (kept.trans onArena)
        · exact ⟨rfl, rfl⟩
      obtain ⟨nestedEq, nestedArena⟩ := nested
      rw [nestedEq]
      generalize (if changed.length < set.length then _ else t) = after at nestedArena ⊢
      obtain ⟨moved, stays⟩ := ih set depth after (by rw [nestedArena, kept]; exact onArena)
      exact ⟨moved, stays.trans (nestedArena.trans kept)⟩

theorem selfLoopLock_withRng (fuel : Nat) (queue : Array Nat) (s : Solver) (v : Nat)
    (onArena : s.arena = b) :
    selfLoopLock fuel (queue, s.relocate b g) v =
        ((selfLoopLock fuel (queue, s) v).1, (selfLoopLock fuel (queue, s) v).2.relocate b g) ∧
      (selfLoopLock fuel (queue, s) v).2.arena = s.arena := by
  subst onArena
  unfold selfLoopLock
  dsimp only
  have settled : (s.relocate s.arena g).settledBySelfLoop v = s.settledBySelfLoop v := rfl
  rw [settled]
  split
  · rw [liftToFixpoint_relocate v fuel s (Arena.SameGame.refl _), lock_relocate]
    exact ⟨rfl, by rw [arena_lock, arena_liftToFixpoint]⟩
  · exact ⟨rfl, rfl⟩

theorem propagate_withRng (fuel : Nat) (hybrid : Bool) (onArena : s.arena = b) :
    (propagate fuel hybrid (s.relocate b g)).1 = (propagate fuel hybrid s).1.relocate b g := by
  rw [propagate_fst, propagate_fst]
  have sized : (s.relocate b g).size = s.size := by rw [size, arena_relocate, ← onArena]; rfl
  dsimp only
  rw [sized, foldl_relocate (· = b) (fun x t v onArena => selfLoopLock_withRng fuel x t v onArena)
    _ #[] s onArena]
  have kept := foldl_arena (fun x t v onArena => (selfLoopLock_withRng (g := g) fuel x t v onArena).2)
    (List.range s.size) #[] s onArena
  generalize (List.range s.size).foldl (selfLoopLock fuel) (#[], s) = result at kept ⊢
  obtain ⟨queue, t⟩ := result
  dsimp only at kept ⊢
  have sizedT : (t.relocate b g).size = t.size := by rw [size, arena_relocate, ← onArena, ← kept]; rfl
  obtain ⟨spread, spreadArena⟩ := propagateLocks_withRng (g := g) fuel (t.size + 1) queue 0 t
    (kept.trans onArena)
  rw [sizedT, spread]
  generalize propagateLocks fuel (t.size + 1) queue 0 t = u at spreadArena ⊢
  have sizedU : (u.relocate b g).size = u.size := by
    rw [size, arena_relocate, ← onArena, ← kept, ← spreadArena]; rfl
  rw [sizedU]
  exact (liftRecursive_withRng hybrid fuel _ 0 u (by rw [spreadArena, kept]; exact onArena)).1

/-- A strategy that draws nothing runs from another generator as from its own,
and keeps that generator. -/
theorem runStrategy_withRng (intact : s.arena.Intact) {st : Strategy}
    (notRandom : st.isRandomized = false) (g : Random.Generator) :
    (runStrategy st (s.relocate s.arena g)).1 = (runStrategy st s).1.relocate s.arena g := by
  have same := Arena.SameGame.refl s.arena
  rw [runStrategy_fst, runStrategy_fst, budget_relocate same]
  -- the orders and the size read alike over the same arena
  cases st <;> simp only [strategyLoop, size_relocate same, inputOrder_relocate same,
    priorityOrder_relocate same, incomingOrder_relocate same intact intact]
  case input | priority | incoming => exact (sweepReturning_relocate _ _ _ s same).1
  case inputNonReturning | priorityNonReturning | incomingNonReturning =>
    exact (sweepNonReturning_relocate _ _ s same).1
  case random | randomNonReturning => exact absurd notRandom (by decide)
  case recursive | recursivePriority | recursiveIncoming =>
    exact (liftRecursive_relocate _ _ _ s same).1
  case propagation => exact propagate_withRng _ false rfl
  case propagationHybrid => exact propagate_withRng _ true rfl

theorem solve_withRng (intact : s.arena.Intact) {st : Strategy}
    (notRandom : st.isRandomized = false) (g : Random.Generator) :
    ((s.relocate s.arena g).solve st).2.1 = (s.solve st).2.1.relocate s.arena g := by
  rw [solve_fst_snd, solve_fst_snd, ← runStrategy_fst, ← runStrategy_fst, solveStart_relocate]
  exact runStrategy_withRng (s := s.solveStart) intact notRandom g

theorem rng_solve (intact : s.arena.Intact) {st : Strategy} (notRandom : st.isRandomized = false) :
    (s.solve st).2.1.rng = s.rng := by
  have moved := solve_withRng intact notRandom s.rng
  rw [relocate_self] at moved
  -- the generator of the relocated end state is the one it was relocated to
  have kept := congrArg rng moved
  exact kept

end Generator

section Again

theorem Kept.solveStops (kept : s.Kept) {st : Strategy} (stops : SolveStops st s) :
    SolveStops st (new s.arena s.rng s.policy) := by
  unfold SolveStops
  rw [← kept.solveStart_eq]
  exact stops

/-- Solves of two such states over one arena name the same winners, whatever
the strategies, generators and policies: each is the solve of a fresh solver. -/
theorem Kept.solve_winners_eq (kept : s.Kept) (kept' : t.Kept) (sameArena : t.arena = s.arena)
    (st st' : Strategy) (stops : SolveStops st s) (stops' : SolveStops st' t) :
    (s.solve st).1 = (t.solve st').1 := by
  rw [kept.solve_eq, kept'.solve_eq]
  have same : (new s.arena s.rng s.policy).arena.SameGame (new t.arena t.rng t.policy).arena := by
    show s.arena.SameGame t.arena
    rw [sameArena]
    exact Arena.SameGame.refl s.arena
  exact Solver.solve_winners_agree (.new s.rng s.policy kept.reachable) (.new t.rng t.policy kept'.reachable)
    kept.reachable.intact kept'.reachable.intact same st st' (kept.solveStops stops)
    (kept'.solveStops stops')

theorem arena_solve (consistent : s.arena.Consistent) (st : Strategy) :
    (s.solve st).2.1.arena = s.arena :=
  (solve_reaches consistent st).arena_eq

theorem policy_solve (consistent : s.arena.Consistent) (st : Strategy) :
    (s.solve st).2.1.policy = s.policy :=
  (solve_reaches consistent st).policy_eq

/-- By a strategy that draws nothing, a second solve repeats the first: the
first keeps the arena, the policy and the generator, so both start from the
same fresh solver. -/
theorem Kept.solve_again (kept : s.Kept) {st : Strategy} (notRandom : st.isRandomized = false) :
    (s.solve st).2.1.solve st = s.solve st := by
  have consistent := kept.reachable.consistent
  rw [(kept.solve st).solve_eq st, arena_solve consistent, policy_solve consistent,
    rng_solve kept.reachable.intact notRandom, ← kept.solve_eq]

/-- Whatever a solver went through since it was made over an arena the
operations built, a solve by `st` names the winners that a solve of a fresh
solver over the arena with the same policy names, and leaves every measure
equal to the one that solve leaves; by a strategy that draws nothing it leaves
the same counters too, and a second solve in a row gives the same answer.  The
random strategy is taken where its loop stops by its own test. -/
theorem solve_after_use (used : s.Used) (g : Random.Generator) (st : Strategy)
    (stops : SolveStops st s) (freshStops : SolveStops st (new s.arena g s.policy)) :
    (s.solve st).1 = ((new s.arena g s.policy).solve st).1 ∧
    (s.solve st).2.1.measures.size = ((new s.arena g s.policy).solve st).2.1.measures.size ∧
    (∀ v < s.size,
      ((s.solve st).2.1.measure v).equal (((new s.arena g s.policy).solve st).2.1.measure v) = true) ∧
    (st.isRandomized = false →
      (s.solve st).2.1.stats = ((new s.arena g s.policy).solve st).2.1.stats ∧
      (s.solve st).2.1.solve st = s.solve st) ∧
    (SolveStops st (s.solve st).2.1 → ((s.solve st).2.1.solve st).1 = (s.solve st).1) := by
  have kept := used.kept
  have consistent := kept.reachable.consistent
  have fresh := kept_new kept.reachable g s.policy
  -- without draws the solve is the fresh one with the generator of `s`
  have moved : st.isRandomized = false →
      (s.solve st).2.1 = ((new s.arena g s.policy).solve st).2.1.relocate s.arena s.rng :=
    fun notRandom => by
      rw [kept.solve_eq]
      exact solve_withRng (s := new s.arena g s.policy) kept.reachable.intact notRandom s.rng
  refine ⟨kept.solve_winners_eq fresh rfl st st stops freshStops, ?_, ?_,
    fun notRandom => ⟨by rw [moved notRandom]; rfl, kept.solve_again notRandom⟩,
    fun stopsAgain => (kept.solve st).solve_winners_eq kept (arena_solve consistent st).symm st st
      stopsAgain stops⟩
  · rw [(kept.solve st).coherent.measures_size, (fresh.solve st).coherent.measures_size, size, size,
      arena_solve consistent, arena_solve fresh.reachable.consistent]
    rfl
  · intro v inside
    cases drawn : st.isRandomized
    · rw [moved drawn, measure_relocate]
      exact Measure.equal_self _
    · -- a random strategy that stops reaches the least fixpoint from either generator
      have notPropagation : st = .propagation ∨ st = .propagationHybrid → s.policy = .safe := by
        rintro (rfl | rfl) <;> exact absurd drawn (by decide)
      obtain ⟨sound, -, exact⟩ := solve_exact (.new s.rng s.policy kept.reachable) st notPropagation
        (kept.solveStops stops)
      obtain ⟨sound', -, exact'⟩ := solve_exact (.new g s.policy kept.reachable) st notPropagation
        freshStops
      rw [kept.solve_eq]
      apply sound'.coherent.equal_of_rank sound.coherent
      · rw [sound.coherent.maximum_eq, sound'.coherent.maximum_eq,
          arena_solve (s := new s.arena s.rng s.policy) consistent,
          arena_solve (s := new s.arena g s.policy) consistent]
        rfl
      · rw [exact v inside, exact' v inside]
        rfl

/-- Two vertices with an edge and a self-loop under the eager policy: the
state a random solve leaves, solved again by hybrid propagation. -/
theorem solve_after_use_random_then_hybrid :
    let a := (((Arena.new 2).addEdge 0 1).toOption.getD {}).addEdge 0 0 |>.toOption.getD {}
    let s := ((new a default .eager).solve .random).2.1
    s.Used ∧ SolveStops .propagationHybrid s ∧
      SolveStops .propagationHybrid (new s.arena default s.policy) ∧
      (s.solve .propagationHybrid).1 = ((new s.arena default s.policy).solve .propagationHybrid).1 ∧
      (s.solve .propagationHybrid).2.1.solve .propagationHybrid = s.solve .propagationHybrid := by
  intro a s
  have first : (Arena.new 2).Reachable := .new 2
  have second := @Arena.Reachable.addEdge _ _ 0 1 first rfl
  have reachable : a.Reachable := @Arena.Reachable.addEdge _ _ 0 0 second rfl
  have used : s.Used := .solve .random (.new default .eager reachable)
  have stops : SolveStops .propagationHybrid s := fun random => absurd random (by decide)
  have freshStops : SolveStops .propagationHybrid (new s.arena default s.policy) :=
    fun random => absurd random (by decide)
  obtain ⟨winners, -, -, again, -⟩ := solve_after_use used default .propagationHybrid stops freshStops
  exact ⟨used, stops, freshStops, winners, (again rfl).2⟩

end Again

end Solver

end ParityGames
