import ParityGames.Proofs.Reuse
import ParityGames.Proofs.ProgLeast

/-!
# The solver's calls stay in range

The calls on measures check their boundaries and the solver stops the program
when one refuses.  Every boundary the solver passes is the priority of a
vertex, and in every state a solver reaches from a fresh one over an arena the
operations built, and every state a solve passes through, that priority lies
inside the maximum, whose size is one more than the largest priority: the
priority histogram has a bucket for it, every measure has the size of the
maximum, and computing `prog` into a scratch measure of that shape by the calls
(`progInto`) answers `prog` (`progInto_eq`).

The propagation strategies take the number of vertices less the lock counter
as the room for the unlocked vertices after their locking pass.  There the
lock counter counts the lock flags set, one flag per vertex (`Counted`), so the
room is never negative.
-/

namespace ParityGames

namespace Measure

/-- A measure of the shape a maximum gives: bound to it, of its size, with one
component per odd index.  The solver's scratch measures have it. -/
structure Sized (M : Maximum) (m : Measure) : Prop where
  bound_eq : m.bound = M
  size_eq : m.size = M.size
  odd_size : m.odd.size = M.bounds.size

variable {M : Maximum} {m dst target : Measure} {p : Nat}

theorem Fits.sized (fits : m.Fits M) : m.Sized M :=
  ⟨fits.bound_eq, fits.size_eq, fits.length⟩

/-- Inside both measures, `makePartialEqualOf` copies the target cut after the
boundary into a sized measure, or makes it `⊤`. -/
theorem makePartialEqualOf_sized (sized : dst.Sized M) (inside : p < M.size)
    (targetSize : target.size = M.size) :
    dst.makePartialEqualOf p target = .ok (if target.top then topOf M
      else ⟨cutAfter target.odd (prefixLength p) M.bounds.size, M.size, false, M⟩) := by
  obtain ⟨odd, size, top, bound⟩ := dst
  obtain ⟨boundEq, sizeEq, oddSize⟩ := sized
  dsimp only at boundEq sizeEq oddSize
  subst boundEq sizeEq
  have checked : checkBoundary .makeEqual ⟨odd, bound.size, top, bound⟩ p target = .ok p := by
    simp [checkBoundary, inside, targetSize]
  simp only [makePartialEqualOf, checked, bind, Except.bind, oddSize, pure, Except.pure]
  cases target.top <;> rfl

/-- Inside a vector, `partialIncrement` raises its prefix as `raisePrefix`
does, and reports whether it found a digit to raise. -/
theorem partialIncrement_raisePrefix (finite : m.top = false) (inside : p < m.size) :
    m.partialIncrement p = .ok ((raisePrefix m.odd m.bound.bounds (prefixLength p)).1,
      { m with odd := (raisePrefix m.odd m.bound.bounds (prefixLength p)).2 }) := by
  obtain ⟨odd, size, top, bound⟩ := m
  dsimp only at finite inside
  subst finite
  unfold partialIncrement incrementPrefix
  rw [Int.toNat_natCast, if_neg (by simp only [Bool.or_eq_true, decide_eq_true_eq]; omega)]
  unfold raisePrefix
  cases lastBelow odd bound.bounds (prefixLength p) <;> rfl

end Measure

namespace Solver

variable {s t : Solver}

/-- Into a scratch measure of the maximum's shape, the calls on measures
compute `prog` whenever the priority of `v` lies inside the maximum and the
measure of `w` has its size. -/
theorem progInto_eq {dst : Measure} (sized : dst.Sized s.maximum) {v w : Nat}
    (inside : (s.arena.vertex v).priority < s.maximum.size)
    (targetSize : (s.measure w).size = s.maximum.size) :
    s.progInto dst v w = .ok (s.prog v w) := by
  unfold progInto prog progOf
  generalize (s.arena.vertex v).priority = p at inside ⊢
  generalize s.measure w = target at targetSize ⊢
  generalize s.maximum = M at sized inside targetSize ⊢
  dsimp only
  rw [Measure.makePartialEqualOf_sized sized inside targetSize]
  cases targetTop : target.top
  · simp only [bind, Except.bind, inside, targetSize, decide_true, Bool.and_self,
      Bool.false_eq_true, if_true, if_false, Bool.or_false]
    cases parity : p % 2 == 0
    · -- an odd priority raises the cut, or gives `⊤` when no digit can be raised
      rw [if_neg (by simp), Measure.partialIncrement_raisePrefix rfl inside]
      dsimp only
      cases (Measure.raisePrefix (Measure.cutAfter target.odd (Measure.prefixLength p) M.bounds.size)
        M.bounds (Measure.prefixLength p)).1 <;> rfl
    · rfl
  · simp only [bind, Except.bind, inside, targetSize, decide_true, Bool.and_self, if_true,
      Measure.topOf, Bool.or_true]
    rfl

section Locking

/-- The state of a propagation solve after its locking pass: the vertices a
self-loop settles are lifted and locked, then locks spread to predecessors.
There the solve takes the number of vertices less the lock counter as the
room for the vertices left unlocked. -/
def lockPass (fuel : Nat) (s : Solver) : Solver :=
  let r := (List.range s.size).foldl (selfLoopLock fuel) (#[], s)
  propagateLocks fuel (r.2.size + 1) r.1 0 r.2

theorem propagate_fst_lockPass (fuel : Nat) (hybrid : Bool) (s : Solver) :
    (propagate fuel hybrid s).1 = liftRecursive hybrid fuel
      ((List.range (lockPass fuel s).size).filter fun v => !(lockPass fuel s).isLocked v) 0
      (lockPass fuel s) := rfl

/-- The lock counter counts the lock flags set, one flag per vertex. -/
structure Counted (s : Solver) : Prop where
  locked_size : s.locked.size = s.size
  counted : s.stats.locked = s.locked.count true

theorem Counted.le_size (counted : s.Counted) : s.stats.locked ≤ s.size := by
  rw [counted.counted, ← counted.locked_size]
  exact Array.count_le_size

theorem stats_locked_liftToFixpoint (v : Nat) : ∀ (fuel : Nat) (s : Solver),
    (liftToFixpoint v fuel s).stats.locked = s.stats.locked
  | 0, _ => rfl
  | fuel + 1, s => by
    rw [liftToFixpoint]
    have same := stats_locked_lift s v
    generalize s.lift v = lifted at same ⊢
    obtain ⟨changed, t⟩ := lifted
    cases changed
    · exact same
    · exact (stats_locked_liftToFixpoint v fuel t).trans same

theorem Counted.liftThenLock (counted : s.Counted) (fuel : Nat) {u : Nat} (inside : u < s.size) :
    ((liftToFixpoint u fuel s).lock u).Counted := by
  -- the lift leaves flags and counter; the lock sets a flag and counts it, or finds it set
  have sized : (liftToFixpoint u fuel s).size = s.size := by rw [size, arena_liftToFixpoint]; rfl
  obtain ⟨lockedSize, counts⟩ := lock_counted (sized ▸ inside)
    (by rw [locked_liftToFixpoint, sized]; exact counted.locked_size)
    (by rw [locked_liftToFixpoint, stats_locked_liftToFixpoint]; exact counted.counted)
  exact ⟨lockedSize, counts⟩

theorem Counted.lockPredecessors {fuel : Nat} {top : Bool} {acc : Array Nat × Solver}
    (counted : acc.2.Counted) {u : Nat} (inside : u < acc.2.size) :
    (lockPredecessors fuel top acc u).2.Counted := by
  obtain ⟨queue, t⟩ := acc
  rcases lockPredecessors_cases fuel top queue t u with same | ⟨_, _, pushed⟩
  · rw [same]
    exact counted
  · rw [pushed]
    exact counted.liftThenLock fuel inside

theorem Counted.selfLoopLock {fuel : Nat} {acc : Array Nat × Solver}
    (counted : acc.2.Counted) {v : Nat} (inside : v < acc.2.size) :
    (selfLoopLock fuel acc v).2.Counted := by
  obtain ⟨queue, t⟩ := acc
  rcases selfLoopLock_cases fuel queue t v with same | ⟨_, pushed⟩
  · rw [same]
    exact counted
  · rw [pushed]
    exact counted.liftThenLock fuel inside

/-- The lock queue keeps the count: each round locks predecessors of a queued
vertex, which are vertices of a consistent arena. -/
theorem propagateLocks_counted (fuel : Nat) : ∀ (rounds : Nat) (queue : Array Nat) (i : Nat)
    (s : Solver), s.arena.Consistent → (∀ x ∈ queue, x < s.size) → s.Counted →
      (propagateLocks fuel rounds queue i s).Counted
  | 0, _, _, _, _, _, counted => counted
  | rounds + 1, queue, i, s, consistent, queued, counted => by
    cases found : queue[i]? with
    | none =>
      rw [propagateLocks_none found]
      exact counted
    | some v =>
      rw [propagateLocks_some found]
      have inside := queued v (Array.mem_of_getElem? found)
      -- the round's fold keeps the queue inside the arena and the count
      have round : Queued s ((s.arena.vertex v).incoming.foldl
            (lockPredecessors fuel (s.measure v).top) (queue, s)) ∧
          ((s.arena.vertex v).incoming.foldl
            (lockPredecessors fuel (s.measure v).top) (queue, s)).2.Counted := by
        rw [← Array.foldl_toList]
        refine List.foldlRecOn (motive := fun acc => Queued s acc ∧ acc.2.Counted) _ _
          ⟨Queued.start queued, counted⟩ fun acc ⟨pending, countedAcc⟩ u mem => ?_
        have edge : u < s.size := Arena.lt_size_of_mem_outgoing
          (consistent.incoming_sound v inside u (Array.mem_toList_iff.1 mem))
        exact ⟨pending.lockPredecessors edge,
          countedAcc.lockPredecessors (by rw [pending.1.size_eq]; exact edge)⟩
      obtain ⟨⟨reached, pendingInside⟩, countedT⟩ := round
      exact propagateLocks_counted fuel rounds _ (i + 1) _ (by rw [reached.arena_eq]; exact consistent)
        (fun x mem => by rw [reached.size_eq]; exact pendingInside x mem) countedT

theorem lockPass_counted (consistent : s.arena.Consistent) (counted : s.Counted) (fuel : Nat) :
    (lockPass fuel s).Counted := by
  unfold lockPass
  dsimp only
  have folded : Queued s ((List.range s.size).foldl (selfLoopLock fuel) (#[], s)) ∧
      ((List.range s.size).foldl (selfLoopLock fuel) (#[], s)).2.Counted :=
    List.foldlRecOn (motive := fun acc => Queued s acc ∧ acc.2.Counted) _ _
      ⟨Queued.start fun x mem => absurd mem (by simp), counted⟩
      fun _ ⟨queued, countedAcc⟩ v mem =>
        ⟨queued.selfLoopLock (List.mem_range.1 mem),
          countedAcc.selfLoopLock (by rw [queued.1.size_eq]; exact List.mem_range.1 mem)⟩
  generalize (List.range s.size).foldl (selfLoopLock fuel) (#[], s) = result at folded ⊢
  obtain ⟨queue, t⟩ := result
  obtain ⟨⟨reached, queueInside⟩, countedT⟩ := folded
  exact propagateLocks_counted fuel _ queue 0 t (by rw [reached.arena_eq]; exact consistent)
    (fun x mem => by rw [reached.size_eq]; exact queueInside x mem) countedT

theorem Kept.counted_solveStart (kept : s.Kept) : s.solveStart.Counted where
  locked_size := by simpa [solveStart, Solver.reset, size] using kept.locked_size
  counted := by
    show 0 = (s.locked.map fun _ => false).count true
    rw [eq_comm, Array.count_eq_zero]
    simp

end Locking

/-- In every state a solver reaches from a fresh one over an arena the
operations built, and in every state a solve from there passes through, the
solver's calls stay in range.  The priority histogram has a bucket for every
priority, and the maximum one entry more than the largest priority.  The
maximum never changes, every measure has its size, and every priority lies
inside it, so the calls on measures compute `prog` into any scratch measure of
the maximum's shape, and `prog` has that shape again.  After the locking pass
of a propagation solve the lock counter is at most the number of vertices. -/
theorem calls_stay_in_range (used : s.Used) :
    (∀ v < s.size, (s.arena.vertex v).priority < s.arena.priorityHistogram.size) ∧
    s.maximum.size = s.arena.maxPriority + 1 ∧
    (∀ st, Reaches s.solveStart (s.solve st).2.1) ∧
    (∀ t, (t = s ∨ Reaches s.solveStart t) →
      t.maximum = s.maximum ∧
      (∀ v, (t.measure v).size = t.maximum.size) ∧
      (∀ v, (t.arena.vertex v).priority < t.maximum.size) ∧
      ∀ v w (dst : Measure), dst.Sized t.maximum →
        t.progInto dst v w = .ok (t.prog v w) ∧ (t.prog v w).Sized t.maximum) ∧
    ∀ fuel, (lockPass fuel s.solveStart).stats.locked ≤ (lockPass fuel s.solveStart).size := by
  have kept := used.kept
  have consistent := kept.reachable.consistent
  refine ⟨fun v inside => ?_, by rw [kept.coherent.maximum_eq, Arena.size_maximumOf],
    fun st => solve_reaches consistent st, fun t reached => ?_,
    fun fuel => (lockPass_counted (s := s.solveStart) consistent kept.counted_solveStart fuel).le_size⟩
  · rw [Arena.size_priorityHistogram]
    exact Nat.lt_succ_of_le (consistent.priority_le v inside)
  · obtain ⟨keptT, sameArena⟩ : t.Kept ∧ t.arena = s.arena := by
      rcases reached with rfl | reaches
      · exact ⟨kept, rfl⟩
      · exact ⟨kept.of_reaches reaches, reaches.arena_eq⟩
    have consistentT := keptT.reachable.consistent
    refine ⟨by rw [keptT.coherent.maximum_eq, kept.coherent.maximum_eq, sameArena],
      fun v => (keptT.coherent.fits v).size_eq, keptT.coherent.priority_lt consistentT,
      fun v w dst sized => ⟨?_, (keptT.coherent.fits_prog consistentT v w).sized⟩⟩
    exact progInto_eq sized (keptT.coherent.priority_lt consistentT v) (keptT.coherent.fits w).size_eq

/-- A fresh solver over `Arena.choiceLoops`: the calls compute the offer of
the loop of `3`, at odd priority 3, into a zero scratch measure, and the lock
counter stays within the vertices after the locking pass. -/
theorem calls_stay_in_range_choice :
    let s := new Arena.choiceLoops default .eager
    s.maximum.size = Arena.choiceLoops.maxPriority + 1 ∧
      s.progInto (Measure.zero s.maximum) 3 3 = .ok (s.prog 3 3) ∧ (s.prog 3 3).odd = #[0, 1] ∧
      ∀ fuel, (lockPass fuel s.solveStart).stats.locked ≤ (lockPass fuel s.solveStart).size := by
  intro s
  have used : s.Used := .new default .eager Arena.reachable_choiceLoops
  obtain ⟨-, maximumSize, -, calls, room⟩ := calls_stay_in_range used
  have zeroSized : (Measure.zero s.maximum).Sized s.maximum := (Measure.fits_zero _).sized
  exact ⟨maximumSize, ((calls s (.inl rfl)).2.2.2 3 3 _ zeroSized).1, by decide +kernel, room⟩

end Solver

end ParityGames
