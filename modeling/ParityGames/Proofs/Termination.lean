import ParityGames.Proofs.LockRuns

/-!
# Every strategy ends

A strategy run changes its state by few moves (`Move`): it lifts a vertex of
the arena, locks a vertex, notes the depth of a recursive pass, or draws from
the generator.  A lift that reports a change raises the measure it sets
(`Sound.lift_compare_lt`), so along a run of moves (`Moves`) the sum of the
numbers of the measures grows by one for each such lift and stays within the
number of vertices times the number of finite measures: no run has more
changing lifts than that (`Moves.count_le`).

Every strategy but the random one is such a run (`strategyLoop_reaches`),
with every depth it notes below the number of vertices, because each nested
recursive call is given a sublist of its caller's set (`recursivePass_sublist`)
that is strictly shorter.  Each loop ends by its own test and not for want of
fuel: once the fuel exceeds the room the potential has left, more fuel gives
the same state (`strategyLoop_fuel`).  The lock queue of `propagateLocks` holds
every vertex at most once, and each round either ends or takes one vertex off
the queue, so the rounds the strategies give it are never used up
(`propagateLocks_rounds`).
-/

namespace ParityGames

namespace Solver

variable {s t u : Solver}

section Steps

/-- The step of the fold in `propagateLocks`: an unlocked predecessor `u` that
`lockable` accepts is lifted to its fixpoint, locked and queued. -/
def lockPredecessors (fuel : Nat) (top : Bool) : Array Nat × Solver → Nat → Array Nat × Solver :=
  fun (queue, s) u =>
    if s.isLocked u || !s.lockable u top then (queue, s)
    else
      let s := liftToFixpoint u fuel s
      (queue.push u, s.lock u)

/-- What the step does: nothing, or it lifts, locks and queues an unlocked
predecessor that `lockable` accepts. -/
theorem lockPredecessors_cases (fuel : Nat) (top : Bool) (queue : Array Nat) (s : Solver) (u : Nat) :
    lockPredecessors fuel top (queue, s) u = (queue, s) ∨
      s.isLocked u = false ∧ s.lockable u top = true ∧
        lockPredecessors fuel top (queue, s) u = (queue.push u, (liftToFixpoint u fuel s).lock u) := by
  unfold lockPredecessors
  dsimp only
  split
  · exact .inl rfl
  · rename_i taken
    simp only [Bool.or_eq_true, Bool.not_eq_true', not_or, Bool.not_eq_false] at taken
    exact .inr ⟨Bool.eq_false_iff.2 taken.1, taken.2, rfl⟩

theorem propagateLocks_some {fuel rounds : Nat} {queue : Array Nat} {i v : Nat}
    (found : queue[i]? = some v) :
    propagateLocks fuel (rounds + 1) queue i s =
      propagateLocks fuel rounds
        ((s.arena.vertex v).incoming.foldl (lockPredecessors fuel (s.measure v).top) (queue, s)).1
        (i + 1)
        ((s.arena.vertex v).incoming.foldl (lockPredecessors fuel (s.measure v).top) (queue, s)).2 := by
  rw [propagateLocks, found]
  rfl

theorem propagateLocks_none {fuel rounds : Nat} {queue : Array Nat} {i : Nat}
    (found : queue[i]? = none) : propagateLocks fuel (rounds + 1) queue i s = s := by
  rw [propagateLocks, found]

/-- In hybrid mode a vertex at `⊤` is locked and spreads its locks. -/
def lockAtTop (fuel : Nat) (hybrid : Bool) (v : Nat) (s : Solver) : Solver :=
  if hybrid && (s.measure v).top then propagateLocks fuel (s.size + 1) #[v] 0 (s.lock v) else s

/-- The step of the fold in `recursivePass`: a live, unlocked vertex is lifted
and collected when it changed, then `lockAtTop`. -/
def passStep (fuel : Nat) (hybrid : Bool) : Array Nat × Solver → Nat → Array Nat × Solver :=
  fun (changed, s) v =>
    if s.isLocked v || (s.measure v).top then (changed, s)
    else
      let (c, s) := s.lift v
      if !c then (changed, s)
      else (changed.push v, lockAtTop fuel hybrid v s)

/-- What the step does: nothing to a locked or `⊤` vertex; otherwise it lifts
the vertex, and when the lift changes it, collects it and applies
`lockAtTop`. -/
theorem passStep_cases (fuel : Nat) (hybrid : Bool) (changed : Array Nat) (s : Solver) (v : Nat) :
    passStep fuel hybrid (changed, s) v = (changed, s) ∨
      s.isLocked v = false ∧ (s.measure v).top = false ∧
        ((s.lift v).1 = false ∧ passStep fuel hybrid (changed, s) v = (changed, (s.lift v).2) ∨
          (s.lift v).1 = true ∧
            passStep fuel hybrid (changed, s) v = (changed.push v, lockAtTop fuel hybrid v (s.lift v).2)) := by
  unfold passStep
  dsimp only
  split
  · exact .inl rfl
  · rename_i taken
    simp only [Bool.or_eq_true, not_or, Bool.not_eq_true] at taken
    refine .inr ⟨taken.1, taken.2, ?_⟩
    generalize s.lift v = lifted
    obtain ⟨c, t⟩ := lifted
    cases c
    · exact .inl ⟨rfl, rfl⟩
    · exact .inr ⟨rfl, rfl⟩

theorem recursivePass_eq (fuel : Nat) (hybrid : Bool) (set : List Nat) (s : Solver) :
    recursivePass fuel hybrid set s =
      ((set.foldl (passStep fuel hybrid) (#[], s)).1.toList,
        (set.foldl (passStep fuel hybrid) (#[], s)).2) := rfl

/-- The step of the first fold in `propagate`: a vertex its self-loop decides
is lifted to its fixpoint, locked and queued. -/
def selfLoopLock (fuel : Nat) : Array Nat × Solver → Nat → Array Nat × Solver :=
  fun (queue, s) v =>
    if s.settledBySelfLoop v then (queue.push v, (liftToFixpoint v fuel s).lock v)
    else (queue, s)

theorem selfLoopLock_cases (fuel : Nat) (queue : Array Nat) (s : Solver) (v : Nat) :
    selfLoopLock fuel (queue, s) v = (queue, s) ∨
      s.settledBySelfLoop v = true ∧
        selfLoopLock fuel (queue, s) v = (queue.push v, (liftToFixpoint v fuel s).lock v) := by
  unfold selfLoopLock
  dsimp only
  split
  · exact .inr ⟨‹_›, rfl⟩
  · exact .inl rfl

theorem propagate_fst (fuel : Nat) (hybrid : Bool) (s : Solver) :
    (propagate fuel hybrid s).1 =
      let r := (List.range s.size).foldl (selfLoopLock fuel) (#[], s)
      let t := propagateLocks fuel (r.2.size + 1) r.1 0 r.2
      liftRecursive hybrid fuel ((List.range t.size).filter fun v => !t.isLocked v) 0 t := rfl

/-- The loop of each strategy given its fuel; `runStrategy` gives it the
budget. -/
def strategyLoop (fuel : Nat) : Strategy → Solver → Solver
  | .input, s => sweepReturning (inputOrder s).toArray (fuel * (s.size + 1)) 0 s
  | .inputNonReturning, s => sweepNonReturning (inputOrder s) fuel s
  | .random, s => liftRandom (fuel * 64 * (s.size + 1)) s
  | .randomNonReturning, s => liftRandomNonReturning fuel s
  | .priority, s => sweepReturning (priorityOrder s).toArray (fuel * (s.size + 1)) 0 s
  | .priorityNonReturning, s => sweepNonReturning (priorityOrder s) fuel s
  | .incoming, s => sweepReturning (incomingOrder s).toArray (fuel * (s.size + 1)) 0 s
  | .incomingNonReturning, s => sweepNonReturning (incomingOrder s) fuel s
  | .recursive, s => liftRecursive false fuel (inputOrder s) 0 s
  | .recursivePriority, s => liftRecursive false fuel (priorityOrder s) 0 s
  | .recursiveIncoming, s => liftRecursive false fuel (incomingOrder s) 0 s
  | .propagation, s => (propagate fuel false s).1
  | .propagationHybrid, s => (propagate fuel true s).1

theorem runStrategy_fst (st : Strategy) (s : Solver) :
    (runStrategy st s).1 = strategyLoop s.budget st s := by
  cases st <;> rfl

end Steps

section Frame

@[simp]
theorem stats_maxRecursionDepth_lift (s : Solver) (v : Nat) :
    (s.lift v).2.stats.maxRecursionDepth = s.stats.maxRecursionDepth := by
  unfold lift
  dsimp only
  generalize (_ && _) = unchanged
  cases unchanged <;> rfl

@[simp]
theorem arena_lock (s : Solver) (v : Nat) : (s.lock v).arena = s.arena := by
  unfold lock
  split <;> rfl

@[simp]
theorem size_lock (s : Solver) (v : Nat) : (s.lock v).size = s.size := by
  rw [size, arena_lock]
  rfl

@[simp]
theorem stats_maxRecursionDepth_lock (s : Solver) (v : Nat) :
    (s.lock v).stats.maxRecursionDepth = s.stats.maxRecursionDepth := by
  unfold lock
  split <;> rfl

@[simp]
theorem arena_liftToFixpoint (v : Nat) : ∀ (fuel : Nat) (s : Solver),
    (liftToFixpoint v fuel s).arena = s.arena
  | 0, _ => rfl
  | fuel + 1, s => by
    rw [liftToFixpoint]
    have same := arena_lift s v
    generalize s.lift v = lifted at same ⊢
    obtain ⟨changed, t⟩ := lifted
    cases changed
    · exact same
    · exact (arena_liftToFixpoint v fuel t).trans same

@[simp]
theorem locked_liftToFixpoint (v : Nat) : ∀ (fuel : Nat) (s : Solver),
    (liftToFixpoint v fuel s).locked = s.locked
  | 0, _ => rfl
  | fuel + 1, s => by
    rw [liftToFixpoint]
    have same := locked_lift s v
    generalize s.lift v = lifted at same ⊢
    obtain ⟨changed, t⟩ := lifted
    cases changed
    · exact same
    · exact (locked_liftToFixpoint v fuel t).trans same

end Frame

section Moves

/-- The moves of a strategy run, each with the number of changing lifts it
makes (`0` or `1`): a lift of a vertex of the arena, a lock, the note of a
recursion depth below the number of vertices, and a draw from the generator. -/
inductive Move : Solver → Nat → Solver → Prop
  | lift {s : Solver} {v : Nat} : v < s.size → Move s (if (s.lift v).1 then 1 else 0) (s.lift v).2
  | lock (s : Solver) (v : Nat) : Move s 0 (s.lock v)
  | noteDepth {s : Solver} {depth : Nat} : depth ≤ s.size - 1 → Move s 0 (s.noteDepth depth)
  | draw (s : Solver) (rng : Random.Generator) : Move s 0 { s with rng }

/-- Runs of moves, with the number of changing lifts along them. -/
inductive Moves : Solver → Nat → Solver → Prop
  | refl (s : Solver) : Moves s 0 s
  | tail {s t u : Solver} {k j : Nat} : Moves s k t → Move t j u → Moves s (k + j) u

/-- `t` is reached from `s` by a run of moves. -/
def Reaches (s t : Solver) : Prop := ∃ k, Moves s k t

theorem Moves.single {k : Nat} (move : Move s k t) : Moves s k t := by
  simpa using (Moves.refl s).tail move

theorem Moves.trans {k j : Nat} (first : Moves s k t) (second : Moves t j u) : Moves s (k + j) u := by
  induction second with
  | refl => exact first
  | tail _ move ih =>
    rw [← Nat.add_assoc]
    exact ih.tail move

theorem Reaches.refl (s : Solver) : Reaches s s := ⟨0, .refl s⟩

theorem Reaches.trans (first : Reaches s t) (second : Reaches t u) : Reaches s u := by
  obtain ⟨k, first⟩ := first
  obtain ⟨j, second⟩ := second
  exact ⟨k + j, first.trans second⟩

theorem Move.reaches {k : Nat} (move : Move s k t) : Reaches s t := ⟨k, .single move⟩

theorem Moves.reaches {k : Nat} (moves : Moves s k t) : Reaches s t := ⟨k, moves⟩

theorem Move.arena_eq {k : Nat} (move : Move s k t) : t.arena = s.arena := by
  cases move with
  | lift => exact arena_lift _ _
  | lock => exact arena_lock _ _
  | noteDepth => rfl
  | draw => rfl

theorem Moves.arena_eq {k : Nat} (moves : Moves s k t) : t.arena = s.arena := by
  induction moves with
  | refl => rfl
  | tail _ move ih => exact move.arena_eq.trans ih

theorem Reaches.arena_eq (reaches : Reaches s t) : t.arena = s.arena := by
  obtain ⟨_, moves⟩ := reaches
  exact moves.arena_eq

theorem Reaches.size_eq (reaches : Reaches s t) : t.size = s.size := by
  rw [size, reaches.arena_eq]
  rfl

/-- What a run of `k` changing lifts from a sound state gives: a sound state
over the same arena whose potential is at least `k` higher. -/
structure Gains (s : Solver) (k : Nat) (t : Solver) : Prop where
  sound : t.Sound
  arena_eq : t.arena = s.arena
  potential_le : s.potential + k ≤ t.potential

theorem Gains.trans {k j : Nat} (first : Gains s k t) (second : Gains t j u) : Gains s (k + j) u :=
  ⟨second.sound, second.arena_eq.trans first.arena_eq, by
    have := first.potential_le
    have := second.potential_le
    omega⟩

theorem Gains.room_le {k : Nat} (gains : Gains s k t) : t.room + k ≤ s.room := by
  have bounded := gains.sound.potential_le
  have rises := gains.potential_le
  simp only [room, size, gains.arena_eq] at bounded ⊢
  omega

/-- Locking keeps the numbers. -/
theorem Sound.lock_gains (sound : s.Sound) (v : Nat) : Gains s 0 (s.lock v) := by
  unfold lock
  split
  · exact ⟨sound, rfl, le_rfl⟩
  · exact ⟨sound.setLocks _ _, rfl, le_rfl⟩

/-- A lift of a vertex of the arena that reports a change raises its number. -/
theorem Sound.rank_lt_lift (sound : s.Sound) {v : Nat} (inside : v < s.size)
    (changed : (s.lift v).1 = true) : s.rank v < (s.lift v).2.rank v := by
  obtain ⟨_, _, _, lifted⟩ := lift_cases sound.coherent sound.consistent v
  rw [lift_rank sound.coherent sound.consistent, if_pos ⟨rfl, inside⟩]
  apply Nat.lt_of_le_of_ne (sound.below.le_liftRank v inside)
  intro same
  rw [lifted, if_pos ⟨same.symm, inside⟩] at changed
  exact Bool.false_ne_true changed

/-- A lift that reports a change raises the measure it sets. -/
theorem Sound.lift_compare_lt (sound : s.Sound) {v : Nat} (inside : v < s.size)
    (changed : (s.lift v).1 = true) : (s.measure v).compare ((s.lift v).2.measure v) = .lt := by
  have lifted := sound.lift v
  have higher := sound.rank_lt_lift inside changed
  rw [sound.coherent.rank_eq, lifted.coherent.rank_eq, scale_lift,
    sound.coherent.scale_eq_ofMaximum] at higher
  rw [Measure.compare_eq_rank (sound.coherent.fits v) (maximum_lift s v ▸ lifted.coherent.fits v)]
  exact Nat.compare_eq_lt.2 higher

theorem Move.gains {k : Nat} (move : Move s k t) (sound : s.Sound) : Gains s k t := by
  cases move with
  | lift inside =>
    have pass := sound.lift_pass inside
    refine ⟨pass.sound, pass.arena_eq, ?_⟩
    split
    · rename_i changed
      rcases pass.rises changed with impossible | rose
      · exact nomatch impossible
      · exact Nat.succ_le_of_lt rose
    · exact pass.potential_le
  | lock v => exact sound.lock_gains v
  | @noteDepth depth _ =>
    have agrees := noteDepth_agrees s depth
    exact ⟨sound.agrees agrees, agrees.arena, by rw [agrees.potential]; rfl⟩
  | draw rng =>
    have agrees : Agrees s { s with rng } := ⟨s.stats, rng, rfl⟩
    exact ⟨sound.agrees agrees, agrees.arena, by rw [agrees.potential]; rfl⟩

theorem Moves.gains {k : Nat} (moves : Moves s k t) (sound : s.Sound) : Gains s k t := by
  induction moves with
  | refl => exact ⟨sound, rfl, le_rfl⟩
  | tail _ move ih => exact ih.trans (move.gains ih.sound)

theorem Reaches.gains (reaches : Reaches s t) (sound : s.Sound) : Gains s 0 t := by
  obtain ⟨k, moves⟩ := reaches
  have gains := moves.gains sound
  exact ⟨gains.sound, gains.arena_eq, by have := gains.potential_le; omega⟩

/-- A run of moves from a sound state makes at most as many changing lifts as
there are finite measures for each vertex. -/
theorem Moves.count_le {k : Nat} (moves : Moves s k t) (sound : s.Sound) :
    k ≤ s.size * s.measureCount := by
  have gains := moves.gains sound
  have bounded := gains.sound.potential_le
  rw [sound.coherent.measureCount_eq]
  simp only [size, gains.arena_eq] at bounded ⊢
  have := gains.potential_le
  omega

/-- The depth a run notes stays below the number of vertices. -/
theorem Moves.depth_le {k : Nat} (moves : Moves s k t)
    (below : s.stats.maxRecursionDepth ≤ s.size - 1) : t.stats.maxRecursionDepth ≤ t.size - 1 := by
  induction moves with
  | refl => exact below
  | tail before move ih =>
    have sameSize : _ = _ := congrArg Arena.size move.arena_eq
    cases move with
    | lift => simpa [size] using ih
    | lock => simpa [size] using ih
    | noteDepth noted => exact max_le ih noted
    | draw => exact ih

end Moves

section Paths

/-! Every loop of the strategies is a run of moves, given vertices of the
arena to lift and, where locks spread to predecessors, a consistent arena. -/

theorem liftLive_reaches {v : Nat} (inside : v < s.size) : Reaches s (s.liftLive v).2 := by
  unfold liftLive
  split
  · exact .refl s
  · exact (Move.lift inside).reaches

theorem liftToFixpoint_reaches {v : Nat} :
    ∀ (fuel : Nat) (s : Solver), v < s.size → Reaches s (liftToFixpoint v fuel s)
  | 0, s, _ => .refl s
  | fuel + 1, s, inside => by
    rw [liftToFixpoint]
    have first := (Move.lift inside).reaches
    have insideAfter : v < (s.lift v).2.size := by rw [size_lift]; exact inside
    generalize s.lift v = lifted at first insideAfter ⊢
    obtain ⟨changed, t⟩ := lifted
    cases changed
    · exact first
    · exact first.trans (liftToFixpoint_reaches fuel t insideAfter)

theorem sweepFrom_reaches : ∀ (order : List Nat) (before : Bool) (s : Solver),
    (∀ v ∈ order, v < s.size) → Reaches s (sweepFrom order before s).2
  | [], _, s, _ => .refl s
  | v :: vs, before, s, inside => by
    rw [sweepFrom]
    have first := liftLive_reaches (inside v List.mem_cons_self)
    generalize s.liftLive v = lifted at first ⊢
    obtain ⟨changed, t⟩ := lifted
    exact first.trans (sweepFrom_reaches vs _ t fun w mem => by
      rw [first.size_eq]
      exact inside w (List.mem_cons_of_mem v mem))

theorem sweepReturning_reaches (order : Array Nat) : ∀ (fuel i : Nat) (s : Solver),
    (∀ v ∈ order, v < s.size) → Reaches s (sweepReturning order fuel i s)
  | 0, _, s, _ => .refl s
  | fuel + 1, i, s, inside => by
    rw [sweepReturning]
    cases found : order[i]? with
    | none => exact .refl s
    | some v =>
      dsimp only
      have first := liftLive_reaches (inside v (Array.mem_of_getElem? found))
      generalize s.liftLive v = lifted at first ⊢
      obtain ⟨changed, t⟩ := lifted
      exact first.trans (sweepReturning_reaches order fuel _ t fun w mem => by
        rw [first.size_eq]
        exact inside w mem)

theorem sweepNonReturning_reaches (order : List Nat) : ∀ (fuel : Nat) (s : Solver),
    (∀ v ∈ order, v < s.size) → Reaches s (sweepNonReturning order fuel s)
  | 0, s, _ => .refl s
  | fuel + 1, s, inside => by
    rw [sweepNonReturning, sweepOnce]
    have first := sweepFrom_reaches order false s inside
    generalize sweepFrom order false s = swept at first ⊢
    obtain ⟨changed, t⟩ := swept
    cases changed
    · exact first
    · exact first.trans (sweepNonReturning_reaches order fuel t fun w mem => by
        rw [first.size_eq]
        exact inside w mem)

theorem liftRandomNonReturning_reaches : ∀ (fuel : Nat) (s : Solver),
    Reaches s (liftRandomNonReturning fuel s)
  | 0, s => .refl s
  | fuel + 1, s => by
    rw [liftRandomNonReturning]
    split
    · exact .refl s
    · dsimp only
      have drawn : Reaches s (s.draw (·.permutation s.size)).2 :=
        (Move.draw s (s.rng.permutation s.size).2).reaches
      have covers : ∀ v, v ∈ (s.draw (·.permutation s.size)).1 ↔ v < s.size :=
        fun v => s.rng.mem_permutation s.size v
      generalize s.draw (·.permutation s.size) = result at drawn covers ⊢
      obtain ⟨order, drawnState⟩ := result
      dsimp only at drawn covers ⊢
      rw [sweepOnce]
      have swept := sweepFrom_reaches order.toList false drawnState fun v mem => by
        rw [drawn.size_eq]
        exact (covers v).1 (Array.mem_toList_iff.1 mem)
      generalize sweepFrom order.toList false drawnState = result at swept ⊢
      obtain ⟨changed, t⟩ := result
      cases changed
      · exact drawn.trans swept
      · exact drawn.trans (swept.trans (liftRandomNonReturning_reaches fuel t))

/-- What the folds of the lock passes keep of their accumulator: its state is
reached from `s`, and its queue holds vertices of the arena. -/
def Queued (s : Solver) (acc : Array Nat × Solver) : Prop :=
  Reaches s acc.2 ∧ ∀ x ∈ acc.1, x < s.size

theorem Queued.start {queue : Array Nat} (queued : ∀ x ∈ queue, x < s.size) : Queued s (queue, s) :=
  ⟨.refl s, queued⟩

theorem Queued.push {acc : Array Nat × Solver} (queued : Queued s acc) {u : Nat} (inside : u < s.size)
    {t : Solver} (reached : Reaches acc.2 t) : Queued s (acc.1.push u, t) := by
  refine ⟨queued.1.trans reached, fun x mem => ?_⟩
  rcases Array.mem_push.1 mem with earlier | rfl
  · exact queued.2 x earlier
  · exact inside

/-- Locking a vertex after lifting it to its fixpoint is a run of moves. -/
theorem liftThenLock_reaches {v : Nat} (fuel : Nat) (inside : v < s.size) :
    Reaches s ((liftToFixpoint v fuel s).lock v) :=
  (liftToFixpoint_reaches fuel s inside).trans (Move.lock _ v).reaches

theorem Queued.lockPredecessors {fuel : Nat} {top : Bool} {acc : Array Nat × Solver}
    (queued : Queued s acc) {u : Nat} (inside : u < s.size) :
    Queued s (lockPredecessors fuel top acc u) := by
  obtain ⟨queue, current⟩ := acc
  rcases lockPredecessors_cases fuel top queue current u with same | ⟨_, _, pushed⟩
  · rw [same]
    exact queued
  · rw [pushed]
    exact queued.push inside (liftThenLock_reaches fuel (queued.1.size_eq ▸ inside))

theorem Queued.selfLoopLock {fuel : Nat} {acc : Array Nat × Solver} (queued : Queued s acc) {v : Nat}
    (inside : v < s.size) : Queued s (selfLoopLock fuel acc v) := by
  obtain ⟨queue, current⟩ := acc
  rcases selfLoopLock_cases fuel queue current v with same | ⟨_, pushed⟩
  · rw [same]
    exact queued
  · rw [pushed]
    exact queued.push inside (liftThenLock_reaches fuel (queued.1.size_eq ▸ inside))

/-- A round of `propagateLocks` queues only predecessors of the vertex it takes
from the queue, which are vertices of a consistent arena. -/
theorem Queued.lockRound (fuel : Nat) (consistent : s.arena.Consistent) {queue : Array Nat}
    (queued : ∀ x ∈ queue, x < s.size) {v : Nat} (inside : v < s.size) :
    Queued s ((s.arena.vertex v).incoming.foldl
      (Solver.lockPredecessors fuel (s.measure v).top) (queue, s)) := by
  rw [← Array.foldl_toList]
  exact List.foldlRecOn (motive := Queued s) _ _ (Queued.start queued) fun _ pending u mem =>
    pending.lockPredecessors (Arena.lt_size_of_mem_outgoing
      (consistent.incoming_sound v inside u (Array.mem_toList_iff.1 mem)))

theorem propagateLocks_reaches (fuel : Nat) : ∀ (rounds : Nat) (queue : Array Nat) (i : Nat)
    (s : Solver), s.arena.Consistent → (∀ x ∈ queue, x < s.size) →
      Reaches s (propagateLocks fuel rounds queue i s)
  | 0, _, _, s, _, _ => .refl s
  | rounds + 1, queue, i, s, consistent, queued => by
    cases found : queue[i]? with
    | none =>
      rw [propagateLocks_none found]
      exact .refl s
    | some v =>
      rw [propagateLocks_some found]
      obtain ⟨reached, pendingInside⟩ :=
        Queued.lockRound fuel consistent queued (queued v (Array.mem_of_getElem? found))
      exact reached.trans (propagateLocks_reaches fuel rounds _ (i + 1) _
        (by rw [reached.arena_eq]; exact consistent)
        (fun x mem => by rw [reached.size_eq]; exact pendingInside x mem))

theorem lockAtTop_reaches (fuel : Nat) (hybrid : Bool) {v : Nat} (consistent : s.arena.Consistent)
    (inside : v < s.size) : Reaches s (lockAtTop fuel hybrid v s) := by
  unfold lockAtTop
  split
  · have locked := (Move.lock s v).reaches
    exact locked.trans (propagateLocks_reaches fuel _ #[v] 0 (s.lock v)
      (by rw [arena_lock]; exact consistent)
      (fun x mem => by
        have atV : x = v := by simpa using mem
        rw [atV, size_lock]
        exact inside))
  · exact .refl s

/-- What the fold of a recursive pass keeps of its accumulator: its state is
reached from `s` with at least one changing lift for each vertex collected. -/
def Collected (s : Solver) (acc : Array Nat × Solver) : Prop :=
  ∃ k, Moves s k acc.2 ∧ acc.1.size ≤ k

theorem Collected.reaches {acc : Array Nat × Solver} (collected : Collected s acc) : Reaches s acc.2 := by
  obtain ⟨k, moves, _⟩ := collected
  exact moves.reaches

theorem Collected.passStep {fuel : Nat} {hybrid : Bool} (consistent : s.arena.Consistent)
    {acc : Array Nat × Solver} (collected : Collected s acc) {v : Nat} (inside : v < s.size) :
    Collected s (passStep fuel hybrid acc v) := by
  obtain ⟨changed, current⟩ := acc
  obtain ⟨k, moves, counted⟩ := collected
  dsimp only at moves counted
  have insideV : v < current.size := by rw [moves.reaches.size_eq]; exact inside
  rcases passStep_cases fuel hybrid changed current v with same | ⟨_, _, quiet | moved⟩
  · rw [same]
    exact ⟨k, moves, counted⟩
  · obtain ⟨unchanged, step⟩ := quiet
    rw [step]
    have lift := Move.lift insideV
    rw [if_neg (by rw [unchanged]; exact Bool.false_ne_true)] at lift
    exact ⟨k + 0, moves.tail lift, counted⟩
  · obtain ⟨changedV, step⟩ := moved
    rw [step]
    have lift := Move.lift insideV
    rw [if_pos changedV] at lift
    obtain ⟨j, locks⟩ := lockAtTop_reaches fuel hybrid (s := (current.lift v).2) (v := v)
      (by rw [arena_lift, moves.arena_eq]; exact consistent)
      (by rw [size_lift]; exact insideV)
    refine ⟨k + 1 + j, (moves.tail lift).trans locks, ?_⟩
    show (changed.push v).size ≤ k + 1 + j
    rw [Array.size_push]
    omega

/-- A recursive pass is a run of moves with at least one changing lift for each
vertex it collects. -/
theorem recursivePass_moves (fuel : Nat) (hybrid : Bool) {set : List Nat}
    (consistent : s.arena.Consistent) (inside : ∀ v ∈ set, v < s.size) :
    ∃ k, Moves s k (recursivePass fuel hybrid set s).2 ∧
      (recursivePass fuel hybrid set s).1.length ≤ k := by
  rw [recursivePass_eq]
  dsimp only
  simp only [Array.length_toList]
  exact List.foldlRecOn (motive := Collected s) _ _ ⟨0, .refl s, le_rfl⟩ fun _ collected v mem =>
    collected.passStep consistent (inside v mem)

/-- The set a recursive pass collects is a sublist of the set it is given. -/
theorem recursivePass_sublist (fuel : Nat) (hybrid : Bool) (set : List Nat) (s : Solver) :
    (recursivePass fuel hybrid set s).1.Sublist set := by
  rw [recursivePass_eq]
  dsimp only
  -- the fold appends a sublist of what it has gone through to what it started with
  have grows : ∀ (set : List Nat) (acc : Array Nat × Solver), ∃ added, added.Sublist set ∧
      (set.foldl (passStep fuel hybrid) acc).1.toList = acc.1.toList ++ added := by
    intro set
    induction set with
    | nil => exact fun acc => ⟨[], List.Sublist.slnil, by simp⟩
    | cons v vs ih =>
      rintro ⟨changed, current⟩
      rw [List.foldl_cons]
      rcases passStep_cases fuel hybrid changed current v with same | ⟨_, _, ⟨_, step⟩ | ⟨_, step⟩⟩
      · rw [same]
        obtain ⟨added, sub, listed⟩ := ih (changed, current)
        exact ⟨added, sub.cons v, listed⟩
      · rw [step]
        obtain ⟨added, sub, listed⟩ := ih (changed, (current.lift v).2)
        exact ⟨added, sub.cons v, listed⟩
      · rw [step]
        obtain ⟨added, sub, listed⟩ := ih (changed.push v, lockAtTop fuel hybrid v (current.lift v).2)
        exact ⟨v :: added, sub.cons_cons v, by simpa using listed⟩
  obtain ⟨added, sub, listed⟩ := grows set (#[], s)
  rw [listed]
  simpa using sub

/-- What the recursive strategy keeps of its calls: the set holds vertices of
the arena, the depth and the length of the set sum to at most the number of
vertices, and only the outermost call, at depth zero, may have an empty set. -/
structure CallShape (s : Solver) (set : List Nat) (depth : Nat) : Prop where
  inside : ∀ v ∈ set, v < s.size
  fits : depth + set.length ≤ s.size
  nested : depth = 0 ∨ set ≠ []

/-- The depth of a call is below the number of vertices. -/
theorem CallShape.depth_le {set : List Nat} {depth : Nat} (shape : CallShape s set depth) :
    depth ≤ s.size - 1 := by
  rcases shape.nested with rfl | nonempty
  · exact Nat.zero_le _
  · have := List.length_pos_of_ne_nil nonempty
    have := shape.fits
    omega

theorem CallShape.of_reaches {set : List Nat} {depth : Nat} (shape : CallShape s set depth)
    (reached : Reaches s t) : CallShape t set depth :=
  ⟨fun v mem => by rw [reached.size_eq]; exact shape.inside v mem,
    by rw [reached.size_eq]; exact shape.fits, shape.nested⟩

/-- The set a pass collected, when non-empty and shorter, is the shape of a
call one level deeper. -/
theorem CallShape.nested_call {set changed : List Nat} {depth : Nat} (shape : CallShape s set depth)
    (sub : changed.Sublist set) (shorter : changed.length < set.length) (nonempty : changed ≠ []) :
    CallShape s changed (depth + 1) :=
  ⟨fun v mem => shape.inside v (sub.subset mem), by have := shape.fits; omega, .inr nonempty⟩

/-- The nested call of the recursive strategy is a run of moves, given that
every call of the shape at the fuel it is made with is one. -/
theorem nestedCall_reaches {hybrid : Bool} {fuel : Nat} {set changed : List Nat} {depth : Nat}
    (call : ∀ (set : List Nat) (depth : Nat) (t : Solver), t.arena.Consistent →
      CallShape t set depth → Reaches t (liftRecursive hybrid fuel set depth t))
    (consistent : s.arena.Consistent) (shape : CallShape s set depth) (sub : changed.Sublist set)
    (nonempty : changed ≠ []) :
    Reaches s (if changed.length < set.length then liftRecursive hybrid fuel changed (depth + 1) s
      else s) := by
  split
  · rename_i shorter
    exact call changed (depth + 1) s consistent (shape.nested_call sub shorter nonempty)
  · exact .refl s

/-- The recursive strategy is a run of moves: every depth it notes is below the
number of vertices. -/
theorem liftRecursive_reaches (hybrid : Bool) : ∀ (fuel : Nat) (set : List Nat) (depth : Nat)
    (s : Solver), s.arena.Consistent → CallShape s set depth →
      Reaches s (liftRecursive hybrid fuel set depth s)
  | 0, _, _, s, _, _ => .refl s
  | fuel + 1, set, depth, s, consistent, shape => by
    rw [liftRecursive]
    dsimp only
    have noted := (Move.noteDepth shape.depth_le).reaches
    obtain ⟨k, passMoves, _⟩ := recursivePass_moves fuel hybrid (s := s.noteDepth depth)
      consistent shape.inside
    have sub := recursivePass_sublist fuel hybrid set (s.noteDepth depth)
    generalize recursivePass fuel hybrid set (s.noteDepth depth) = result at passMoves sub ⊢
    obtain ⟨changed, t⟩ := result
    dsimp only at passMoves sub ⊢
    have reached := noted.trans passMoves.reaches
    split
    · exact reached
    · rename_i nonempty
      have nested := nestedCall_reaches (liftRecursive_reaches hybrid fuel)
        (by rw [reached.arena_eq]; exact consistent) (shape.of_reaches reached) sub
        (fun isNil => nonempty (List.isEmpty_iff.2 isNil))
      generalize (if changed.length < set.length then _ else t) = after at nested ⊢
      have whole := reached.trans nested
      exact whole.trans (liftRecursive_reaches hybrid fuel set depth after
        (by rw [whole.arena_eq]; exact consistent) (shape.of_reaches whole))

/-- The unlocked vertices, the set the propagation strategies hand to the
recursive strategy, are the shape of an outermost call. -/
theorem unlocked_shape (s : Solver) :
    CallShape s ((List.range s.size).filter fun v => !s.isLocked v) 0 :=
  ⟨fun v mem => List.mem_range.1 (List.mem_filter.1 mem).1,
    by simpa using (List.length_filter_le _ _).trans (List.length_range (n := s.size)).le, .inl rfl⟩

/-- An order of all vertices is the shape of an outermost call. -/
theorem order_shape {order : List Nat} (mem : ∀ v, v ∈ order ↔ v < s.size)
    (length : order.length = s.size) : CallShape s order 0 :=
  ⟨fun v => (mem v).1, by omega, .inl rfl⟩

theorem propagate_reaches {fuel : Nat} {hybrid : Bool} (consistent : s.arena.Consistent) :
    Reaches s (propagate fuel hybrid s).1 := by
  rw [propagate_fst]
  dsimp only
  have folded : Queued s ((List.range s.size).foldl (selfLoopLock fuel) (#[], s)) :=
    List.foldlRecOn (motive := Queued s) _ _ (Queued.start fun x mem => absurd mem (by simp))
      fun _ queued v mem => queued.selfLoopLock (List.mem_range.1 mem)
  generalize (List.range s.size).foldl (selfLoopLock fuel) (#[], s) = result at folded ⊢
  obtain ⟨queue, t⟩ := result
  obtain ⟨reached, queueInside⟩ := folded
  have spread := propagateLocks_reaches fuel (t.size + 1) queue 0 t
    (by rw [reached.arena_eq]; exact consistent)
    (fun x mem => by rw [reached.size_eq]; exact queueInside x mem)
  generalize propagateLocks fuel (t.size + 1) queue 0 t = spreadState at spread ⊢
  have whole := reached.trans spread
  exact whole.trans (liftRecursive_reaches hybrid fuel _ 0 spreadState
    (by rw [whole.arena_eq]; exact consistent) (unlocked_shape spreadState))

/-- Every strategy but the random one is a run of moves. -/
theorem strategyLoop_reaches (consistent : s.arena.Consistent) (fuel : Nat) {st : Strategy}
    (notRandom : st ≠ .random) : Reaches s (strategyLoop fuel st s) := by
  cases st with
  | input => exact sweepReturning_reaches _ _ 0 s fun v mem => mem_inputOrder.1 (by simpa using mem)
  | inputNonReturning => exact sweepNonReturning_reaches _ fuel s fun v => mem_inputOrder.1
  | random => exact absurd rfl notRandom
  | randomNonReturning => exact liftRandomNonReturning_reaches fuel s
  | priority =>
    exact sweepReturning_reaches _ _ 0 s fun v mem => mem_priorityOrder.1 (by simpa using mem)
  | priorityNonReturning => exact sweepNonReturning_reaches _ fuel s fun v => mem_priorityOrder.1
  | incoming =>
    exact sweepReturning_reaches _ _ 0 s fun v mem => mem_incomingOrder.1 (by simpa using mem)
  | incomingNonReturning => exact sweepNonReturning_reaches _ fuel s fun v => mem_incomingOrder.1
  | recursive =>
    exact liftRecursive_reaches false fuel _ 0 s consistent
      (order_shape (fun _ => mem_inputOrder) length_inputOrder)
  | recursivePriority =>
    exact liftRecursive_reaches false fuel _ 0 s consistent
      (order_shape (fun _ => mem_priorityOrder) length_priorityOrder)
  | recursiveIncoming =>
    exact liftRecursive_reaches false fuel _ 0 s consistent
      (order_shape (fun _ => mem_incomingOrder) length_incomingOrder)
  | propagation => exact propagate_reaches consistent
  | propagationHybrid => exact propagate_reaches consistent

end Paths

section Fuel

/-! Each loop ends by its own test: once its fuel exceeds the room the potential
has left, more fuel gives the same state.  The proofs follow the paths above
and use that every changing lift lowers the room. -/

/-- Two folds agree when their steps agree on every accumulator an invariant
holds of, and the steps keep the invariant. -/
theorem foldl_eq_of_agree {α β : Type} (P : β → Prop) {f g : β → α → β} :
    ∀ (l : List α) (b : β), P b → (∀ b, P b → ∀ x ∈ l, f b x = g b x ∧ P (f b x)) →
      l.foldl f b = l.foldl g b
  | [], _, _, _ => rfl
  | x :: xs, b, holds, agree => by
    obtain ⟨same, next⟩ := agree b holds x List.mem_cons_self
    rw [List.foldl_cons, List.foldl_cons, ← same]
    exact foldl_eq_of_agree P xs (f b x) next fun c holdsC y mem =>
      agree c holdsC y (List.mem_cons_of_mem x mem)

theorem liftToFixpoint_fuel {v : Nat} : ∀ (fuel : Nat) (s : Solver), s.Sound → v < s.size →
    s.room < fuel → ∀ more, fuel ≤ more → liftToFixpoint v more s = liftToFixpoint v fuel s
  | 0, _, _, _, roomy, _, _ => absurd roomy (Nat.not_lt_zero _)
  | _ + 1, _, _, _, _, 0, enough => absurd enough (Nat.not_succ_le_zero _)
  | fuel + 1, s, sound, inside, roomy, more + 1, enough => by
    rw [liftToFixpoint, liftToFixpoint]
    have pass := sound.lift_pass inside
    generalize s.lift v = lifted at pass ⊢
    obtain ⟨changed, t⟩ := lifted
    dsimp only at pass
    cases changed
    · rfl
    · have smaller := room_lt pass.sound pass.arena_eq pass.rose
      exact liftToFixpoint_fuel fuel t pass.sound (pass.size_eq ▸ inside) (by omega) more (by omega)

/-- The fuel of the lift to a fixpoint in a lock step does not matter. -/
theorem Queued.lockPredecessors_fuel {fuel more : Nat} {top : Bool} {acc : Array Nat × Solver}
    (queued : Queued s acc) (sound : s.Sound) (roomy : s.room < fuel) (enough : fuel ≤ more)
    {u : Nat} (inside : u < s.size) :
    Solver.lockPredecessors more top acc u = Solver.lockPredecessors fuel top acc u := by
  obtain ⟨queue, current⟩ := acc
  obtain ⟨reached, _⟩ := queued
  dsimp only at reached
  have gains := reached.gains sound
  unfold Solver.lockPredecessors
  dsimp only
  split
  · rfl
  · rw [liftToFixpoint_fuel fuel current gains.sound (reached.size_eq ▸ inside)
      (by have := gains.room_le; omega) more enough]

theorem Queued.selfLoopLock_fuel {fuel more : Nat} {acc : Array Nat × Solver}
    (queued : Queued s acc) (sound : s.Sound) (roomy : s.room < fuel) (enough : fuel ≤ more)
    {v : Nat} (inside : v < s.size) :
    Solver.selfLoopLock more acc v = Solver.selfLoopLock fuel acc v := by
  obtain ⟨queue, current⟩ := acc
  obtain ⟨reached, _⟩ := queued
  dsimp only at reached
  have gains := reached.gains sound
  unfold Solver.selfLoopLock
  dsimp only
  split
  · rw [liftToFixpoint_fuel fuel current gains.sound (reached.size_eq ▸ inside)
      (by have := gains.room_le; omega) more enough]
  · rfl

theorem propagateLocks_fuel (fuel : Nat) : ∀ (rounds : Nat) (queue : Array Nat) (i : Nat)
    (s : Solver), s.Sound → s.room < fuel → (∀ x ∈ queue, x < s.size) →
      ∀ more, fuel ≤ more → propagateLocks more rounds queue i s = propagateLocks fuel rounds queue i s
  | 0, _, _, _, _, _, _, _, _ => rfl
  | rounds + 1, queue, i, s, sound, roomy, queued, more, enough => by
    cases found : queue[i]? with
    | none => rw [propagateLocks_none found, propagateLocks_none found]
    | some v =>
      rw [propagateLocks_some found, propagateLocks_some found]
      have insideV := queued v (Array.mem_of_getElem? found)
      -- the lock steps agree on every state reached from `s`
      have agree : (s.arena.vertex v).incoming.foldl (lockPredecessors more (s.measure v).top) (queue, s) =
          (s.arena.vertex v).incoming.foldl (lockPredecessors fuel (s.measure v).top) (queue, s) := by
        rw [← Array.foldl_toList, ← Array.foldl_toList]
        refine foldl_eq_of_agree (Queued s) _ _ (Queued.start queued) fun acc pending u mem => ?_
        have insideU : u < s.size := Arena.lt_size_of_mem_outgoing
          (sound.consistent.incoming_sound v insideV u (Array.mem_toList_iff.1 mem))
        exact ⟨pending.lockPredecessors_fuel sound roomy enough insideU,
          pending.lockPredecessors insideU⟩
      rw [agree]
      obtain ⟨reached, pendingInside⟩ := Queued.lockRound fuel sound.consistent queued insideV
      have gains := reached.gains sound
      exact propagateLocks_fuel fuel rounds _ (i + 1) _ gains.sound
        (by have := gains.room_le; omega)
        (fun x mem => by rw [reached.size_eq]; exact pendingInside x mem) more enough

theorem lockAtTop_fuel {fuel more : Nat} (hybrid : Bool) {v : Nat} (sound : s.Sound)
    (inside : v < s.size) (roomy : s.room < fuel) (enough : fuel ≤ more) :
    lockAtTop more hybrid v s = lockAtTop fuel hybrid v s := by
  unfold lockAtTop
  split
  · have gains := sound.lock_gains v
    rw [propagateLocks_fuel fuel _ #[v] 0 (s.lock v) gains.sound
      (by have := gains.room_le; omega)
      (fun x mem => by
        have atV : x = v := by simpa using mem
        rw [atV, size_lock]
        exact inside) more enough]
  · rfl

/-- The fuel of the lock steps in a recursive pass does not matter: they follow
a changing lift, which lowers the room below the fuel. -/
theorem Collected.passStep_fuel {fuel more : Nat} (hybrid : Bool) {acc : Array Nat × Solver}
    (collected : Collected s acc) (sound : s.Sound) (roomy : s.room ≤ fuel) (enough : fuel ≤ more)
    {v : Nat} (inside : v < s.size) :
    Solver.passStep more hybrid acc v = Solver.passStep fuel hybrid acc v := by
  obtain ⟨changed, current⟩ := acc
  have gains := collected.reaches.gains sound
  have insideV : v < current.size := by rw [collected.reaches.size_eq]; exact inside
  unfold Solver.passStep
  dsimp only
  split
  · rfl
  · have pass := gains.sound.lift_pass insideV
    generalize current.lift v = lifted at pass ⊢
    obtain ⟨changedV, t⟩ := lifted
    cases changedV
    · rfl
    · have smaller := room_lt pass.sound pass.arena_eq pass.rose
      have fewer := gains.room_le
      show (changed.push v, lockAtTop more hybrid v t) = (changed.push v, lockAtTop fuel hybrid v t)
      rw [lockAtTop_fuel hybrid pass.sound (pass.size_eq ▸ insideV) (by omega) enough]

theorem recursivePass_fuel (fuel more : Nat) (hybrid : Bool) {set : List Nat} (sound : s.Sound)
    (inside : ∀ v ∈ set, v < s.size) (roomy : s.room ≤ fuel) (enough : fuel ≤ more) :
    recursivePass more hybrid set s = recursivePass fuel hybrid set s := by
  rw [recursivePass_eq, recursivePass_eq,
    foldl_eq_of_agree (Collected s) set (#[], s) ⟨0, .refl s, le_rfl⟩ fun acc collected v mem =>
      ⟨collected.passStep_fuel hybrid sound roomy enough (inside v mem),
        collected.passStep sound.consistent (inside v mem)⟩]

theorem liftRecursive_fuel (hybrid : Bool) : ∀ (fuel : Nat) (set : List Nat) (depth : Nat)
    (s : Solver), s.Sound → CallShape s set depth → s.room < fuel →
      ∀ more, fuel ≤ more → liftRecursive hybrid more set depth s = liftRecursive hybrid fuel set depth s
  | 0, _, _, _, _, _, roomy, _, _ => absurd roomy (Nat.not_lt_zero _)
  | _ + 1, _, _, _, _, _, _, 0, enough => absurd enough (Nat.not_succ_le_zero _)
  | fuel + 1, set, depth, s, sound, shape, roomy, more + 1, enough => by
    rw [liftRecursive, liftRecursive]
    dsimp only
    have noted := noteDepth_agrees s depth
    rw [recursivePass_fuel fuel more hybrid (sound.agrees noted) shape.inside
      (by rw [noted.room]; omega) (by omega)]
    obtain ⟨k, passMoves, collected⟩ := recursivePass_moves fuel hybrid (s := s.noteDepth depth)
      sound.consistent shape.inside
    have sub := recursivePass_sublist fuel hybrid set (s.noteDepth depth)
    generalize recursivePass fuel hybrid set (s.noteDepth depth) = result at passMoves collected sub ⊢
    obtain ⟨changed, t⟩ := result
    dsimp only at passMoves collected sub ⊢
    have reached := (Move.noteDepth shape.depth_le).reaches.trans passMoves.reaches
    have gains := passMoves.gains (sound.agrees noted)
    split
    · rfl
    · -- a pass that collected something lowered the room, for the nested call and the next pass
      rename_i nonempty
      have notNil : changed ≠ [] := fun isNil => nonempty (List.isEmpty_iff.2 isNil)
      have smaller : t.room < fuel := by
        have := gains.room_le
        have := List.length_pos_of_ne_nil notNil
        rw [noted.room] at *
        omega
      have nestedSame : (if changed.length < set.length then
            liftRecursive hybrid more changed (depth + 1) t else t) =
          (if changed.length < set.length then liftRecursive hybrid fuel changed (depth + 1) t
            else t) := by
        split
        · rename_i shorter
          exact liftRecursive_fuel hybrid fuel changed (depth + 1) t gains.sound
            ((shape.of_reaches reached).nested_call sub shorter notNil) smaller more (by omega)
        · rfl
      rw [nestedSame]
      have nested := nestedCall_reaches (liftRecursive_reaches hybrid fuel) gains.sound.consistent
        (shape.of_reaches reached) sub notNil
      generalize (if changed.length < set.length then _ else t) = after at nested ⊢
      have afterGains := nested.gains gains.sound
      exact liftRecursive_fuel hybrid fuel set depth after afterGains.sound
        (shape.of_reaches (reached.trans nested)) (by have := afterGains.room_le; omega) more
        (by omega)

theorem propagate_fuel {fuel more : Nat} {hybrid : Bool} (sound : s.Sound) (roomy : s.room < fuel)
    (enough : fuel ≤ more) : (propagate more hybrid s).1 = (propagate fuel hybrid s).1 := by
  rw [propagate_fst, propagate_fst]
  dsimp only
  have start : Queued s (#[], s) := Queued.start fun x mem => absurd mem (by simp)
  rw [foldl_eq_of_agree (Queued s) (List.range s.size) (#[], s) start fun acc queued v mem =>
    ⟨queued.selfLoopLock_fuel sound roomy enough (List.mem_range.1 mem),
      queued.selfLoopLock (List.mem_range.1 mem)⟩]
  have folded : Queued s ((List.range s.size).foldl (selfLoopLock fuel) (#[], s)) :=
    List.foldlRecOn (motive := Queued s) _ _ start
      fun _ queued v mem => queued.selfLoopLock (List.mem_range.1 mem)
  generalize (List.range s.size).foldl (selfLoopLock fuel) (#[], s) = result at folded ⊢
  obtain ⟨queue, t⟩ := result
  obtain ⟨reached, queueInside⟩ := folded
  dsimp only at reached queueInside
  have gains := reached.gains sound
  have queued : ∀ x ∈ queue, x < t.size := fun x mem => by
    rw [reached.size_eq]
    exact queueInside x mem
  rw [propagateLocks_fuel fuel (t.size + 1) queue 0 t gains.sound
    (by have := gains.room_le; omega) queued more enough]
  have spread := propagateLocks_reaches fuel (t.size + 1) queue 0 t gains.sound.consistent queued
  generalize propagateLocks fuel (t.size + 1) queue 0 t = spreadState at spread ⊢
  have spreadGains := spread.gains gains.sound
  exact liftRecursive_fuel hybrid fuel _ 0 spreadState spreadGains.sound (unlocked_shape spreadState)
    (by have := spreadGains.room_le; have := gains.room_le; omega) more enough

theorem sweepReturning_fuel (order : Array Nat) : ∀ (fuel i : Nat) (s : Solver), s.Sound →
    (∀ v ∈ order, v < s.size) → s.room * (order.size + 1) + (order.size - i) < fuel →
      ∀ more, fuel ≤ more → sweepReturning order more i s = sweepReturning order fuel i s
  | 0, _, _, _, _, roomy, _, _ => absurd roomy (Nat.not_lt_zero _)
  | _ + 1, _, _, _, _, _, 0, enough => absurd enough (Nat.not_succ_le_zero _)
  | fuel + 1, i, s, sound, inside, roomy, more + 1, enough => by
    rw [sweepReturning, sweepReturning]
    cases found : order[i]? with
    | none => rfl
    | some v =>
      dsimp only
      have atI : i < order.size := (Array.getElem?_eq_some_iff.1 found).1
      have pass := sound.liftLive_pass (inside v (Array.mem_of_getElem? found))
      generalize s.liftLive v = lifted at pass ⊢
      obtain ⟨changed, t⟩ := lifted
      have insideT : ∀ w ∈ order, w < t.size := fun w mem => pass.size_eq ▸ inside w mem
      cases changed
      · -- a quiet lift: the same room, one place further
        obtain ⟨_, agrees, _⟩ := pass.stays rfl
        exact sweepReturning_fuel order fuel (i + 1) t pass.sound insideT
          (by rw [agrees.room]; omega) more (by omega)
      · -- a change: the room drops, and the pass starts over
        have smaller := room_lt pass.sound pass.arena_eq pass.rose
        have scaled : (t.room + 1) * (order.size + 1) ≤ s.room * (order.size + 1) :=
          Nat.mul_le_mul_right _ smaller
        rw [Nat.add_mul, Nat.one_mul] at scaled
        exact sweepReturning_fuel order fuel 0 t pass.sound insideT (by omega) more (by omega)

theorem sweepNonReturning_fuel (order : List Nat) : ∀ (fuel : Nat) (s : Solver), s.Sound →
    (∀ v ∈ order, v < s.size) → s.room < fuel →
      ∀ more, fuel ≤ more → sweepNonReturning order more s = sweepNonReturning order fuel s
  | 0, _, _, _, roomy, _, _ => absurd roomy (Nat.not_lt_zero _)
  | _ + 1, _, _, _, _, 0, enough => absurd enough (Nat.not_succ_le_zero _)
  | fuel + 1, s, sound, inside, roomy, more + 1, enough => by
    rw [sweepNonReturning, sweepNonReturning, sweepOnce]
    have pass := sound.sweepFrom_pass order inside false
    generalize sweepFrom order false s = swept at pass ⊢
    obtain ⟨changed, t⟩ := swept
    dsimp only at pass
    cases changed
    · rfl
    · have smaller := room_lt pass.sound pass.arena_eq pass.rose
      exact sweepNonReturning_fuel order fuel t pass.sound
        (fun v mem => pass.size_eq ▸ inside v mem) (by omega) more (by omega)

theorem liftRandomNonReturning_fuel : ∀ (fuel : Nat) (s : Solver), s.Sound → s.room < fuel →
    ∀ more, fuel ≤ more → liftRandomNonReturning more s = liftRandomNonReturning fuel s
  | 0, _, _, roomy, _, _ => absurd roomy (Nat.not_lt_zero _)
  | _ + 1, _, _, _, 0, enough => absurd enough (Nat.not_succ_le_zero _)
  | fuel + 1, s, sound, roomy, more + 1, enough => by
    rw [liftRandomNonReturning, liftRandomNonReturning]
    split
    · rfl
    · dsimp only
      have drawn := draw_agrees s (·.permutation s.size)
      have covers : ∀ v, v ∈ (s.draw (·.permutation s.size)).1 ↔ v < s.size :=
        fun v => s.rng.mem_permutation s.size v
      generalize s.draw (·.permutation s.size) = result at drawn covers ⊢
      obtain ⟨order, drawnState⟩ := result
      dsimp only at drawn covers ⊢
      have pass := (sound.agrees drawn).sweepFrom_pass order.toList
        (fun v mem => by rw [size, drawn.arena]; exact (covers v).1 (Array.mem_toList_iff.1 mem))
        false
      rw [sweepOnce]
      generalize sweepFrom order.toList false drawnState = swept at pass ⊢
      obtain ⟨changed, t⟩ := swept
      dsimp only at pass
      cases changed
      · rfl
      · have smaller := room_lt pass.sound pass.arena_eq pass.rose
        have sameRoom := drawn.room
        exact liftRandomNonReturning_fuel fuel t pass.sound (by omega) more (by omega)

/-- Every strategy but the random one ends by its own test: from a sound state,
any fuel from the budget on gives the same state. -/
theorem strategyLoop_fuel (sound : s.Sound) {st : Strategy} (notRandom : st ≠ .random) :
    ∀ more, s.budget ≤ more → strategyLoop more st s = strategyLoop s.budget st s := by
  intro more enough
  have roomy := sound.room_lt_budget
  have scaled : s.budget * (s.size + 1) ≤ more * (s.size + 1) := Nat.mul_le_mul_right _ enough
  have sweepRoomy : ∀ {order : List Nat}, order.length = s.size →
      s.room * (order.toArray.size + 1) + (order.toArray.size - 0) < s.budget * (s.size + 1) := by
    intro order length
    rw [List.size_toArray, length]
    exact sound.sweep_fuel s.size
  cases st with
  | input =>
    exact sweepReturning_fuel _ _ 0 s sound (fun v mem => mem_inputOrder.1 (by simpa using mem))
      (sweepRoomy length_inputOrder) _ scaled
  | inputNonReturning =>
    exact sweepNonReturning_fuel _ _ s sound (fun v => mem_inputOrder.1) roomy more enough
  | random => exact absurd rfl notRandom
  | randomNonReturning => exact liftRandomNonReturning_fuel _ s sound roomy more enough
  | priority =>
    exact sweepReturning_fuel _ _ 0 s sound (fun v mem => mem_priorityOrder.1 (by simpa using mem))
      (sweepRoomy length_priorityOrder) _ scaled
  | priorityNonReturning =>
    exact sweepNonReturning_fuel _ _ s sound (fun v => mem_priorityOrder.1) roomy more enough
  | incoming =>
    exact sweepReturning_fuel _ _ 0 s sound (fun v mem => mem_incomingOrder.1 (by simpa using mem))
      (sweepRoomy length_incomingOrder) _ scaled
  | incomingNonReturning =>
    exact sweepNonReturning_fuel _ _ s sound (fun v => mem_incomingOrder.1) roomy more enough
  | recursive =>
    exact liftRecursive_fuel false _ _ 0 s sound
      (order_shape (fun _ => mem_inputOrder) length_inputOrder) roomy more enough
  | recursivePriority =>
    exact liftRecursive_fuel false _ _ 0 s sound
      (order_shape (fun _ => mem_priorityOrder) length_priorityOrder) roomy more enough
  | recursiveIncoming =>
    exact liftRecursive_fuel false _ _ 0 s sound
      (order_shape (fun _ => mem_incomingOrder) length_incomingOrder) roomy more enough
  | propagation => exact propagate_fuel sound roomy enough
  | propagationHybrid => exact propagate_fuel sound roomy enough

end Fuel

section Rounds

/-! The lock queue holds every vertex at most once: a vertex is queued when it
is locked, and only unlocked vertices are queued.  So the number of unlocked
vertices plus what is left of the queue drops by one each round, and the
rounds the strategies give `propagateLocks`, one more than the number of
vertices, are never used up. -/

/-- The number of unlocked vertices of the arena. -/
def unlockedCount (s : Solver) : Nat :=
  ((Finset.range s.size).filter fun v => s.isLocked v = false).card

theorem isLocked_lock_of_ne {v w : Nat} (other : w ≠ v) : (s.lock v).isLocked w = s.isLocked w := by
  unfold lock
  split
  · rfl
  · simp only [isLocked, Array.set!_eq_setIfInBounds, Array.getElem?_setIfInBounds]
    simp [Ne.symm other]

theorem locked_size_lock (s : Solver) (v : Nat) : (s.lock v).locked.size = s.locked.size := by
  unfold lock
  split
  · rfl
  · simp

theorem isLocked_liftToFixpoint (v fuel : Nat) (s : Solver) :
    (liftToFixpoint v fuel s).isLocked = s.isLocked := by
  funext w
  rw [isLocked, isLocked, locked_liftToFixpoint]

theorem unlockedCount_liftToFixpoint (v fuel : Nat) (s : Solver) :
    (liftToFixpoint v fuel s).unlockedCount = s.unlockedCount := by
  rw [unlockedCount, unlockedCount, isLocked_liftToFixpoint, size, arena_liftToFixpoint]
  rfl

/-- Locking an unlocked vertex of the arena leaves one unlocked vertex fewer. -/
theorem unlockedCount_lock {v : Nat} (inside : v < s.size) (lockedSize : s.locked.size = s.size)
    (unlocked : s.isLocked v = false) : (s.lock v).unlockedCount + 1 = s.unlockedCount := by
  have erased : ((Finset.range (s.lock v).size).filter fun w => (s.lock v).isLocked w = false) =
      ((Finset.range s.size).filter fun w => s.isLocked w = false).erase v := by
    ext w
    by_cases same : w = v
    · subst same
      simp [(isLocked_lock s w w).2 (Or.inl ⟨rfl, lockedSize ▸ inside⟩)]
    · simp [isLocked_lock_of_ne same, same]
  have mem : v ∈ (Finset.range s.size).filter fun w => s.isLocked w = false := by simp [inside, unlocked]
  have positive := Finset.card_pos.2 ⟨v, mem⟩
  rw [unlockedCount, unlockedCount, erased, Finset.card_erase_of_mem mem]
  omega

/-- A queue of distinct locked vertices of the arena is no longer than the
number of locked ones. -/
theorem unlockedCount_add_size_le {queue : Array Nat} (nodup : queue.toList.Nodup)
    (queued : ∀ x ∈ queue, x < s.size ∧ s.isLocked x = true) :
    s.unlockedCount + queue.size ≤ s.size := by
  have split := Finset.card_filter_add_card_filter_not (s := Finset.range s.size)
    fun v => s.isLocked v = true
  have sub : queue.toList.toFinset ⊆ (Finset.range s.size).filter fun v => s.isLocked v = true := by
    intro x mem
    obtain ⟨inside, locked⟩ := queued x (by simpa using mem)
    simp [inside, locked]
  have fewer := Finset.card_le_card sub
  rw [List.toFinset_card_of_nodup nodup, Array.length_toList] at fewer
  simp only [Finset.card_range, Bool.not_eq_true] at split
  rw [unlockedCount]
  omega

/-- What a round of the lock queue keeps, from `queue` over `s`: the arena and
the size of the lock flags, a queue that extends `queue` with distinct locked
vertices of the arena, and the number of unlocked vertices plus the length of
the queue. -/
structure LockQueue (s : Solver) (queue : Array Nat) (acc : Array Nat × Solver) : Prop where
  arena_eq : acc.2.arena = s.arena
  locked_size : acc.2.locked.size = s.size
  nodup : acc.1.toList.Nodup
  queued : ∀ x ∈ acc.1, x < s.size ∧ acc.2.isLocked x = true
  longer : queue.size ≤ acc.1.size
  balance : acc.2.unlockedCount + acc.1.size = s.unlockedCount + queue.size

theorem LockQueue.lockPredecessors {fuel : Nat} {top : Bool} {queue : Array Nat}
    {acc : Array Nat × Solver} (invariant : LockQueue s queue acc) {u : Nat} (inside : u < s.size) :
    LockQueue s queue (Solver.lockPredecessors fuel top acc u) := by
  obtain ⟨pending, current⟩ := acc
  rcases lockPredecessors_cases fuel top pending current u with same | ⟨unlocked, _, pushed⟩
  · rw [same]
    exact invariant
  · rw [pushed]
    obtain ⟨sameArena, lockedSize, nodup, queued, longer, balance⟩ := invariant
    dsimp only at sameArena lockedSize nodup queued longer balance
    have insideCurrent : u < current.size := by rw [size, sameArena]; exact inside
    have liftedSize : (liftToFixpoint u fuel current).locked.size = (liftToFixpoint u fuel current).size := by
      rw [locked_liftToFixpoint, size, arena_liftToFixpoint, lockedSize, sameArena]
      rfl
    have fewer := unlockedCount_lock (by rw [size, arena_liftToFixpoint]; exact insideCurrent)
      liftedSize (by rw [isLocked_liftToFixpoint]; exact unlocked)
    rw [unlockedCount_liftToFixpoint] at fewer
    have lockedU : ((liftToFixpoint u fuel current).lock u).isLocked u = true :=
      (isLocked_lock _ u u).2 (Or.inl ⟨rfl, by rw [liftedSize, size, arena_liftToFixpoint]; exact insideCurrent⟩)
    have keeps : ∀ x, current.isLocked x = true → ((liftToFixpoint u fuel current).lock u).isLocked x = true :=
      fun x locked => (isLocked_lock _ u x).2 (Or.inr (by rw [isLocked_liftToFixpoint]; exact locked))
    refine ⟨by rw [arena_lock, arena_liftToFixpoint]; exact sameArena,
      by rw [locked_size_lock, locked_liftToFixpoint]; exact lockedSize, ?_, fun x mem => ?_,
      by dsimp only; rw [Array.size_push]; omega, by dsimp only; rw [Array.size_push]; omega⟩
    · -- `u` was unlocked and every queued vertex is locked, so `u` is new to the queue
      rw [Array.toList_push, List.nodup_append]
      refine ⟨nodup, List.nodup_singleton u, fun x mem y atU same => ?_⟩
      rw [List.mem_singleton.1 atU] at same
      have lockedX := (queued x (Array.mem_toList_iff.1 mem)).2
      rw [same, unlocked] at lockedX
      exact Bool.false_ne_true lockedX
    · rcases Array.mem_push.1 mem with earlier | rfl
      · exact ⟨(queued x earlier).1, keeps x (queued x earlier).2⟩
      · exact ⟨inside, lockedU⟩

/-- A round of the lock queue keeps `LockQueue`. -/
theorem LockQueue.round (fuel : Nat) (consistent : s.arena.Consistent) {queue : Array Nat}
    (lockedSize : s.locked.size = s.size) (nodup : queue.toList.Nodup)
    (queued : ∀ x ∈ queue, x < s.size ∧ s.isLocked x = true) {v : Nat} (inside : v < s.size) :
    LockQueue s queue ((s.arena.vertex v).incoming.foldl
      (Solver.lockPredecessors fuel (s.measure v).top) (queue, s)) := by
  rw [← Array.foldl_toList]
  exact List.foldlRecOn (motive := LockQueue s queue) _ _
    ⟨rfl, lockedSize, nodup, queued, le_rfl, rfl⟩ fun _ invariant u mem =>
      invariant.lockPredecessors (Arena.lt_size_of_mem_outgoing
        (consistent.incoming_sound v inside u (Array.mem_toList_iff.1 mem)))

/-- More rounds than unlocked vertices plus queued ones left change nothing. -/
theorem propagateLocks_rounds_of (fuel : Nat) : ∀ (rounds : Nat) (queue : Array Nat) (i : Nat)
    (s : Solver), s.arena.Consistent → s.locked.size = s.size → queue.toList.Nodup →
      (∀ x ∈ queue, x < s.size ∧ s.isLocked x = true) → s.unlockedCount + (queue.size - i) < rounds →
        ∀ more, rounds ≤ more → propagateLocks fuel more queue i s = propagateLocks fuel rounds queue i s
  | 0, _, _, _, _, _, _, _, counted, _, _ => absurd counted (Nat.not_lt_zero _)
  | _ + 1, _, _, _, _, _, _, _, _, 0, enough => absurd enough (Nat.not_succ_le_zero _)
  | rounds + 1, queue, i, s, consistent, lockedSize, nodup, queued, counted, more + 1, enough => by
    cases found : queue[i]? with
    | none => rw [propagateLocks_none found, propagateLocks_none found]
    | some v =>
      rw [propagateLocks_some found, propagateLocks_some found]
      have atI : i < queue.size := (Array.getElem?_eq_some_iff.1 found).1
      have round := LockQueue.round fuel consistent lockedSize nodup queued
        (queued v (Array.mem_of_getElem? found)).1
      generalize (s.arena.vertex v).incoming.foldl _ (queue, s) = result at round ⊢
      obtain ⟨pending, t⟩ := result
      obtain ⟨sameArena, lockedSizeT, nodupT, queuedT, longer, balance⟩ := round
      dsimp only at sameArena lockedSizeT nodupT queuedT longer balance
      have sameSize : t.size = s.size := by rw [size, sameArena]; rfl
      exact propagateLocks_rounds_of fuel rounds pending (i + 1) t (by rw [sameArena]; exact consistent)
        (by rw [sameSize]; exact lockedSizeT) nodupT (fun x mem => by rw [sameSize]; exact queuedT x mem)
        (by omega) more (by omega)

/-- The lock queue ends within the rounds the strategies give it: a queue of
distinct locked vertices of the arena needs no more. -/
theorem propagateLocks_rounds (fuel : Nat) {queue : Array Nat} (consistent : s.arena.Consistent)
    (lockedSize : s.locked.size = s.size) (nodup : queue.toList.Nodup)
    (queued : ∀ x ∈ queue, x < s.size ∧ s.isLocked x = true) :
    ∀ more, s.size + 1 ≤ more → propagateLocks fuel more queue 0 s = propagateLocks fuel (s.size + 1) queue 0 s :=
  propagateLocks_rounds_of fuel (s.size + 1) queue 0 s consistent lockedSize nodup queued
    (by have := unlockedCount_add_size_le nodup queued; omega)

end Rounds

section Solve

theorem solve_fst_snd (s : Solver) (st : Strategy) :
    (s.solve st).2.1 = strategyLoop s.solveStart.budget st s.solveStart :=
  runStrategy_fst st s.solveStart

/-- Every strategy but the random one ends, from any state that lifts reach and
under either lock policy: its loops end by their own tests, so any fuel from
the budget on gives the same state; the run is a run of moves, along which
every lift that reports a change raises the measure it sets, so that no run
from the start has more changing lifts than vertices times finite measures;
the lock queue of distinct locked vertices ends within the rounds it is given;
a recursive pass collects a sublist of its set, which the nested call receives
when it is shorter; and every depth the run notes is below the number of
vertices. -/
theorem solve_terminates (reachable : s.LiftReachable) {st : Strategy} (notRandom : st ≠ .random) :
    (∀ more, s.solveStart.budget ≤ more → strategyLoop more st s.solveStart = (s.solve st).2.1) ∧
    (∃ k, Moves s.solveStart k (s.solve st).2.1) ∧
    (∀ t k, Moves s.solveStart k t → k ≤ s.size * s.measureCount ∧
      ∀ v < t.size, (t.lift v).1 = true → (t.measure v).compare ((t.lift v).2.measure v) = .lt) ∧
    (∀ (fuel : Nat) (t : Solver) (queue : Array Nat), t.arena.Consistent →
      t.locked.size = t.size → queue.toList.Nodup → (∀ x ∈ queue, x < t.size ∧ t.isLocked x = true) →
      ∀ more, t.size + 1 ≤ more →
        propagateLocks fuel more queue 0 t = propagateLocks fuel (t.size + 1) queue 0 t) ∧
    (∀ (fuel : Nat) (hybrid : Bool) (set : List Nat) (t : Solver),
      (recursivePass fuel hybrid set t).1.Sublist set) ∧
    (s.solve st).2.1.stats.maxRecursionDepth ≤ s.size - 1 := by
  have sound := reachable.sound.solveStart
  have reaches := strategyLoop_reaches sound.consistent s.solveStart.budget notRandom
  obtain ⟨k, moves⟩ := reaches
  rw [solve_fst_snd]
  refine ⟨fun more enough => strategyLoop_fuel sound notRandom more enough, ⟨k, moves⟩,
    fun t k run => ⟨run.count_le sound, fun v inside changed =>
      (run.gains sound).sound.lift_compare_lt inside changed⟩,
    fun fuel t queue consistent lockedSize nodup queued =>
      propagateLocks_rounds fuel consistent lockedSize nodup queued,
    recursivePass_sublist, ?_⟩
  -- the start notes no depth, and every move keeps the depth below the size
  have depth := moves.depth_le (Nat.zero_le _)
  rwa [moves.reaches.size_eq] at depth

/-- The recursive strategy over `Arena.choiceLoops` nests to depth 2: the
first pass changes only `0` and `3`, the nested passes raise them to `⊤`
through a carry at `3`, and the outer pass starts again to carry `⊤` to Odd's
vertex.  It ends at the fuel the solve gives it, after a bounded run of moves. -/
theorem solve_terminates_recursive_choice :
    let s := new Arena.choiceLoops default .safe
    (s.solve .recursive).2.1.stats.maxRecursionDepth = 2 ∧
      (∀ more, s.solveStart.budget ≤ more →
        strategyLoop more .recursive s.solveStart = (s.solve .recursive).2.1) ∧
      (∃ k, Moves s.solveStart k (s.solve .recursive).2.1) ∧
      (∀ t k, Moves s.solveStart k t → k ≤ s.size * s.measureCount ∧
        ∀ v < t.size, (t.lift v).1 = true → (t.measure v).compare ((t.lift v).2.measure v) = .lt) ∧
      (s.solve .recursive).2.1.stats.maxRecursionDepth ≤ s.size - 1 := by
  intro s
  have reachable : s.LiftReachable := .new default .safe Arena.reachable_choiceLoops
  obtain ⟨fuel, moves, counted, -, -, depth⟩ :=
    solve_terminates reachable (show Strategy.recursive ≠ .random by decide)
  exact ⟨by decide +kernel, fuel, moves, counted, depth⟩

end Solve

end Solver

end ParityGames
