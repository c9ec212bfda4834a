import ParityGames.Proofs.Strategies

/-!
# The lifting loops stop only where nothing would change

A vertex is *stable* when lifting it would report no change.  Each loop of the
strategies stops on a test that saw no change: the returning sweep once it has
walked its whole order since its last restart, the non-returning sweep after a
quiet pass, the random strategy once every vertex carries a mark, and the
recursive strategy after a quiet pass over its set.  What such a test saw
still holds when the loop stops, because a lift that reports no change leaves
every measure as it was; earlier in the run, changes (and, in the hybrid
strategy, the locks they spread) did move vertices the loop had seen stable.

The sweeps and the recursive strategy settle their vertices
(`Sound.sweepReturning_settles`, `Sound.sweepNonReturning_settles`,
`Sound.liftRecursive_finishes`), and a settled vertex of the arena is stable
(`Sound.stable_iff_settled`).  The random strategy keeps its marks honest by
an invariant of its own (`RandomMarks`): `remaining` counts the unmarked
vertices and every marked one is at `⊤` or stable, every round keeps that
(`RandomMarks.round`), and so the loop stops by its own test only when every
vertex is at `⊤` or stable.

Main statement: `loops_stop_when_stable`.
-/

namespace ParityGames

namespace Solver

variable {s t : Solver}

/-- Lifting `v` would report no change. -/
def Stable (s : Solver) (v : Nat) : Prop := (s.lift v).1 = false

instance (s : Solver) (v : Nat) : Decidable (s.Stable v) :=
  inferInstanceAs (Decidable ((s.lift v).1 = false))

section Quiet

/-- Whether a lift reports a change depends on neither the counters nor the
generator. -/
theorem Agrees.lift_fst (agrees : Agrees s t) (v : Nat) : (t.lift v).1 = (s.lift v).1 := by
  obtain ⟨stats, rng, rfl⟩ := agrees
  unfold lift
  dsimp only
  rw [apply_ite Prod.fst, apply_ite Prod.fst]
  rfl

theorem Agrees.stable (agrees : Agrees s t) {v : Nat} : t.Stable v ↔ s.Stable v := by
  rw [Stable, Stable, agrees.lift_fst]

theorem Agrees.top_or_stable (agrees : Agrees s t) {v : Nat} :
    ((t.measure v).top = true ∨ t.Stable v) ↔ ((s.measure v).top = true ∨ s.Stable v) := by
  rw [agrees.measure, agrees.stable]

/-- A lift that reports no change only counts itself. -/
theorem lift_quiet {v : Nat} (quiet : (s.lift v).1 = false) :
    (s.lift v).2 = { s with stats := { s.stats with lifts := s.stats.lifts + 1 } } := by
  unfold lift at quiet ⊢
  dsimp only at quiet ⊢
  generalize (_ && decide (v < s.ranks.size)) = same at quiet ⊢
  cases same
  · simp at quiet
  · rfl

/-- The loops' test at `v` sees no change exactly when `v` is at `⊤` or stable. -/
theorem liftLive_fst_eq_false {v : Nat} :
    (s.liftLive v).1 = false ↔ (s.measure v).top = true ∨ s.Stable v := by
  unfold liftLive Stable
  split
  · rename_i top
    exact iff_of_true rfl (Or.inl top)
  · rename_i live
    simp [live]

/-- A test that sees no change leaves a state that differs at most in its
counters. -/
theorem liftLive_quiet {v : Nat} (quiet : (s.liftLive v).1 = false) : Agrees s (s.liftLive v).2 := by
  unfold liftLive at quiet ⊢
  split
  · exact Agrees.refl s
  · rename_i live
    rw [if_neg live] at quiet
    rw [lift_quiet quiet]
    exact ⟨_, s.rng, rfl⟩

/-- On a sound state, a vertex of the arena is stable exactly when it is
settled. -/
theorem Sound.stable_iff_settled (sound : s.Sound) {v : Nat} (inside : v < s.size) :
    s.Stable v ↔ s.Settled v := by
  rw [Stable, Settled, ← Bool.not_eq_true, lift_changed sound.coherent sound.consistent inside,
    not_not]

/-- A run that settles `order` leaves every vertex of it stable. -/
theorem Settles.stable {order : List Nat} (settles : Settles s order t)
    (inside : ∀ v ∈ order, v < s.size) : ∀ v ∈ order, t.Stable v := fun v mem =>
  (settles.sound.stable_iff_settled (settles.size_eq ▸ inside v mem)).2 (settles.settled v mem)

/-- A run that finishes `set` leaves every vertex of it locked or stable. -/
theorem Finishes.locked_or_stable {good : Solver → Nat → Prop} {set : List Nat}
    (finishes : Finishes good s set t) (inside : ∀ v ∈ set, v < s.size) :
    ∀ v ∈ set, t.isLocked v = true ∨ t.Stable v := by
  intro v mem
  have insideT : v < t.size := finishes.grows.size_eq ▸ inside v mem
  rcases finishes.covered v mem with locked | settled
  · exact Or.inl locked
  · exact Or.inr ((finishes.grows.sound.stable_iff_settled insideT).2 settled)

/-- No property of locks is needed to follow a run: every lock is allowed,
under either policy. -/
theorem anyLockRules (policy : LockPolicy) : LockRules (fun _ _ => True) policy :=
  ⟨fun _ _ _ _ _ => trivial, fun _ _ _ => trivial, fun _ _ _ _ => trivial,
    fun _ _ _ _ _ _ _ _ => trivial⟩

end Quiet

section Random

/-- One round of the random strategy over `n` vertices: draw a vertex, lift it
unless it is at `⊤`, clear every mark after a change and mark the vertex
otherwise.  `liftRandomLoop` is these rounds until `remaining` is zero. -/
def randomRound (n : Nat) (finished : Array Bool) (remaining : Nat) (s : Solver) :
    Array Bool × Nat × Solver :=
  let (v, s) := s.draw (·.below n)
  let (changed, s) := s.liftLive v
  if changed then (Array.replicate n false, n, s)
  else if finished[v]?.getD true then (finished, remaining, s)
  else (finished.set! v true, remaining - 1, s)

theorem liftRandomLoop_succ (n fuel : Nat) (finished : Array Bool) (remaining : Nat) (s : Solver) :
    liftRandomLoop n (fuel + 1) finished remaining s =
      if remaining == 0 then s
      else liftRandomLoop n fuel (randomRound n finished remaining s).1
        (randomRound n finished remaining s).2.1 (randomRound n finished remaining s).2.2 := by
  rw [liftRandomLoop, randomRound]
  split
  · rfl
  · dsimp only
    split
    · rfl
    · split <;> rfl

theorem randomLoopStops_succ (n fuel : Nat) (finished : Array Bool) (remaining : Nat) (s : Solver) :
    randomLoopStops n (fuel + 1) finished remaining s =
      (remaining == 0 || randomLoopStops n fuel (randomRound n finished remaining s).1
        (randomRound n finished remaining s).2.1 (randomRound n finished remaining s).2.2) := by
  rw [randomLoopStops, randomRound]
  dsimp only
  split
  · rfl
  · split <;> rfl

/-- The bookkeeping of the random strategy over `n` vertices: one mark per
vertex, `remaining` counts the unmarked ones, and every marked vertex is at
`⊤` or stable in the current state. -/
structure RandomMarks (s : Solver) (n : Nat) (finished : Array Bool) (remaining : Nat) : Prop where
  size_eq : finished.size = n
  remaining_eq : finished.count false = remaining
  marked : ∀ v, finished[v]? = some true → (s.measure v).top = true ∨ s.Stable v

variable {n : Nat} {finished : Array Bool} {remaining : Nat}

/-- No marks at all: how the random strategy starts, and what a change leaves. -/
theorem RandomMarks.cleared (s : Solver) (n : Nat) : RandomMarks s n (Array.replicate n false) n :=
  ⟨Array.size_replicate, by rw [Array.count_replicate]; rfl,
    fun v marked => by rw [Array.getElem?_replicate] at marked; split at marked <;> cases marked⟩

/-- Marks stay honest in a state that differs at most in its counters. -/
theorem RandomMarks.agrees (marks : RandomMarks s n finished remaining) (agrees : Agrees s t) :
    RandomMarks t n finished remaining :=
  ⟨marks.size_eq, marks.remaining_eq, fun v marked => agrees.top_or_stable.2 (marks.marked v marked)⟩

/-- Marking a vertex that is at `⊤` or stable keeps the marks honest and
counts one unmarked vertex less. -/
theorem RandomMarks.mark (marks : RandomMarks s n finished remaining) {v : Nat}
    (unmarked : finished[v]? = some false) (idle : (s.measure v).top = true ∨ s.Stable v) :
    RandomMarks s n (finished.set! v true) (remaining - 1) := by
  refine ⟨by simp [marks.size_eq], by rw [count_set_false unmarked, marks.remaining_eq], fun u marked => ?_⟩
  by_cases same : u = v
  · rw [same]
    exact idle
  · rw [Array.set!_eq_setIfInBounds, Array.getElem?_setIfInBounds, if_neg (Ne.symm same)] at marked
    exact marks.marked u marked

/-- Every round keeps the marks honest: a change clears them all, a draw that
changes nothing leaves every measure as it was and marks the drawn vertex,
which it found at `⊤` or stable. -/
theorem RandomMarks.round (marks : RandomMarks s n finished remaining) :
    RandomMarks (randomRound n finished remaining s).2.2 n (randomRound n finished remaining s).1
      (randomRound n finished remaining s).2.1 := by
  unfold randomRound
  have drawn := draw_agrees s (·.below n)
  generalize s.draw (·.below n) = result at drawn ⊢
  obtain ⟨v, u⟩ := result
  dsimp only at drawn ⊢
  have seen : (u.liftLive v).1 = false → Agrees u (u.liftLive v).2 ∧
      ((u.measure v).top = true ∨ u.Stable v) :=
    fun quiet => ⟨liftLive_quiet quiet, liftLive_fst_eq_false.1 quiet⟩
  generalize u.liftLive v = lifted at seen ⊢
  obtain ⟨changed, w⟩ := lifted
  dsimp only at seen ⊢
  cases changed
  · -- nothing changed: the marks carry over, and the drawn vertex may be marked
    obtain ⟨quiet, idle⟩ := seen rfl
    have carried := marks.agrees (drawn.trans quiet)
    rw [if_neg Bool.false_ne_true]
    split
    · exact carried
    · rename_i unmarked
      have atV : finished[v]? = some false := by
        cases found : finished[v]? with
        | none => rw [found] at unmarked; exact absurd rfl unmarked
        | some b => rw [found] at unmarked; simpa using unmarked
      exact carried.mark atV (quiet.top_or_stable.2 idle)
  · exact RandomMarks.cleared w n

/-- With no unmarked vertex left, every vertex is at `⊤` or stable. -/
theorem RandomMarks.top_or_stable (marks : RandomMarks s n finished 0) {v : Nat} (inside : v < n) :
    (s.measure v).top = true ∨ s.Stable v := by
  apply marks.marked v
  have insideF : v < finished.size := marks.size_eq ▸ inside
  have noFalse : false ∉ finished := Array.count_eq_zero.1 marks.remaining_eq
  cases atV : finished[v] with
  | true => rw [Array.getElem?_eq_getElem insideF, atV]
  | false => exact absurd (atV ▸ Array.getElem_mem insideF) noFalse

/-- The random loop, run from honest marks, stops by its own test only when
every vertex is at `⊤` or stable. -/
theorem RandomMarks.stops_top_or_stable :
    ∀ (fuel : Nat) (finished : Array Bool) (remaining : Nat) (s : Solver),
      RandomMarks s n finished remaining → randomLoopStops n fuel finished remaining s = true →
      ∀ v < n, ((liftRandomLoop n fuel finished remaining s).measure v).top = true ∨
        (liftRandomLoop n fuel finished remaining s).Stable v
  | 0, _, _, _, _, stops => nomatch stops
  | fuel + 1, finished, remaining, s, marks, stops => by
    rw [liftRandomLoop_succ]
    rw [randomLoopStops_succ] at stops
    by_cases done : remaining = 0
    · rw [if_pos (by rw [done]; rfl)]
      subst done
      exact fun v inside => marks.top_or_stable inside
    · rw [if_neg (by simpa using done)]
      rw [show (remaining == 0) = false by simpa using done, Bool.false_or] at stops
      exact RandomMarks.stops_top_or_stable fuel _ _ _ marks.round stops

end Random

/-- Every lifting loop stops only where nothing it would lift would change.
From a sound state, with fuel above the `room` the potential has left (so
that the loop ends by its own test, which the budget the solver gives it
always allows): the returning and the non-returning sweep over `order` leave
every vertex of `order` at `⊤` or stable, and the recursive strategy on `set`,
hybrid or not and under either policy, leaves every vertex of `set` locked, at
`⊤` or stable.  The random strategy keeps `remaining` equal to the number of
unmarked vertices and every marked vertex at `⊤` or stable, round after round,
so whenever it stops by its own test every vertex is at `⊤` or stable. -/
theorem loops_stop_when_stable (sound : s.Sound) :
    (∀ (order : Array Nat) (fuel : Nat), (∀ v ∈ order, v < s.size) →
      s.room * (order.size + 1) + order.size < fuel →
      ∀ v ∈ order, ((sweepReturning order fuel 0 s).measure v).top = true ∨
        (sweepReturning order fuel 0 s).Stable v) ∧
    (∀ (order : List Nat) (fuel : Nat), (∀ v ∈ order, v < s.size) → s.room < fuel →
      ∀ v ∈ order, ((sweepNonReturning order fuel s).measure v).top = true ∨
        (sweepNonReturning order fuel s).Stable v) ∧
    (∀ (n : Nat) (finished : Array Bool) (remaining : Nat) (t : Solver),
      RandomMarks t n finished remaining →
      RandomMarks (randomRound n finished remaining t).2.2 n (randomRound n finished remaining t).1
        (randomRound n finished remaining t).2.1) ∧
    (∀ fuel : Nat, randomStops fuel s = true →
      ∀ v < s.size, ((liftRandom fuel s).measure v).top = true ∨ (liftRandom fuel s).Stable v) ∧
    (∀ (hybrid : Bool) (fuel : Nat) (set : List Nat) (depth : Nat), (∀ v ∈ set, v < s.size) →
      s.room < fuel →
      ∀ v ∈ set, (liftRecursive hybrid fuel set depth s).isLocked v = true ∨
        ((liftRecursive hybrid fuel set depth s).measure v).top = true ∨
        (liftRecursive hybrid fuel set depth s).Stable v) := by
  refine ⟨fun order fuel inside roomy v mem => ?_, fun order fuel inside roomy v mem => ?_,
    fun _ _ _ _ marks => marks.round, fun fuel stops v below => ?_,
    fun hybrid fuel set depth inside roomy v mem => ?_⟩
  · -- the returning sweep starts at the front of its order
    have settles := sound.sweepReturning_settles order fuel 0 s inside
      (fun j _ below _ => absurd below (Nat.not_lt_zero j)) (by rw [Nat.sub_zero]; exact roomy)
    exact Or.inr (settles.stable (fun w mem => inside w (Array.mem_toList_iff.1 mem)) v
      (Array.mem_toList_iff.2 mem))
  · exact Or.inr ((sound.sweepNonReturning_settles order fuel s inside roomy).stable inside v mem)
  · -- an empty arena needs no draw; otherwise the loop starts with no marks
    unfold liftRandom
    dsimp only
    split
    · rename_i empty
      rw [Nat.beq_eq_true_eq] at empty
      omega
    · rename_i nonempty
      rw [randomStops, Bool.or_eq_true] at stops
      exact RandomMarks.stops_top_or_stable fuel _ _ s (RandomMarks.cleared s s.size)
        (stops.resolve_left nonempty) v below
  · have finishes := sound.liftRecursive_finishes (anyLockRules s.policy) hybrid fuel set depth s
      (fun _ _ _ => trivial) (fun _ => rfl) roomy inside
    rcases finishes.locked_or_stable inside v mem with locked | stable
    · exact Or.inl locked
    · exact Or.inr (Or.inr stable)

/-- At the start of a solve of `Arena.choiceLoops` the loops of `0` and `3`
still change under a lift; after a returning sweep, or the hybrid recursive
strategy, with room to spare, every vertex is locked, at `⊤` or stable. -/
theorem loops_stop_when_stable_choice :
    let s := (new Arena.choiceLoops default .safe).solveStart
    ¬ s.Stable 0 ∧ ¬ s.Stable 3 ∧
      (∀ v ∈ #[0, 1, 2, 3], ((sweepReturning #[0, 1, 2, 3] (s.room * 5 + 5) 0 s).measure v).top = true ∨
        (sweepReturning #[0, 1, 2, 3] (s.room * 5 + 5) 0 s).Stable v) ∧
      ∀ v ∈ [0, 1, 2, 3], (liftRecursive true (s.room + 1) [0, 1, 2, 3] 0 s).isLocked v = true ∨
        ((liftRecursive true (s.room + 1) [0, 1, 2, 3] 0 s).measure v).top = true ∨
        (liftRecursive true (s.room + 1) [0, 1, 2, 3] 0 s).Stable v := by
  intro s
  have sound : s.Sound :=
    (LiftReachable.new default .safe Arena.reachable_choiceLoops).sound.solveStart
  obtain ⟨returning, -, -, -, recursive⟩ := loops_stop_when_stable sound
  have roomy : s.room * (#[0, 1, 2, 3].size + 1) + #[0, 1, 2, 3].size < s.room * 5 + 5 := by
    simp only [List.size_toArray, List.length_cons, List.length_nil]
    omega
  exact ⟨by decide +kernel, by decide +kernel,
    returning #[0, 1, 2, 3] _ (by decide +kernel) roomy,
    recursive true _ _ 0 (by decide +kernel) (Nat.lt_succ_self _)⟩

end Solver

end ParityGames
