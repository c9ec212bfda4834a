import ParityGames.Proofs.Locking

/-!
# Every strategy reaches the least fixpoint

A run ends in the least fixpoint once every vertex is locked, with an exact
number, or settled (`Sound.exact_of_covered`): the numbers are then a
pre-fixpoint of lifting below the least fixpoint.  The sweeping and random
strategies settle every vertex (`Schedules`); the recursive strategy lifts a
set until a pass changes nothing, which leaves every vertex of the set locked
or settled; the propagation strategies first lock what a self-loop decides and
spread the locks, which keeps every lock exact (`Locking`), and then run the
recursive strategy on what is left.

`solve` runs a strategy from the zero state without locks, so its measures
are those of the least fixpoint, under the safe policy for the propagation
strategies and under either policy for the others.  The random strategy draws
until every vertex is finished, which its fuel does not bound: it reaches the
least fixpoint whenever it stops by its own test.
-/

namespace ParityGames

namespace Solver

variable {s t u : Solver} {good : Solver → Nat → Prop} {policy : LockPolicy}

/-- A run from `s` that grows to `t`, keeping its locks `good`, and leaves
every vertex of `set` locked or settled. -/
structure Finishes (good : Solver → Nat → Prop) (s : Solver) (set : List Nat) (t : Solver) : Prop where
  grows : Grows good s t
  covered : ∀ v ∈ set, t.isLocked v = true ∨ t.Settled v

/-- Locked vertices that are exact and settled ones make a pre-fixpoint below
the least fixpoint, so every vertex is exact. -/
theorem Sound.exact_of_covered (sound : s.Sound) (lockExact : s.LockExact)
    (covered : ∀ v < s.size, s.isLocked v = true ∨ s.Settled v) : ∀ v < s.size, s.Exact v := by
  refine sound.below.eq_fixRank sound.consistent fun v inside => ?_
  rcases covered v inside with locked | settled
  · calc s.arena.liftRank s.rank v ≤ s.arena.liftRank s.arena.fixRank v :=
          sound.consistent.liftRank_mono sound.below.le_fixRank v
      _ = s.arena.fixRank v := sound.consistent.liftRank_fixRank v inside
      _ = s.rank v := (lockExact v inside locked).symm
  · exact settled.le

theorem Settles.finishes (rules : LockRules good policy) {order : List Nat}
    (settles : Settles s order t) (lockSound : s.LockSound good) : Finishes good s order t :=
  ⟨settles.grows rules lockSound, fun v mem => Or.inr (settles.settled v mem)⟩

theorem Finishes.mono {set smaller : List Nat} (finishes : Finishes good s set t)
    (sub : ∀ v ∈ smaller, v ∈ set) : Finishes good s smaller t :=
  ⟨finishes.grows, fun v mem => finishes.covered v (sub v mem)⟩

/-- A run that finishes every vertex of the arena leaves every vertex exact. -/
theorem Finishes.exact (finishes : Finishes Exact s (List.range s.size) t) : ∀ v < t.size, t.Exact v :=
  finishes.grows.sound.exact_of_covered finishes.grows.lockSound fun v inside =>
    finishes.covered v (List.mem_range.2 (finishes.grows.size_eq ▸ inside))

/-- A run that finishes every vertex leaves them all exact. -/
theorem Finishes.solves (finishes : Finishes Exact s (List.range s.size) t) :
    Grows Exact s t ∧ ∀ v < s.size, t.Exact v :=
  ⟨finishes.grows, fun v inside => finishes.exact v (finishes.grows.size_eq ▸ inside)⟩

section Recursive

/-- What one pass of the recursive strategy over `set` did, adding `added` to
the changed vertices: it grew from `s` to `t` adding only vertices of the set;
adding none means that only the counters changed and every vertex of the set
was locked or settled; adding some raised the potential. -/
structure RecursivePass (good : Solver → Nat → Prop) (s : Solver) (set added : List Nat)
    (t : Solver) : Prop where
  grows : Grows good s t
  sub : ∀ v ∈ added, v ∈ set
  quiet : added = [] → Agrees s t ∧ ∀ v ∈ set, s.isLocked v = true ∨ s.Settled v
  rises : added ≠ [] → s.potential < t.potential

/-- One step of a recursive pass at `v`, from `s` with the changed vertices
so far: it keeps them and the numbers of `s`, finding `v` locked or settled,
or it adds `v`, grows from `s` and raises the potential. -/
def RecursiveStep (good : Solver → Nat → Prop) (s : Solver) (v : Nat) (changed : Array Nat)
    (next : Array Nat × Solver) : Prop :=
  (next.1 = changed ∧ Agrees s next.2 ∧ (s.isLocked v = true ∨ s.Settled v)) ∨
    (next.1 = changed.push v ∧ Grows good s next.2 ∧ s.potential < next.2.potential)

theorem Agrees.grows (rules : LockRules good policy) (agrees : Agrees s t) (sound : s.Sound)
    (lockSound : s.LockSound good) : Grows good s t :=
  agrees.keeps.grows rules (sound.agrees agrees) lockSound

/-- Folding steps of a recursive pass over `set`, every one taken in a state
grown from `start`, makes a pass over `set`. -/
theorem foldl_recursiveStep (rules : LockRules good policy)
    {f : Array Nat × Solver → Nat → Array Nat × Solver} {start : Solver} :
    ∀ (set : List Nat) (changed : Array Nat) (s : Solver), Grows good start s →
      (∀ (acc : Array Nat × Solver) (v : Nat), Grows good start acc.2 → v ∈ set →
        RecursiveStep good acc.2 v acc.1 (f acc v)) →
      ∃ added, (set.foldl f (changed, s)).1.toList = changed.toList ++ added ∧
        RecursivePass good s set added (set.foldl f (changed, s)).2 := by
  intro set
  induction set with
  | nil =>
    intro changed s grown _
    refine ⟨[], by simp, ⟨Grows.refl grown.sound grown.lockSound, fun _ mem => absurd mem List.not_mem_nil,
      fun _ => ⟨Agrees.refl s, fun _ mem => absurd mem List.not_mem_nil⟩, fun empty => absurd rfl empty⟩⟩
  | cons v vs ih =>
    intro changed s grown step
    have first := step (changed, s) v grown List.mem_cons_self
    rw [List.foldl_cons]
    generalize f (changed, s) v = next at first ⊢
    obtain ⟨next, t⟩ := next
    dsimp only at first
    have later : ∀ (acc : Array Nat × Solver) (w : Nat), Grows good start acc.2 → w ∈ vs →
        RecursiveStep good acc.2 w acc.1 (f acc w) :=
      fun acc w grownAcc mem => step acc w grownAcc (List.mem_cons_of_mem v mem)
    rcases first with ⟨rfl, agrees, lockedOrSettled⟩ | ⟨rfl, grows, rose⟩
    · -- a quiet step: the rest of the pass decides
      have agreed := agrees.grows rules grown.sound grown.lockSound
      obtain ⟨added, listed, rest⟩ := ih next t (grown.trans agreed) later
      refine ⟨added, listed, ⟨agreed.trans rest.grows,
        fun w mem => List.mem_cons_of_mem v (rest.sub w mem), fun empty => ?_, fun nonempty => ?_⟩⟩
      · obtain ⟨agreesRest, coveredRest⟩ := rest.quiet empty
        refine ⟨agrees.trans agreesRest, fun w mem => ?_⟩
        rcases List.mem_cons.1 mem with rfl | inRest
        · exact lockedOrSettled
        · rw [← agrees.isLocked w, ← agrees.settled]
          exact coveredRest w inRest
      · rw [← agrees.potential]
        exact rest.rises nonempty
    · -- a change: `v` joins the changed vertices
      obtain ⟨added, listed, rest⟩ := ih (changed.push v) t (grown.trans grows) later
      refine ⟨v :: added, by rw [listed, Array.toList_push, List.append_assoc, List.singleton_append],
        ⟨grows.trans rest.grows, fun w mem => ?_, fun empty => absurd empty (List.cons_ne_nil v added),
          fun _ => Nat.lt_of_lt_of_le rose rest.grows.potential_le⟩⟩
      rcases List.mem_cons.1 mem with rfl | inRest
      · exact List.mem_cons_self
      · exact List.mem_cons_of_mem _ (rest.sub w inRest)

/-- One pass of the recursive strategy: a live, unlocked vertex is lifted,
and in hybrid mode one driven to `⊤` is locked and spreads its locks, which
needs the policy of the rules and fuel above the room. -/
theorem recursivePass_pass (rules : LockRules good policy) (fuel : Nat) (hybrid : Bool)
    {set : List Nat} (sound : s.Sound) (lockSound : s.LockSound good)
    (samePolicy : hybrid = true → s.policy = policy) (roomy : s.room ≤ fuel)
    (inside : ∀ v ∈ set, v < s.size) :
    RecursivePass good s set (recursivePass fuel hybrid set s).1
      (recursivePass fuel hybrid set s).2 := by
  unfold recursivePass
  dsimp only
  generalize folded : List.foldl _ (#[], s) set = result
  obtain ⟨added, listed, pass⟩ : ∃ added, result.1.toList = (#[] : Array Nat).toList ++ added ∧
      RecursivePass good s set added result.2 := by
    rw [← folded]
    refine foldl_recursiveStep rules set #[] s (Grows.refl sound lockSound) ?_
    rintro ⟨changed, current⟩ v grown mem
    have insideV : v < current.size := grown.size_eq ▸ inside v mem
    dsimp only at grown ⊢
    split
    · rename_i skipped
      left
      refine ⟨rfl, Agrees.refl current, ?_⟩
      rcases Bool.or_eq_true_iff.1 skipped with locked | top
      · exact Or.inl locked
      · exact Or.inr (grown.sound.settled_of_top top)
    · have pass := grown.sound.lift_pass insideV
      generalize current.lift v = lifted at pass ⊢
      obtain ⟨changedV, t⟩ := lifted
      dsimp only at pass ⊢
      cases changedV
      · obtain ⟨_, agrees, settled⟩ := pass.stays rfl
        exact Or.inl ⟨rfl, agrees, Or.inr (settled v (List.mem_singleton_self v))⟩
      · have lifted := pass.toKeeps.grows rules pass.sound grown.lockSound
        show RecursiveStep good current v changed (changed.push v,
          if hybrid && (t.measure v).top then propagateLocks fuel (t.size + 1) #[v] 0 (t.lock v) else t)
        right
        refine ⟨rfl, ?_⟩
        dsimp only
        split
        · -- in hybrid mode a vertex at `⊤` is good, so it may be locked and spread its locks
          rename_i hybridTop
          obtain ⟨isHybrid, top⟩ := Bool.and_eq_true_iff.1 hybridTop
          have goodV := rules.count lifted.sound (lifted.size_eq ▸ insideV)
            (lifted.sound.coherent.rank_of_top top)
          have locked := lifted.sound.lock_grows rules lifted.lockSound (fun _ => goodV)
          have whole := grown.trans (lifted.trans locked)
          have spread := locked.sound.propagateLocks_grows rules fuel (t.size + 1) #[v] 0 (t.lock v)
            locked.lockSound (whole.policy_eq.trans (samePolicy isHybrid)) (by
              have smaller := room_lt pass.sound pass.arena_eq pass.rose
              have fewer := locked.room_le
              have below := grown.room_le
              omega)
            (fun x mem => by
              have atV : x = v := by simpa using mem
              rw [atV]
              exact ⟨(lifted.trans locked).size_eq ▸ insideV,
                locked.preserves rules (lifted.size_eq ▸ insideV) goodV⟩)
          exact ⟨lifted.trans (locked.trans spread),
            Nat.lt_of_lt_of_le pass.rose (locked.trans spread).potential_le⟩
        · exact ⟨lifted, pass.rose⟩
  obtain ⟨changed, t⟩ := result
  dsimp only at listed pass ⊢
  rw [listed]
  simpa using pass

theorem noteDepth_agrees (s : Solver) (depth : Nat) : Agrees s (s.noteDepth depth) :=
  ⟨_, s.rng, rfl⟩

theorem Grows.room_lt (grows : Grows good s t) (rose : s.potential < t.potential) : t.room < s.room :=
  Solver.room_lt grows.sound grows.arena_eq rose

/-- The recursive strategy leaves every vertex of its set locked or settled,
as long as the fuel exceeds the room: every pass that changes something
raises the potential, before and after its nested call. -/
theorem Sound.liftRecursive_finishes (rules : LockRules good policy) (hybrid : Bool) :
    ∀ (fuel : Nat) (set : List Nat) (depth : Nat) (s : Solver), s.Sound → s.LockSound good →
      (hybrid = true → s.policy = policy) → s.room < fuel → (∀ v ∈ set, v < s.size) →
      Finishes good s set (liftRecursive hybrid fuel set depth s) := by
  intro fuel
  induction fuel with
  | zero => intro set depth s _ _ _ roomy; omega
  | succ fuel ih =>
    intro set depth s sound lockSound samePolicy roomy inside
    rw [liftRecursive]
    dsimp only
    have noted := noteDepth_agrees s depth
    have notedGrows := noted.grows rules sound lockSound
    have pass := recursivePass_pass rules fuel hybrid notedGrows.sound
      notedGrows.lockSound (fun isHybrid => notedGrows.policy_eq.trans (samePolicy isHybrid))
      (by rw [noted.room]; omega) (fun v mem => notedGrows.size_eq ▸ inside v mem)
    generalize recursivePass fuel hybrid set (s.noteDepth depth) = result at pass ⊢
    obtain ⟨changed, t⟩ := result
    dsimp only at pass ⊢
    have whole := notedGrows.trans pass.grows
    split
    · -- a quiet pass: every vertex of the set is locked or settled
      rename_i empty
      obtain ⟨agrees, covered⟩ := pass.quiet (List.isEmpty_iff.1 empty)
      refine ⟨whole, fun v mem => ?_⟩
      rw [agrees.isLocked, agrees.settled, noted.isLocked, noted.settled]
      exact covered v mem
    · -- a changing pass: the room drops, first for the nested call, then for the next pass
      rename_i nonempty
      have rose := pass.rises (fun isNil => nonempty (List.isEmpty_iff.2 isNil))
      have smaller : t.room < s.room := by
        rw [← noted.room]
        exact pass.grows.room_lt rose
      have nested : Grows good t (if changed.length < set.length then
          liftRecursive hybrid fuel changed (depth + 1) t else t) := by
        split
        · exact (ih changed (depth + 1) t whole.sound whole.lockSound
            (fun isHybrid => whole.policy_eq.trans (samePolicy isHybrid)) (by omega)
            (fun v mem => whole.size_eq ▸ inside v (pass.sub v mem))).grows
        · exact Grows.refl whole.sound whole.lockSound
      generalize (if changed.length < set.length then _ else t) = after at nested ⊢
      have grown := whole.trans nested
      have rest := ih set depth after grown.sound grown.lockSound
        (fun isHybrid => grown.policy_eq.trans (samePolicy isHybrid))
        (by have := nested.room_le; omega) (fun v mem => grown.size_eq ▸ inside v mem)
      exact ⟨grown.trans rest.grows, rest.covered⟩

end Recursive

section Propagation

theorem settledBySelfLoop_congr (sameArena : t.arena = s.arena) (v : Nat) :
    t.settledBySelfLoop v = s.settledBySelfLoop v := by
  unfold settledBySelfLoop
  rw [sameArena]

/-- The propagation strategies lock what a self-loop decides, spread the locks
and finish the unlocked vertices recursively, keeping every lock good under
the policy of the rules, as long as the fuel exceeds the room. -/
theorem Sound.propagate_finishes (rules : LockRules good policy) {fuel : Nat} {hybrid : Bool}
    (sound : s.Sound) (lockSound : s.LockSound good) (samePolicy : s.policy = policy)
    (roomy : s.room < fuel) : Finishes good s (List.range s.size) (propagate fuel hybrid s).1 := by
  unfold propagate
  dsimp only
  generalize folded : List.foldl _ (#[], s) (List.range s.size) = result
  -- the self-loop pass locks good vertices and queues them
  have invariant : Grows good s result.2 ∧ ∀ x ∈ result.1, x < s.size ∧ good result.2 x := by
    rw [← folded, ← List.foldl_toArray]
    apply Array.foldl_induction (motive := fun _ (acc : Array Nat × Solver) =>
      Grows good s acc.2 ∧ ∀ x ∈ acc.1, x < s.size ∧ good acc.2 x)
    · exact ⟨Grows.refl sound lockSound, fun x mem => absurd mem (by simp)⟩
    · rintro j ⟨queue, current⟩ ⟨grows, queued⟩
      dsimp only at grows queued ⊢
      have atJ : (List.range s.size).toArray[j] = j := by simp
      have insideJ : (j : Nat) < s.size := by simpa using j.2
      split
      · rename_i loop
        rw [atJ] at loop ⊢
        have settles := grows.sound.liftToFixpoint_settles (v := j) fuel current
          (by rw [grows.size_eq]; exact insideJ)
          (Nat.lt_of_le_of_lt grows.room_le roomy)
        generalize liftToFixpoint _ fuel current = lifted at settles ⊢
        have first := settles.grows rules grows.lockSound
        have insideLifted : (j : Nat) < lifted.size := by
          rw [(grows.trans first).size_eq]
          exact insideJ
        have goodJ := rules.selfLoop first.sound insideLifted
          (settles.settled _ (List.mem_singleton_self _))
          (by rw [settledBySelfLoop_congr settles.arena_eq]; exact loop)
        have locked := first.sound.lock_grows rules first.lockSound (fun _ => goodJ)
        refine ⟨grows.trans (first.trans locked), fun x mem => ?_⟩
        rcases Array.mem_push.1 mem with earlier | rfl
        · obtain ⟨insideX, goodX⟩ := queued x earlier
          exact ⟨insideX, (first.trans locked).preserves rules (grows.size_eq ▸ insideX) goodX⟩
        · exact ⟨insideJ, locked.preserves rules insideLifted goodJ⟩
      · exact ⟨grows, queued⟩
  obtain ⟨queue, t⟩ := result
  obtain ⟨grows, queued⟩ := invariant
  dsimp only
  have spread := grows.sound.propagateLocks_grows rules fuel (t.size + 1) queue 0 t
    grows.lockSound (grows.policy_eq.trans samePolicy) (Nat.lt_of_le_of_lt grows.room_le roomy)
    (fun x mem => ⟨grows.size_eq ▸ (queued x mem).1, (queued x mem).2⟩)
  generalize propagateLocks fuel (t.size + 1) queue 0 t = locked at spread ⊢
  have whole := grows.trans spread
  -- the recursive strategy on the unlocked vertices
  have finishes := whole.sound.liftRecursive_finishes rules hybrid fuel
    ((List.range locked.size).filter fun v => !locked.isLocked v) 0 locked whole.lockSound
    (fun _ => whole.policy_eq.trans samePolicy) (Nat.lt_of_le_of_lt whole.room_le roomy)
    (fun v mem => List.mem_range.1 (List.mem_filter.1 mem).1)
  refine ⟨whole.trans finishes.grows, fun w mem => ?_⟩
  have insideW : w < locked.size := whole.size_eq ▸ List.mem_range.1 mem
  cases lockedW : locked.isLocked w
  · exact finishes.covered w (List.mem_filter.2 ⟨List.mem_range.2 insideW, by simp [lockedW]⟩)
  · exact Or.inl (finishes.grows.locked_le w lockedW)

/-- Under the safe policy the propagation strategies leave every vertex exact,
as long as the fuel exceeds the room. -/
theorem Sound.propagate_exact {fuel : Nat} {hybrid : Bool} (sound : s.Sound) (lockExact : s.LockExact)
    (safe : s.policy = .safe) (roomy : s.room < fuel) :
    Grows Exact s (propagate fuel hybrid s).1 ∧ ∀ v < s.size, (propagate fuel hybrid s).1.Exact v :=
  (sound.propagate_finishes exactRules lockExact safe roomy).solves

end Propagation

section Solve

/-- The state `solve` runs a strategy from: zero measures, no locks, fresh
counters. -/
def solveStart (s : Solver) : Solver := { s.reset with stats := {} }

theorem Sound.solveStart (sound : s.Sound) : s.solveStart.Sound :=
  sound.reset.agrees ⟨{}, s.reset.rng, rfl⟩

theorem isLocked_solveStart (s : Solver) (v : Nat) : s.solveStart.isLocked v = false := by
  simp only [solveStart, reset, isLocked, Array.getElem?_map]
  cases s.locked[v]? <;> rfl

theorem lockSound_solveStart (good : Solver → Nat → Prop) (s : Solver) :
    s.solveStart.LockSound good := by
  intro v _ locked
  rw [isLocked_solveStart] at locked
  exact nomatch locked

section Orders

variable (sound : s.Sound) (lockExact : s.LockExact) {order : List Nat}
  (covers : ∀ v, v ∈ order ↔ v < s.size)

include sound lockExact covers

theorem Sound.sweepReturning_finishes (length : order.length = s.size) :
    Finishes Exact s (List.range s.size)
      (sweepReturning order.toArray (s.budget * (s.size + 1)) 0 s) := by
  have settles := sound.sweepReturning_settles order.toArray (s.budget * (s.size + 1)) 0 s
    (fun v mem => (covers v).1 (List.mem_toArray.1 mem))
    (fun j _ below _ => absurd below (Nat.not_lt_zero j))
    (by rw [List.size_toArray, length]; exact sound.sweep_fuel s.size)
  refine (settles.finishes exactRules lockExact).mono fun v mem => ?_
  rw [List.toList_toArray]
  exact (covers v).2 (List.mem_range.1 mem)

theorem Sound.sweepNonReturning_finishes :
    Finishes Exact s (List.range s.size) (sweepNonReturning order s.budget s) :=
  ((sound.sweepNonReturning_settles order s.budget s (fun v mem => (covers v).1 mem)
    sound.room_lt_budget).finishes exactRules lockExact).mono fun v mem => (covers v).2 (List.mem_range.1 mem)

theorem Sound.liftRecursive_order_finishes :
    Finishes Exact s (List.range s.size) (liftRecursive false s.budget order 0 s) :=
  (sound.liftRecursive_finishes exactRules false s.budget order 0 s lockExact (fun isHybrid => absurd isHybrid Bool.false_ne_true)
    sound.room_lt_budget (fun v mem => (covers v).1 mem)).mono
    fun v mem => (covers v).2 (List.mem_range.1 mem)

end Orders

/-- Every strategy, run from a sound state whose locks are exact, leaves every
vertex exact: under the safe policy for the propagation strategies, and for the
random strategy when it stops by its own test. -/
theorem Sound.runStrategy_exact (sound : s.Sound) (lockExact : s.LockExact) (st : Strategy)
    (safe : st = .propagation ∨ st = .propagationHybrid → s.policy = .safe)
    (stops : st = .random → randomStops (s.budget * 64 * (s.size + 1)) s = true) :
    Grows Exact s (runStrategy st s).1 ∧ ∀ v < s.size, (runStrategy st s).1.Exact v := by
  cases st with
  | input => exact (sound.sweepReturning_finishes lockExact (fun _ => mem_inputOrder)
      length_inputOrder).solves
  | inputNonReturning => exact (sound.sweepNonReturning_finishes lockExact
      (fun _ => mem_inputOrder)).solves
  | random => exact ((sound.liftRandom_settles (stops rfl)).finishes exactRules lockExact).solves
  | randomNonReturning => exact ((sound.liftRandomNonReturning_settles s.budget s
      sound.room_lt_budget).finishes exactRules lockExact).solves
  | priority => exact (sound.sweepReturning_finishes lockExact (fun _ => mem_priorityOrder)
      length_priorityOrder).solves
  | priorityNonReturning => exact (sound.sweepNonReturning_finishes lockExact
      (fun _ => mem_priorityOrder)).solves
  | incoming => exact (sound.sweepReturning_finishes lockExact (fun _ => mem_incomingOrder)
      length_incomingOrder).solves
  | incomingNonReturning => exact (sound.sweepNonReturning_finishes lockExact
      (fun _ => mem_incomingOrder)).solves
  | recursive => exact (sound.liftRecursive_order_finishes lockExact (fun _ => mem_inputOrder)).solves
  | recursivePriority => exact (sound.liftRecursive_order_finishes lockExact
      (fun _ => mem_priorityOrder)).solves
  | recursiveIncoming => exact (sound.liftRecursive_order_finishes lockExact
      (fun _ => mem_incomingOrder)).solves
  | propagation => exact sound.propagate_exact lockExact (safe (Or.inl rfl)) sound.room_lt_budget
  | propagationHybrid => exact sound.propagate_exact lockExact (safe (Or.inr rfl)) sound.room_lt_budget

/-- Solving a state that lifts reach from a fresh solver leaves the measures of
the least fixpoint, with every strategy: under the safe policy for the two
propagation strategies, under either policy for the others, and for the random
strategy whenever it stops by its own test. -/
theorem solve_equal_leastFixpoint (reachable : s.LiftReachable) (st : Strategy)
    (safe : st = .propagation ∨ st = .propagationHybrid → s.policy = .safe)
    (stops : st = .random →
      randomStops (s.solveStart.budget * 64 * (s.solveStart.size + 1)) s.solveStart = true) :
    ∀ v < s.size, ((s.solve st).2.1.measure v).equal (s.leastFixpoint.measure v) = true := by
  have sound := reachable.sound.solveStart
  obtain ⟨grows, exact⟩ := sound.runStrategy_exact (lockSound_solveStart Exact s) st safe stops
  have solved : (s.solve st).2.1 = (runStrategy st s.solveStart).1 := rfl
  have sameArena : (runStrategy st s.solveStart).1.arena = s.arena := grows.arena_eq
  intro v inside
  rw [solved, ← leastFixpoint_congr sameArena]
  exact grows.sound.equal_leastFixpoint (fun w within => exact w (grows.size_eq ▸ within)) v
    (by rw [size, sameArena]; exact inside)

/-- The non-returning sweep over `Arena.choiceLoops` in input order ends at
the least fixpoint: `⊤` on the vertices Odd wins and zero on Even's loop. -/
theorem solve_sweep_choice_leastFixpoint :
    let s := new Arena.choiceLoops default .safe
    (List.range 4).map (fun v => ((s.solve .inputNonReturning).2.1.measure v).top) =
        [true, false, true, true] ∧ ((s.solve .inputNonReturning).2.1.measure 1).odd = #[0, 0] ∧
      ∀ v < s.size,
        ((s.solve .inputNonReturning).2.1.measure v).equal (s.leastFixpoint.measure v) = true := by
  intro s
  have reachable : s.LiftReachable := .new default .safe Arena.reachable_choiceLoops
  exact ⟨by decide +kernel, by decide +kernel, solve_equal_leastFixpoint reachable
    .inputNonReturning (fun isPropagation => absurd isPropagation (by decide))
    (fun isRandom => absurd isRandom (by decide))⟩

end Solve

end Solver

end ParityGames
