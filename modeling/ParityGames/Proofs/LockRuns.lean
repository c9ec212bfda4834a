import ParityGames.Proofs.Strategies
import Mathlib.Logic.Relation

/-!
# Locks at every point of a propagation run

A propagation run changes its state in few ways: it lifts an unlocked vertex,
notes the depth of a recursive pass, and locks a vertex once lifting no longer
moves it, for one of three reasons: its self-loop decides it, `lockable`
accepts it as a predecessor of a locked vertex, or, in hybrid mode, it is at
`⊤`.  `LockStep` lists these steps with the test the strategy makes before
each, and the run is a path of them from its start (`propagate_path`): every
function of the strategy is followed through, with the room kept below its
fuel so that every lift to a fixpoint settles its vertex.

Under the safe policy every step keeps `LockedExactly`: the state is sound,
every locked vertex holds the number of the least fixpoint, and the lock
counter counts the locked vertices (`LockStep.lockedExactly`).  So it holds at
every point of the run (`propagation_locks_exact`), and a locked vertex, which
no step lifts, keeps its measure to the end.
-/

namespace ParityGames

namespace Solver

open Relation

variable {s t : Solver} {hybrid : Bool}

/-- The steps of a propagation run, each guarded by the test the strategy
makes before it. -/
inductive LockStep (hybrid : Bool) : Solver → Solver → Prop
  /-- A lift of an unlocked vertex. -/
  | lift {s : Solver} {v : Nat} : v < s.size → s.isLocked v = false →
      LockStep hybrid s (s.lift v).2
  /-- The note of the depth of a recursive pass. -/
  | noteDepth {s : Solver} (depth : Nat) : LockStep hybrid s (s.noteDepth depth)
  /-- A settled vertex whose self-loop decides it is locked. -/
  | lockSelfLoop {s : Solver} {v : Nat} : v < s.size → s.settledBySelfLoop v = true →
      s.Settled v → LockStep hybrid s (s.lock v)
  /-- A settled, unlocked predecessor `u` of a locked vertex `v` is locked when
  `lockable` accepts it, given a `⊤` flag that `v` bears out. -/
  | lockPredecessor {s : Solver} {u v : Nat} {top : Bool} : v < s.size → s.isLocked v = true →
      u ∈ (s.arena.vertex v).incoming → (top = true → (s.measure v).top = true) →
      s.isLocked u = false → s.lockable u top = true → s.Settled u → LockStep hybrid s (s.lock u)
  /-- In hybrid mode, a vertex at `⊤` is locked. -/
  | lockTop {s : Solver} {v : Nat} : hybrid = true → v < s.size → (s.measure v).top = true →
      LockStep hybrid s (s.lock v)

/-- What holds at every point of a propagation run under the safe policy: the
state is sound, every locked vertex is exact, there is one lock flag per
vertex, and the lock counter counts the flags that are set. -/
structure LockedExactly (s : Solver) : Prop where
  sound : s.Sound
  exact : s.LockExact
  safe : s.policy = .safe
  locked_size : s.locked.size = s.size
  counted : s.stats.locked = s.locked.count true

section Steps

@[simp]
theorem stats_locked_lift (s : Solver) (v : Nat) :
    (s.lift v).2.stats.locked = s.stats.locked := by
  unfold lift
  dsimp only
  generalize (_ && _) = unchanged
  cases unchanged <;> rfl

/-- Locking a vertex of the arena sets its flag and counts it, unless it was
already set. -/
theorem lock_counted {v : Nat} (inside : v < s.size) (lockedSize : s.locked.size = s.size)
    (counted : s.stats.locked = s.locked.count true) :
    (s.lock v).locked.size = (s.lock v).size ∧ (s.lock v).stats.locked = (s.lock v).locked.count true := by
  unfold lock
  split
  · exact ⟨lockedSize, counted⟩
  · rename_i unlocked
    have within : v < s.locked.size := by omega
    have flag : s.locked[v] = false := by
      simpa [isLocked, Array.getElem?_eq_getElem within] using unlocked
    refine ⟨by simpa [size] using lockedSize, ?_⟩
    show s.stats.locked + 1 = (s.locked.set! v true).count true
    rw [Array.set!_eq_setIfInBounds, Array.setIfInBounds, dif_pos within, Array.count_set within,
      flag, counted]
    simp

/-- A step of the run keeps every lock exact. -/
theorem LockStep.grows (step : LockStep hybrid s t) (sound : s.Sound) (exact : s.LockExact)
    (safe : s.policy = .safe) : Grows Exact s t := by
  cases step with
  | lift inside unlocked => exact (lift_keeps sound _).grows exactRules (sound.lift _) exact
  | noteDepth depth => exact (noteDepth_agrees s depth).grows exactRules sound exact
  | lockSelfLoop inside loop settled =>
    exact sound.lock_grows exactRules exact fun _ => sound.exact_of_selfLoop inside settled loop
  | lockPredecessor insideV lockedV edge topV _ lockable settled =>
    have back := sound.consistent.incoming_sound _ insideV _ edge
    exact sound.lock_grows exactRules exact fun insideU =>
      sound.exact_of_lockable exact safe insideU back (exact _ insideV lockedV)
        (fun isTop => sound.coherent.rank_of_top (topV isTop)) settled lockable
  | lockTop _ inside top =>
    exact sound.lock_grows exactRules exact fun _ =>
      sound.exact_of_count inside (sound.coherent.rank_of_top top)

/-- A step of the run keeps `LockedExactly`. -/
theorem LockStep.lockedExactly (step : LockStep hybrid s t) (locked : s.LockedExactly) :
    t.LockedExactly := by
  have grows := step.grows locked.sound locked.exact locked.safe
  have counting : t.locked.size = t.size ∧ t.stats.locked = t.locked.count true := by
    cases step with
    | lift inside _ =>
      rw [locked_lift, size_lift, stats_locked_lift]
      exact ⟨locked.locked_size, locked.counted⟩
    | noteDepth depth => exact ⟨locked.locked_size, locked.counted⟩
    | lockSelfLoop inside _ _ => exact lock_counted inside locked.locked_size locked.counted
    | lockPredecessor insideV _ edge _ _ _ _ =>
      exact lock_counted (Arena.lt_size_of_mem_outgoing
        (locked.sound.consistent.incoming_sound _ insideV _ edge)) locked.locked_size locked.counted
    | lockTop _ inside _ => exact lock_counted inside locked.locked_size locked.counted
  exact ⟨grows.sound, grows.lockSound, grows.policy_eq.trans locked.safe, counting.1, counting.2⟩

@[simp] theorem measure_lock (s : Solver) (v u : Nat) : (s.lock v).measure u = s.measure u := by
  unfold lock
  split <;> rfl

/-- A step leaves a locked vertex locked, with its measure: the only step that
moves a measure lifts an unlocked vertex. -/
theorem LockStep.keeps_locked (step : LockStep hybrid s t) (sound : s.Sound) {v : Nat}
    (lockedV : s.isLocked v = true) : t.isLocked v = true ∧ t.measure v = s.measure v := by
  cases step with
  | @lift w _ unlocked =>
    have other : v ≠ w := by
      rintro rfl
      rw [unlocked] at lockedV
      exact Bool.false_ne_true lockedV
    exact ⟨by rw [isLocked, locked_lift]; exact lockedV,
      lift_measure_of_ne sound.coherent sound.consistent other⟩
  | noteDepth depth => exact ⟨lockedV, rfl⟩
  | lockSelfLoop => exact ⟨(isLocked_lock _ _ _).2 (Or.inr lockedV), measure_lock _ _ _⟩
  | lockPredecessor => exact ⟨(isLocked_lock _ _ _).2 (Or.inr lockedV), measure_lock _ _ _⟩
  | lockTop => exact ⟨(isLocked_lock _ _ _).2 (Or.inr lockedV), measure_lock _ _ _⟩

end Steps

section Paths

/-- A path of steps keeps `LockedExactly`. -/
theorem LockedExactly.along (locked : s.LockedExactly) (path : ReflTransGen (LockStep hybrid) s t) :
    t.LockedExactly := by
  induction path with
  | refl => exact locked
  | tail _ step reached => exact step.lockedExactly reached

/-- Along a path of steps every lock stays exact and no number drops. -/
theorem LockedExactly.grows_along (locked : s.LockedExactly)
    (path : ReflTransGen (LockStep hybrid) s t) : Grows Exact s t := by
  induction path with
  | refl => exact Grows.refl locked.sound locked.exact
  | tail _ step grown =>
    exact grown.trans (step.grows grown.sound grown.lockSound (grown.policy_eq.trans locked.safe))

theorem Coherent.top_of_rank (coherent : s.Coherent) {v : Nat}
    (atCount : s.rank v = s.arena.scale.count) : (s.measure v).top = true := by
  rw [Measure.top_iff_rank (coherent.fits v), ← coherent.rank_eq_ofMaximum,
    ← coherent.scale_eq_ofMaximum, coherent.scale_eq]
  exact atCount

/-- Lifting an unlocked vertex until it no longer changes is a path of lifts. -/
theorem liftToFixpoint_path (hybrid : Bool) {v : Nat} : ∀ (fuel : Nat) (s : Solver), v < s.size →
    s.isLocked v = false → ReflTransGen (LockStep hybrid) s (liftToFixpoint v fuel s) := by
  intro fuel
  induction fuel with
  | zero => intro s _ _; exact .refl
  | succ fuel ih =>
    intro s inside unlocked
    have first : ReflTransGen (LockStep hybrid) s (s.lift v).2 := .single (.lift inside unlocked)
    have insideAfter : v < (s.lift v).2.size := by rw [size_lift]; exact inside
    have unlockedAfter : (s.lift v).2.isLocked v = false := by
      rw [isLocked, locked_lift]
      exact unlocked
    rw [liftToFixpoint]
    generalize s.lift v = lifted at first insideAfter unlockedAfter ⊢
    obtain ⟨changed, t⟩ := lifted
    cases changed
    · exact first
    · exact first.trans (ih t insideAfter unlockedAfter)

/-- A fold whose every step extends a path from `start` ends on such a path. -/
theorem foldl_path {α : Type} {f : α × Solver → Nat → α × Solver} {start : Solver} :
    ∀ (set : List Nat) (acc : α × Solver), ReflTransGen (LockStep hybrid) start acc.2 →
      (∀ (acc : α × Solver) (v : Nat), v ∈ set → ReflTransGen (LockStep hybrid) start acc.2 →
        ReflTransGen (LockStep hybrid) acc.2 (f acc v).2) →
      ReflTransGen (LockStep hybrid) start (set.foldl f acc).2 := by
  intro set
  induction set with
  | nil => intro acc reached _; exact reached
  | cons v vs ih =>
    intro acc reached step
    exact ih (f acc v) (reached.trans (step acc v List.mem_cons_self reached))
      fun acc w mem => step acc w (List.mem_cons_of_mem v mem)

/-- The lock passes lift a vertex to its fixpoint and then lock it.  When the
lock is a step from the settled state, the whole is a path of steps, and a
queue of locked vertices with the vertex pushed on it stays locked. -/
theorem LockedExactly.liftThenLock_path (locked : s.LockedExactly) {fuel : Nat}
    (roomy : s.room < fuel) {current : Solver} (path : ReflTransGen (LockStep hybrid) s current)
    {u : Nat} (inside : u < s.size) (unlocked : current.isLocked u = false) {queue : Array Nat}
    (queued : ∀ x ∈ queue, x < s.size ∧ current.isLocked x = true)
    (lockStep : ∀ t, Settles current [u] t → Grows Exact s t → LockStep hybrid t (t.lock u)) :
    ReflTransGen (LockStep hybrid) s ((liftToFixpoint u fuel current).lock u) ∧
      (∀ x ∈ queue.push u, x < s.size ∧ ((liftToFixpoint u fuel current).lock u).isLocked x = true) ∧
      ∀ x, ((liftToFixpoint u fuel current).lock u).isLocked x = true →
        x = u ∨ current.isLocked x = true := by
  have grown := locked.grows_along path
  have insideCurrent : u < current.size := grown.size_eq ▸ inside
  have settles := grown.sound.liftToFixpoint_settles fuel current insideCurrent
    (Nat.lt_of_le_of_lt grown.room_le roomy)
  have lifting := liftToFixpoint_path hybrid fuel current insideCurrent unlocked
  generalize liftToFixpoint u fuel current = lifted at settles lifting ⊢
  have whole := grown.trans (settles.grows exactRules grown.lockSound)
  have lockedSize := (locked.along (path.trans lifting)).locked_size
  refine ⟨(path.trans lifting).tail (lockStep lifted settles whole), fun x mem => ?_,
    fun x lockedX => ?_⟩
  · rcases Array.mem_push.1 mem with earlier | rfl
    · obtain ⟨insideX, lockedX⟩ := queued x earlier
      refine ⟨insideX, (isLocked_lock _ _ _).2 (Or.inr ?_)⟩
      rw [settles.toKeeps.isLocked]
      exact lockedX
    · refine ⟨inside, (isLocked_lock _ _ _).2 (Or.inl ⟨rfl, ?_⟩)⟩
      rw [lockedSize, whole.size_eq]
      exact inside
  · -- the lift keeps every lock, so the only new one is at `u`
    rcases (isLocked_lock _ _ _).1 lockedX with ⟨rfl, _⟩ | earlier
    · exact .inl rfl
    · rw [settles.toKeeps.isLocked] at earlier
      exact .inr earlier

/-- Spreading locks from locked queued vertices is a path of lifts, each
predecessor lifted to its fixpoint, and locks, as long as the fuel exceeds
the room. -/
theorem LockedExactly.propagateLocks_path (hybrid : Bool) (fuel : Nat) :
    ∀ (rounds : Nat) (queue : Array Nat) (i : Nat) (s : Solver), s.LockedExactly → s.room < fuel →
      (∀ x ∈ queue, x < s.size ∧ s.isLocked x = true) →
      ReflTransGen (LockStep hybrid) s (propagateLocks fuel rounds queue i s) := by
  intro rounds
  induction rounds with
  | zero => intro queue i s _ _ _; exact .refl
  | succ rounds ih =>
    intro queue i s locked roomy queued
    rw [propagateLocks]
    cases found : queue[i]? with
    | none => exact .refl
    | some v =>
      dsimp only
      obtain ⟨insideV, lockedV⟩ := queued v (Array.mem_of_getElem? found)
      generalize folded : Array.foldl _ (queue, s) (s.arena.vertex v).incoming = result
      -- every predecessor the fold locks is lifted to its fixpoint first
      have invariant : ReflTransGen (LockStep hybrid) s result.2 ∧
          ∀ x ∈ result.1, x < s.size ∧ result.2.isLocked x = true := by
        rw [← folded]
        apply Array.foldl_induction (motive := fun _ (acc : Array Nat × Solver) =>
          ReflTransGen (LockStep hybrid) s acc.2 ∧ ∀ x ∈ acc.1, x < s.size ∧ acc.2.isLocked x = true)
        · exact ⟨.refl, queued⟩
        · rintro j ⟨pending, current⟩ ⟨path, pendingLocked⟩
          dsimp only at path pendingLocked ⊢
          split
          · exact ⟨path, pendingLocked⟩
          · rename_i taken
            simp only [Bool.or_eq_true, Bool.not_eq_true', not_or, Bool.not_eq_false] at taken
            obtain ⟨unlockedU, lockableU⟩ := taken
            have edge := locked.sound.consistent.incoming_sound v insideV _ (Array.getElem_mem j.2)
            refine (locked.liftThenLock_path roomy path (Arena.lt_size_of_mem_outgoing edge)
              (Bool.eq_false_iff.2 unlockedU) pendingLocked fun lifted settles whole => ?_).imp_right
              And.left
            -- the predecessor is locked against `v`, which stays locked with its `⊤` flag
            exact .lockPredecessor (whole.size_eq ▸ insideV) (whole.locked_le v lockedV)
              (by rw [whole.arena_eq]; exact Array.getElem_mem j.2)
              (fun isTop => whole.sound.coherent.top_of_rank
                (whole.rank_of_top locked.sound insideV isTop))
              (by rw [settles.toKeeps.isLocked]; exact Bool.eq_false_iff.2 unlockedU)
              (by rw [settles.toKeeps.lockable]; exact lockableU)
              (settles.settled _ (List.mem_singleton_self _))
      obtain ⟨pending, t⟩ := result
      obtain ⟨path, pendingLocked⟩ := invariant
      have grown := locked.grows_along path
      exact path.trans (ih pending (i + 1) t (locked.along path)
        (Nat.lt_of_le_of_lt grown.room_le roomy)
        (fun x mem => ⟨grown.size_eq ▸ (pendingLocked x mem).1, (pendingLocked x mem).2⟩))

/-- One pass of the recursive strategy is a path of lifts of unlocked
vertices, with hybrid locks at `⊤` spreading their locks, as long as the fuel
reaches the room. -/
theorem LockedExactly.recursivePass_path (locked : s.LockedExactly) (fuel : Nat) {set : List Nat}
    (roomy : s.room ≤ fuel) (inside : ∀ v ∈ set, v < s.size) :
    ReflTransGen (LockStep hybrid) s (recursivePass fuel hybrid set s).2 := by
  unfold recursivePass
  dsimp only
  generalize folded : List.foldl _ (#[], s) set = result
  have path : ReflTransGen (LockStep hybrid) s result.2 := by
    rw [← folded]
    refine foldl_path set _ .refl fun ⟨changed, current⟩ v mem reached => ?_
    dsimp only at reached ⊢
    split
    · exact .refl
    · rename_i taken
      have unlocked : current.isLocked v = false := by
        simp only [Bool.or_eq_true, not_or, Bool.not_eq_true] at taken
        exact taken.1
      have grown := locked.grows_along reached
      have insideV : v < current.size := grown.size_eq ▸ inside v mem
      have pass := grown.sound.lift_pass insideV
      have first : ReflTransGen (LockStep hybrid) current (current.lift v).2 :=
        .single (.lift insideV unlocked)
      have insideT : v < (current.lift v).2.size := by rw [size_lift]; exact insideV
      generalize current.lift v = lifted at pass first insideT ⊢
      obtain ⟨changedV, t⟩ := lifted
      dsimp only at pass first insideT ⊢
      cases changedV
      · exact first
      · show ReflTransGen (LockStep hybrid) current
          (if hybrid && (t.measure v).top then propagateLocks fuel (t.size + 1) #[v] 0 (t.lock v)
            else t)
        split
        · -- a hybrid lock at `⊤`, then the locks it spreads
          rename_i hybridTop
          obtain ⟨isHybrid, top⟩ := Bool.and_eq_true_iff.1 hybridTop
          have liftedExactly := locked.along (reached.trans first)
          have lockStep : LockStep hybrid t (t.lock v) := .lockTop isHybrid insideT top
          have lockedT := lockStep.lockedExactly liftedExactly
          have lockGrows := lockStep.grows liftedExactly.sound liftedExactly.exact liftedExactly.safe
          have smaller := room_lt pass.sound pass.arena_eq pass.rose
          have fewer := lockGrows.room_le
          have below := grown.room_le
          have spread := lockedT.propagateLocks_path hybrid fuel (t.size + 1) #[v] 0
            (t.lock v) (by omega) fun x queued => by
              have atV : x = v := by simpa using queued
              rw [atV]
              refine ⟨lockGrows.size_eq ▸ insideT, (isLocked_lock _ _ _).2 (Or.inl ⟨rfl, ?_⟩)⟩
              rw [liftedExactly.locked_size]
              exact insideT
          exact (first.tail lockStep).trans spread
        · exact first
  obtain ⟨changed, t⟩ := result
  exact path

/-- The recursive strategy is a path of steps, as long as the fuel exceeds
the room. -/
theorem LockedExactly.liftRecursive_path :
    ∀ (fuel : Nat) (set : List Nat) (depth : Nat) (s : Solver), s.LockedExactly → s.room < fuel →
      (∀ v ∈ set, v < s.size) → ReflTransGen (LockStep hybrid) s (liftRecursive hybrid fuel set depth s) := by
  intro fuel
  induction fuel with
  | zero => intro set depth s _ _ _; exact .refl
  | succ fuel ih =>
    intro set depth s locked roomy inside
    rw [liftRecursive]
    dsimp only
    have noted : ReflTransGen (LockStep hybrid) s (s.noteDepth depth) := .single (.noteDepth depth)
    have notedExactly := locked.along noted
    have notedAgrees := noteDepth_agrees s depth
    have notedInside := fun v mem => (locked.grows_along noted).size_eq ▸ inside v mem
    have pass := recursivePass_pass exactRules fuel hybrid notedExactly.sound notedExactly.exact
      (fun _ => notedExactly.safe) (by rw [notedAgrees.room]; omega) notedInside
    have passPath : ReflTransGen (LockStep hybrid) _ (recursivePass fuel hybrid set _).2 :=
      notedExactly.recursivePass_path fuel
      (by rw [notedAgrees.room]; omega) notedInside
    generalize recursivePass fuel hybrid set (s.noteDepth depth) = result at pass passPath ⊢
    obtain ⟨changed, t⟩ := result
    dsimp only at pass passPath ⊢
    have reached := noted.trans passPath
    have grown := locked.grows_along reached
    split
    · exact reached
    · -- a changing pass: the room drops, first for the nested call, then for the next pass
      rename_i nonempty
      have rose := pass.rises (fun isNil => nonempty (List.isEmpty_iff.2 isNil))
      have smaller : t.room < s.room := by
        rw [← notedAgrees.room]
        exact pass.grows.room_lt rose
      have nested : ReflTransGen (LockStep hybrid) t (if changed.length < set.length then
          liftRecursive hybrid fuel changed (depth + 1) t else t) := by
        split
        · exact ih changed (depth + 1) t (locked.along reached) (by omega)
            (fun v mem => grown.size_eq ▸ inside v (pass.sub v mem))
        · exact .refl
      generalize (if changed.length < set.length then _ else t) = after at nested ⊢
      have whole := reached.trans nested
      have afterGrown := locked.grows_along whole
      have fewer := ((locked.along reached).grows_along nested).room_le
      exact whole.trans (ih set depth after (locked.along whole) (by omega)
        (fun v mem => afterGrown.size_eq ▸ inside v mem))

/-- The propagation strategies from a state without locks are a path of
steps: the self-loop pass lifts each vertex its self-loop decides to its
fixpoint and locks it, the locks spread, and the recursive strategy finishes
the unlocked vertices, as long as the fuel exceeds the room. -/
theorem LockedExactly.propagate_path (locked : s.LockedExactly) {fuel : Nat} (roomy : s.room < fuel)
    (unlocked : ∀ v, s.isLocked v = false) :
    ReflTransGen (LockStep hybrid) s (propagate fuel hybrid s).1 := by
  unfold propagate
  dsimp only
  generalize folded : List.foldl _ (#[], s) (List.range s.size) = result
  -- the self-loop pass has locked only vertices it has passed, so the next one
  -- is still unlocked when it is lifted
  have invariant : ReflTransGen (LockStep hybrid) s result.2 ∧
      ∀ x ∈ result.1, x < s.size ∧ result.2.isLocked x = true := by
    rw [← folded, ← List.foldl_toArray]
    refine (Array.foldl_induction (motive := fun i (acc : Array Nat × Solver) =>
      ReflTransGen (LockStep hybrid) s acc.2 ∧ (∀ x ∈ acc.1, x < s.size ∧ acc.2.isLocked x = true) ∧
        ∀ x, acc.2.isLocked x = true → x < i) ?_ ?_).imp_right And.left
    · refine ⟨.refl, fun x mem => absurd mem (by simp), fun x lockedX => ?_⟩
      rw [unlocked] at lockedX
      exact nomatch lockedX
    · rintro j ⟨queue, current⟩ ⟨path, queued, passed⟩
      dsimp only at path queued passed ⊢
      have atJ : (List.range s.size).toArray[j] = j := by simp
      have insideJ : (j : Nat) < s.size := by simpa using j.2
      split
      · rename_i loop
        rw [atJ] at loop ⊢
        have unlockedJ : current.isLocked j = false :=
          Bool.eq_false_iff.2 fun lockedJ => Nat.lt_irrefl _ (passed j lockedJ)
        obtain ⟨lockPath, lockedQueue, newLocks⟩ := locked.liftThenLock_path roomy path insideJ
          unlockedJ queued fun lifted settles whole =>
            .lockSelfLoop (by rw [whole.size_eq]; exact insideJ)
              (by rw [settledBySelfLoop_congr settles.arena_eq]; exact loop)
              (settles.settled _ (List.mem_singleton_self _))
        refine ⟨lockPath, lockedQueue, fun x lockedX => ?_⟩
        rcases newLocks x lockedX with rfl | earlier
        · exact Nat.lt_succ_self _
        · exact Nat.lt_succ_of_lt (passed x earlier)
      · exact ⟨path, queued, fun x lockedX => Nat.lt_succ_of_lt (passed x lockedX)⟩
  obtain ⟨queue, t⟩ := result
  obtain ⟨path, queued⟩ := invariant
  dsimp only
  have grown := locked.grows_along path
  have spread := (locked.along path).propagateLocks_path hybrid fuel (t.size + 1) queue 0 t
    (Nat.lt_of_le_of_lt grown.room_le roomy)
    (fun x mem => ⟨grown.size_eq ▸ (queued x mem).1, (queued x mem).2⟩)
  generalize propagateLocks fuel (t.size + 1) queue 0 t = spreadState at spread ⊢
  have whole := path.trans spread
  exact whole.trans ((locked.along whole).liftRecursive_path fuel _ 0 spreadState
    (Nat.lt_of_le_of_lt (locked.grows_along whole).room_le roomy)
    (fun v mem => List.mem_range.1 (List.mem_filter.1 mem).1))

/-- Along a path of steps a locked vertex stays locked with its measure. -/
theorem LockedExactly.keeps_locked_along (locked : s.LockedExactly)
    (path : ReflTransGen (LockStep hybrid) s t) {v : Nat} (lockedV : s.isLocked v = true) :
    t.isLocked v = true ∧ t.measure v = s.measure v := by
  induction path with
  | refl => exact ⟨lockedV, rfl⟩
  | tail before step kept =>
    have next := step.keeps_locked (locked.along before).sound kept.1
    exact ⟨next.1, next.2.trans kept.2⟩

end Paths

section Solve

theorem LiftReachable.locked_size (reachable : s.LiftReachable) : s.locked.size = s.size := by
  induction reachable with
  | new g policy _ => simp [Solver.new, size]
  | lift v _ ih =>
    rw [liftChecked_fst]
    split
    · rw [locked_lift, size_lift]
      exact ih
    · exact ih
  | reset _ ih => simpa [Solver.reset, size] using ih

/-- A solve starts with `LockedExactly` under the safe policy: no lock is set
and the counter is fresh. -/
theorem LiftReachable.solveStart_lockedExactly (reachable : s.LiftReachable)
    (safe : s.policy = .safe) : s.solveStart.LockedExactly where
  sound := reachable.sound.solveStart
  exact v _ lockedV := by
    rw [isLocked_solveStart] at lockedV
    exact nomatch lockedV
  safe := safe
  locked_size := by simpa [solveStart, Solver.reset, size] using reachable.locked_size
  counted := by
    show 0 = (s.locked.map fun _ => false).count true
    rw [eq_comm, Array.count_eq_zero]
    simp

/-- What holds at a point `t` of a run of steps from the start of a solve of
`s`: every locked vertex holds its measure of the least fixpoint, the lock
counter counts the locked vertices, and every later point keeps each lock and
the measure under it. -/
structure LocksAtFixpoint (hybrid : Bool) (s t : Solver) : Prop where
  locked_equal : ∀ v < s.size, t.isLocked v = true →
    (t.measure v).equal (s.leastFixpoint.measure v) = true
  counted : t.stats.locked = t.locked.count true
  frozen : ∀ u, ReflTransGen (LockStep hybrid) t u → ∀ v, t.isLocked v = true →
    u.isLocked v = true ∧ u.measure v = t.measure v

/-- Under the safe policy a solve by either propagation strategy is a run of
steps from the start of the solve, each lock made for one of its three reasons
on a settled vertex, and at every point of such a run every locked vertex holds
its measure of the least fixpoint and keeps it to the end, and the lock counter
counts the locks. -/
theorem propagation_locks_exact (reachable : s.LiftReachable) (safe : s.policy = .safe)
    (hybrid : Bool) :
    ReflTransGen (LockStep hybrid) s.solveStart
        (s.solve (if hybrid then .propagationHybrid else .propagation)).2.1 ∧
      ∀ t, ReflTransGen (LockStep hybrid) s.solveStart t → LocksAtFixpoint hybrid s t := by
  have start := reachable.solveStart_lockedExactly safe
  have solved : (s.solve (if hybrid then .propagationHybrid else .propagation)).2.1 =
      (propagate s.solveStart.budget hybrid s.solveStart).1 := by
    cases hybrid <;> rfl
  refine ⟨solved ▸ start.propagate_path start.sound.room_lt_budget (isLocked_solveStart s),
    fun t path => ?_⟩
  have reached := start.along path
  have sameArena : t.arena = s.arena := (start.grows_along path).arena_eq
  have sameSize : t.size = s.size := by rw [size, sameArena]; rfl
  refine ⟨fun v inside lockedV => ?_, reached.counted,
    fun u later v lockedV => reached.keeps_locked_along later lockedV⟩
  rw [← leastFixpoint_congr sameArena]
  exact reached.sound.equal_leastFixpoint_at (sameSize ▸ inside)
    (reached.exact v (sameSize ▸ inside) lockedV)

/-- Hybrid propagation under the safe policy locks all four vertices of
`Arena.choiceLoops`, each at its measure of the least fixpoint. -/
theorem propagation_locks_exact_choice :
    let s := new Arena.choiceLoops default .safe
    (s.solve .propagationHybrid).2.1.stats.locked = 4 ∧
      ReflTransGen (LockStep true) s.solveStart (s.solve .propagationHybrid).2.1 ∧
      ∀ t, ReflTransGen (LockStep true) s.solveStart t → LocksAtFixpoint true s t := by
  intro s
  have reachable : s.LiftReachable := .new default .safe Arena.reachable_choiceLoops
  have locks := propagation_locks_exact reachable rfl true
  simp only [if_true] at locks
  exact ⟨by decide +kernel, locks⟩

end Solve

end Solver

end ParityGames
