import ParityGames.Proofs.Regions
import ParityGames.Proofs.Strategies

/-!
# Eager locks decide `⊤` exactly

Under the eager policy the propagation strategies lock an Even vertex as soon
as a finite locked vertex follows it, before its other successors are final,
so a locked number may stay below the least fixpoint. What every lock still
keeps, under either policy, is `TopSound`: a number below the count is one
where the least fixpoint is finite. The lock rules keep it because a vertex
whose owner can move to where the least fixpoint is finite has a finite least
fixpoint itself (`Consistent.fixRank_lt_of_step`).

When the run ends, the vertices below the count where the least fixpoint is at
the count are not locked, so they are settled, and their numbers give Even
moves that hold them; by the counting argument of `Regions` there are none.
Since every number also stays below the least fixpoint, the measures are at
`⊤` exactly where those of the least fixpoint are, and the winners agree.
-/

namespace ParityGames

namespace Solver

variable {s t : Solver}

/-- A number below the count is one where the least fixpoint is finite. -/
def TopSound (s : Solver) (v : Nat) : Prop :=
  s.rank v < s.arena.scale.count → s.arena.fixRank v < s.arena.scale.count

theorem Coherent.rank_lt_of_finite (coherent : s.Coherent) {v : Nat}
    (finite : (s.measure v).top = false) : s.rank v < s.arena.scale.count := by
  have below := Measure.rank_lt_count (coherent.fits v) finite
  rw [coherent.rank_eq_ofMaximum, Arena.scale, ← coherent.maximum_eq]
  exact below

/-- Top-sound locks obey the lock rules of either policy. A lock below the
count passes the finite least fixpoint of its successor on to the vertex it
locks: through the only edge, through the edge Even may take under the eager
policy, or through the successors that are all locked under the safe policy. -/
theorem topRules (policy : LockPolicy) : LockRules TopSound policy where
  rises topSound sound sameArena inside le := by
    intro below
    rw [sameArena] at below ⊢
    exact topSound (Nat.lt_of_le_of_lt le below)
  count _ _ atCount below := absurd atCount (Nat.ne_of_lt below)
  selfLoop sound inside settled loop := by
    intro below
    have exact := sound.exact_of_selfLoop inside settled loop
    unfold Exact at exact
    omega
  lockable {s t u v} sound grows _ insideV topSoundV edge settled lockable := by
    have consistent := sound.consistent
    have insideU : u < s.size := Arena.lt_size_of_mem_outgoing edge
    -- what `t` knows of `v`: at the count if it was at `⊤`, else finite in the least fixpoint
    have finiteV : t.rank v < s.arena.scale.count → s.arena.fixRank v < s.arena.scale.count := by
      intro below
      cases top : (s.measure v).top
      · exact topSoundV (sound.coherent.rank_lt_of_finite top)
      · have atCount := grows.rank_of_top sound insideV top
        rw [grows.arena_eq] at atCount
        omega
    have settledU : s.arena.liftRank t.rank u = t.rank u := by
      unfold Settled at settled
      rw [grows.arena_eq] at settled
      exact settled
    unfold TopSound
    rw [grows.arena_eq]
    intro below
    unfold Solver.lockable at lockable
    dsimp only at lockable
    rw [grows.arena_eq] at lockable
    split at lockable
    · -- the only successor is `v`
      rename_i single
      have only := Arena.outgoing_eq_single edge (by simp [Vertex.outDegree] at single; omega)
      have offered : s.arena.offer t.rank u v < s.arena.scale.count := by
        rw [← Arena.liftRank_single only, settledU]
        exact below
      have finite := finiteV (Arena.lt_count_of_offer_lt offered)
      refine consistent.fixRank_lt_of_step insideU (fun _ => ⟨v, edge, finite⟩) fun _ w mem => ?_
      rw [only, List.mem_toArray, List.mem_singleton] at mem
      rw [mem]
      exact finite
    · split at lockable
      · -- Odd owns `u` and `v` is at `⊤`, which puts `u` at the count
        rename_i oddTop
        obtain ⟨oddOwner, isTop⟩ := Bool.and_eq_true_iff.1 oddTop
        have other : (s.arena.vertex u).owner.isEven = false := by
          simp only [Player.isOdd, beq_iff_eq] at oddOwner
          simp [Player.isEven, oddOwner]
        have offered := Arena.offer_le_liftRank (r := t.rank) other edge
        have atCount := grows.rank_of_top sound insideV isTop
        rw [grows.arena_eq] at atCount
        rw [Arena.offer, atCount, Scale.progRank_count, settledU] at offered
        omega
      · split at lockable
        · -- eager: Even owns `u` and `v` was finite, so Even may move to `v`
          rename_i eager
          obtain ⟨evenOwner, notTop⟩ := Bool.and_eq_true_iff.1 lockable
          have finite := topSoundV (sound.coherent.rank_lt_of_finite (by simpa using notTop))
          exact consistent.fixRank_lt_of_step insideU (fun _ => ⟨v, edge, finite⟩)
            fun other => absurd (evenOwner.symm.trans other) Bool.noConfusion
        · -- safe: every successor is locked, hence top-sound
          have successors : ∀ w ∈ (s.arena.vertex u).outgoing, t.rank w < s.arena.scale.count →
              s.arena.fixRank w < s.arena.scale.count := by
            intro w mem finite
            have insideW : w < t.size := grows.size_eq ▸ consistent.target_lt u insideU w mem
            have topSoundW := grows.lockSound w insideW
              (Array.all_eq_true_iff_forall_mem.1 lockable w mem)
            unfold TopSound at topSoundW
            rw [grows.arena_eq] at topSoundW
            exact topSoundW finite
          refine consistent.fixRank_lt_of_step insideU (fun even => ?_) fun other w mem => ?_
          · obtain ⟨w, mem, offered⟩ := Arena.exists_offer_eq_liftRank even (settledU ▸ below)
            refine ⟨w, mem, successors w mem (Arena.lt_count_of_offer_lt (v := u) ?_)⟩
            rw [offered, settledU]
            exact below
          · refine successors w mem (Arena.lt_count_of_offer_lt (v := u) ?_)
            exact Nat.lt_of_le_of_lt ((Arena.offer_le_liftRank other mem).trans settledU.le) below

/-- A sound state whose locks are top-sound and whose other vertices are
settled is top-sound everywhere. The vertices below the count where the least
fixpoint is at the count are not locked, so they are settled, and Even holds
them by the moves that keep their numbers: they lie where the least fixpoint
is finite, so there are none. -/
theorem Sound.topSound_of_covered (sound : s.Sound) (lockSound : s.LockSound TopSound)
    (covered : ∀ v < s.size, s.isLocked v = true ∨ s.Settled v) : ∀ v < s.size, s.TopSound v := by
  have consistent := sound.consistent
  let I : Nat → Prop := fun x =>
    x < s.size ∧ s.rank x < s.arena.scale.count ∧ ¬ s.arena.fixRank x < s.arena.scale.count
  have settled : ∀ x, I x → s.Settled x := fun x held =>
    (covered x held.1).resolve_left fun locked => held.2.2 (lockSound x held.1 locked held.2.1)
  have holds : ∀ x y, I x → y ∈ (s.arena.vertex x).outgoing →
      s.arena.offer s.rank x y ≤ s.rank x → s.arena.Holds I s.rank x y := by
    intro x y held edge offered
    have finiteY := Arena.lt_count_of_offer_lt (Nat.lt_of_le_of_lt offered held.2.1)
    by_cases fixFinite : s.arena.fixRank y < s.arena.scale.count
    · exact Or.inl fixFinite
    · exact Or.inr ⟨⟨consistent.target_lt x held.1 y edge, finiteY, fixFinite⟩, held.2.1, offered⟩
  have finite := consistent.fixRank_lt_of_holds (I := I) (ρ := s.rank) (fun x held => held.1)
    (fun x held even => by
      have settledX : s.arena.liftRank s.rank x = s.rank x := settled x held
      obtain ⟨y, edge, offered⟩ := Arena.exists_offer_eq_liftRank even (settledX ▸ held.2.1)
      exact ⟨y, edge, holds x y held edge (offered.trans settledX).le⟩)
    (fun x held other y edge =>
      holds x y held edge ((Arena.offer_le_liftRank other edge).trans (settled x held).le))
  intro v inside below
  by_contra infinite
  exact infinite (finite v ⟨inside, below, infinite⟩)

/-- The propagation strategies keep every lock top-sound under either policy
and leave every vertex top-sound, as long as the fuel exceeds the room. -/
theorem Sound.propagate_topSound {fuel : Nat} {hybrid : Bool} (sound : s.Sound)
    (lockSound : s.LockSound TopSound) (roomy : s.room < fuel) :
    Grows TopSound s (propagate fuel hybrid s).1 ∧
      ∀ v < s.size, (propagate fuel hybrid s).1.TopSound v := by
  have finishes : Finishes TopSound s (List.range s.size) (propagate fuel hybrid s).1 :=
    sound.propagate_finishes (topRules s.policy) lockSound rfl roomy
  refine ⟨finishes.grows, fun v inside => ?_⟩
  have sameSize := finishes.grows.size_eq
  exact finishes.grows.sound.topSound_of_covered finishes.grows.lockSound
    (fun w within => finishes.covered w (List.mem_range.2 (sameSize ▸ within))) v (sameSize ▸ inside)

/-- The propagation strategies leave every number at most that of the least
fixpoint, and at the count exactly where that of the least fixpoint is. -/
theorem Sound.propagate_count_iff {fuel : Nat} {hybrid : Bool} (sound : s.Sound)
    (lockSound : s.LockSound TopSound) (roomy : s.room < fuel) :
    Grows TopSound s (propagate fuel hybrid s).1 ∧ ∀ v < s.size,
      (propagate fuel hybrid s).1.rank v ≤ s.arena.fixRank v ∧
      ((propagate fuel hybrid s).1.rank v = s.arena.scale.count ↔
        s.arena.fixRank v = s.arena.scale.count) := by
  obtain ⟨grows, topSound⟩ := sound.propagate_topSound lockSound roomy
  refine ⟨grows, fun v inside => ?_⟩
  generalize (propagate fuel hybrid s).1 = t at grows topSound ⊢
  have sameArena : t.arena = s.arena := grows.arena_eq
  have below := grows.sound.below.le_fixRank v (by rw [sameArena]; exact inside)
  have bounded := Arena.fixRank_le_count (a := t.arena) v
  have decided := topSound v (grows.size_eq ▸ inside)
  unfold TopSound at decided
  rw [sameArena] at below bounded decided
  refine ⟨below, fun atCount => by omega, fun fixTop => ?_⟩
  by_contra finite
  exact absurd fixTop (Nat.ne_of_lt (decided (by omega)))

end Solver

end ParityGames
