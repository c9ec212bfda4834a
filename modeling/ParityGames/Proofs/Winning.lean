import ParityGames.Proofs.Determinacy
import ParityGames.Proofs.TopLocks

/-!
# The solver decides the parity game

Odd has a winning strategy from a vertex exactly where the least fixpoint of
lifting is at the count (`Consistent.fixRank_eq_count_iff`), in an arena where
every vertex can move:

* where the least fixpoint is finite, Even keeps it finite by moving along an
  edge whose offer is the vertex's own number (`fixMove`); the region is a
  dominion of Even (`Consistent.dominion_finiteRegion`), and Even wins every
  play from there, whatever Odd does (`Dominion.not_oddWins`);
* the arena splits into a dominion of Even and one of Odd (`Subgame.splits`);
  the counting argument puts Even's inside the finite region
  (`Consistent.fixRank_lt_of_dominion`), so a vertex at the count lies in
  Odd's, and Odd wins from there by its positional choice (`Dominion.oddWins`).

Every strategy of the solver, under either lock policy, leaves its numbers at
the count exactly where the least fixpoint has them (`solve_rank_count_iff`),
and its winners name Odd exactly there, so they name Odd exactly where Odd has
a winning strategy (`solve_odd_iff_oddWins`).
-/

namespace ParityGames

namespace Arena

variable {a : Arena}

section Plays

/-- The first `n + 1` vertices of the play from `v` in which Even moves by `σ`
and Odd by `τ`, which sees the whole history. -/
def playPrefix (a : Arena) (σ : Nat → Nat) (τ : List Nat → Nat) (v : Nat) : Nat → List Nat
  | 0 => [v]
  | n + 1 =>
    let h := a.playPrefix σ τ v n
    h ++ [if (a.vertex (h.getLastD v)).owner.isEven then σ (h.getLastD v) else τ h]

/-- The play from `v` in which Even moves by `σ` and Odd by `τ`. -/
def play (a : Arena) (σ : Nat → Nat) (τ : List Nat → Nat) (v i : Nat) : Nat :=
  (a.playPrefix σ τ v i).getLastD v

variable {σ : Nat → Nat} {τ : List Nat → Nat} {v : Nat}

theorem getLastD_concat (l : List Nat) (x d : Nat) : (l ++ [x]).getLastD d = x := by
  simp only [List.getLastD_eq_getLast?, List.getLast?_append, List.getLast?_singleton,
    Option.some_or, Option.getD_some]

theorem history_eq_concat (π : Nat → Nat) (i : Nat) :
    history π i = (List.range i).map π ++ [π i] := by
  rw [history, List.range_succ, List.map_append, List.map_singleton]

theorem getLastD_history (π : Nat → Nat) (i d : Nat) : (history π i).getLastD d = π i := by
  rw [history_eq_concat, getLastD_concat]

theorem play_zero : a.play σ τ v 0 = v := rfl

theorem history_play : ∀ i, history (a.play σ τ v) i = a.playPrefix σ τ v i
  | 0 => rfl
  | i + 1 => by
    rw [history_eq_concat, List.range_succ, List.map_append, List.map_singleton,
      ← history_eq_concat, history_play i, play, playPrefix, getLastD_concat]

theorem play_succ (i : Nat) : a.play σ τ v (i + 1) =
    if (a.vertex (a.play σ τ v i)).owner.isEven then σ (a.play σ τ v i)
    else τ (history (a.play σ τ v) i) := by
  rw [history_play, play, playPrefix, getLastD_concat]
  rfl

theorem play_succ_of_even {i : Nat} (even : (a.vertex (a.play σ τ v i)).owner.isEven = true) :
    a.play σ τ v (i + 1) = σ (a.play σ τ v i) := by
  rw [play_succ, if_pos even]

theorem play_succ_of_odd {i : Nat} (odd : (a.vertex (a.play σ τ v i)).owner.isEven = false) :
    a.play σ τ v (i + 1) = τ (history (a.play σ τ v) i) := by
  rw [play_succ, odd, if_neg Bool.false_ne_true]

end Plays

section Dominions

variable {D : Finset Nat} {f : Nat → Nat}

/-- Odd wins from no vertex of a dominion of Even in the whole arena: against
any strategy of Odd, the play in which Even keeps to the dominion is won by
Even. -/
theorem Dominion.not_oddWins (consistent : a.Consistent)
    (dominion : a.Dominion true (Finset.range a.size) D f) {v : Nat} (start : v ∈ D) :
    ¬ a.OddWins v := by
  rintro ⟨τ, valid, wins⟩
  have follows : ∀ i, a.play f τ v i ∈ D →
      a.Follows true (Finset.range a.size) D f (a.play f τ v i) (a.play f τ v (i + 1)) := by
    intro i mem
    have inside := Finset.mem_range.1 (dominion.subset mem)
    cases even : (a.vertex (a.play f τ v i)).owner.isEven
    · have edge : a.play f τ v (i + 1) ∈ (a.vertex (a.play f τ v i)).outgoing := by
        rw [play_succ_of_odd even, history_eq_concat]
        exact valid _ _ inside even
      refine ⟨mem, edge, Finset.mem_range.2 (consistent.target_lt _ inside _ edge), fun owned => ?_⟩
      exact absurd (owned.symm.trans even) (by decide)
    · obtain ⟨edge, stays⟩ := dominion.stays _ mem even
      rw [play_succ_of_even even]
      exact ⟨mem, edge, dominion.subset stays, fun _ => rfl⟩
  have always := dominion.follows_always start follows
  exact (dominion.winsPlay always).not_other (wins _ play_zero (fun i => (always i).2.1)
    fun i owned => play_succ_of_odd owned)

/-- Odd wins from every vertex of one of its dominions in the whole arena, by
the dominion's choice inside it and any edge elsewhere. -/
theorem Dominion.oddWins (consistent : a.Consistent) (subgame : a.Subgame (Finset.range a.size))
    (dominion : a.Dominion false (Finset.range a.size) D f) {v : Nat} (start : v ∈ D) :
    a.OddWins v := by
  refine ⟨fun h => patch D f (a.stayMove (Finset.range a.size)) (h.getLastD 0),
    fun h x inside owned => ?_, fun π first edges obeys => ?_⟩
  · show patch D f _ ((h ++ [x]).getLastD 0) ∈ _
    rw [getLastD_concat]
    by_cases mem : x ∈ D
    · rw [patch_of_mem mem]
      exact (dominion.stays x mem owned).1
    · rw [patch_of_not_mem mem]
      exact (subgame.stayMove_spec (Finset.mem_range.2 inside)).1
  have follows : ∀ i, π i ∈ D → a.Follows false (Finset.range a.size) D f (π i) (π (i + 1)) := by
    intro i mem
    have inside := Finset.mem_range.1 (dominion.subset mem)
    refine ⟨mem, edges i, Finset.mem_range.2 (consistent.target_lt _ inside _ (edges i)),
      fun owned => ?_⟩
    rw [obeys i owned]
    dsimp only
    rw [getLastD_history, patch_of_mem mem]
  exact dominion.winsPlay (dominion.follows_always (first ▸ start) follows)

end Dominions

section Fixpoint

open Classical in
/-- An edge whose offer is the vertex's own number in the least fixpoint, where
there is one: the move by which Even keeps that number. -/
noncomputable def fixMove (a : Arena) (x : Nat) : Nat :=
  if held : ∃ w ∈ (a.vertex x).outgoing, a.offer a.fixRank x w = a.fixRank x then
    Classical.choose held
  else x

/-- The vertices where the least fixpoint is finite. -/
def finiteRegion (a : Arena) : Finset Nat :=
  (Finset.range a.size).filter fun x => a.fixRank x < a.scale.count

theorem mem_finiteRegion {x : Nat} :
    x ∈ a.finiteRegion ↔ x < a.size ∧ a.fixRank x < a.scale.count := by
  rw [finiteRegion, Finset.mem_filter, Finset.mem_range]

theorem Consistent.fixMove_spec (consistent : a.Consistent) {x : Nat} (mem : x ∈ a.finiteRegion)
    (owned : a.Owns true x) :
    a.fixMove x ∈ (a.vertex x).outgoing ∧ a.offer a.fixRank x (a.fixMove x) = a.fixRank x := by
  obtain ⟨inside, finite⟩ := mem_finiteRegion.1 mem
  have fixed := consistent.liftRank_fixRank x inside
  have held : ∃ w ∈ (a.vertex x).outgoing, a.offer a.fixRank x w = a.fixRank x := by
    obtain ⟨w, edge, offered⟩ := exists_offer_eq_liftRank owned (fixed ▸ finite)
    exact ⟨w, edge, offered.trans fixed⟩
  rw [fixMove, dif_pos held]
  exact Classical.choose_spec held

/-- Where the least fixpoint is finite, Even holds the play by `fixMove`: its
moves and all of Odd's keep the number of the least fixpoint or lower it, so
the region is closed, and by `Walk.not_return` no cycle of odd least priority
lies in it. -/
theorem Consistent.dominion_finiteRegion (consistent : a.Consistent) :
    a.Dominion true (Finset.range a.size) a.finiteRegion a.fixMove := by
  -- every move of the region keeps the number finite and does not raise it
  have progress : ∀ u w, a.Follows true (Finset.range a.size) a.finiteRegion a.fixMove u w →
      a.fixRank u < a.scale.count ∧ a.offer a.fixRank u w ≤ a.fixRank u := by
    rintro u w ⟨mem, edge, _, chosen⟩
    obtain ⟨inside, finite⟩ := mem_finiteRegion.1 mem
    refine ⟨finite, ?_⟩
    cases even : (a.vertex u).owner.isEven
    · exact (offer_le_liftRank even edge).trans (consistent.liftRank_fixRank u inside).le
    · rw [chosen even]
      exact (consistent.fixMove_spec mem even).2.le
  have stays : ∀ u w, u ∈ a.finiteRegion → w ∈ (a.vertex u).outgoing →
      a.offer a.fixRank u w ≤ a.fixRank u → w ∈ a.finiteRegion := by
    intro u w mem edge offered
    obtain ⟨inside, finite⟩ := mem_finiteRegion.1 mem
    exact mem_finiteRegion.2 ⟨consistent.target_lt u inside w edge,
      lt_count_of_offer_lt (Nat.lt_of_le_of_lt offered finite)⟩
  refine ⟨Finset.filter_subset _ _, fun x mem owned => ?_, fun x mem other y edge _ => ?_,
    fun v l unfavoured walk => ?_⟩
  · obtain ⟨edge, offered⟩ := consistent.fixMove_spec mem owned
    exact ⟨edge, stays x _ mem edge offered.le⟩
  · have odd : (a.vertex x).owner.isEven = false := Bool.eq_false_iff.2 other
    exact stays x y mem edge ((offer_le_liftRank odd edge).trans
      (consistent.liftRank_fixRank x (mem_finiteRegion.1 mem).1).le)
  · rw [favours_true_iff] at unfavoured
    exact walk.not_return consistent progress (by omega)

/-- Every dominion of Even in the whole arena lies where the least fixpoint is
finite, by the counting argument of `Consistent.fixRank_lt_count_of_moves`. -/
theorem Consistent.fixRank_lt_of_dominion (consistent : a.Consistent) {D : Finset Nat}
    {f : Nat → Nat} (dominion : a.Dominion true (Finset.range a.size) D f) :
    ∀ x ∈ D, a.fixRank x < a.scale.count := by
  have inside : ∀ x ∈ D, x < a.size := fun x mem => Finset.mem_range.1 (dominion.subset mem)
  refine consistent.fixRank_lt_count_of_moves (D := (· ∈ D)) inside
    (fun x y _ move => dominion.follows_mem move) (fun x y _ move => move.2.1)
    (fun x mem even => ?_) (fun x mem odd y edge => ?_) (fun v l _ odd => ?_)
  · obtain ⟨edge, stays⟩ := dominion.stays x mem even
    exact ⟨f x, mem, edge, dominion.subset stays, fun _ => rfl⟩
  · refine ⟨mem, edge, Finset.mem_range.2 (consistent.target_lt x (inside x mem) y edge),
      fun owned => ?_⟩
    exact absurd (owned.symm.trans odd) (by decide)
  · refine dominion.cycles v l ?_
    rw [favours_true_iff]
    omega

/-- An arena that passes `validate` gives every vertex an edge. -/
theorem exists_edge_of_validate (valid : a.validate = .ok ()) :
    ∀ x < a.size, ∃ y, y ∈ (a.vertex x).outgoing := by
  have noFault : a.outgoingFault = none := by
    unfold validate at valid
    split at valid
    · cases valid
    · assumption
  intro x inside
  have atX := List.findSome?_eq_none_iff.1 noFault x (List.mem_range.2 inside)
  dsimp only at atX
  -- past the stored-id check, the next fault is a vertex without an edge
  split at atX
  · cases atX
  split at atX
  · cases atX
  · exact Array.isEmpty_eq_false_iff_exists_mem.1 (Bool.eq_false_iff.2 (by assumption))

theorem Consistent.subgame_of_validate (consistent : a.Consistent) (valid : a.validate = .ok ()) :
    a.Subgame (Finset.range a.size) := by
  intro x mem
  have inside := Finset.mem_range.1 mem
  obtain ⟨y, edge⟩ := exists_edge_of_validate valid x inside
  exact ⟨y, edge, Finset.mem_range.2 (consistent.target_lt x inside y edge)⟩

/-- Odd has a winning strategy from a vertex exactly where the least fixpoint
is at the count, when every vertex can move. -/
theorem Consistent.fixRank_eq_count_iff (consistent : a.Consistent)
    (subgame : a.Subgame (Finset.range a.size)) {v : Nat} (inside : v < a.size) :
    a.fixRank v = a.scale.count ↔ a.OddWins v := by
  constructor
  · intro atCount
    obtain ⟨D, _, ⟨f, even⟩, g, odd⟩ := subgame.splits true
    have outside : v ∉ D := fun mem =>
      absurd atCount (Nat.ne_of_lt (consistent.fixRank_lt_of_dominion even v mem))
    exact odd.oddWins consistent subgame (Finset.mem_sdiff.2 ⟨Finset.mem_range.2 inside, outside⟩)
  · intro wins
    by_contra finite
    have below : a.fixRank v < a.scale.count := lt_of_le_of_ne (a.fixRank_le_count v) finite
    exact consistent.dominion_finiteRegion.not_oddWins consistent
      (mem_finiteRegion.2 ⟨inside, below⟩) wins

end Fixpoint

end Arena

namespace Solver

variable {s t : Solver}

/-- The winners of a sound state name Odd exactly where its number is the
count. -/
theorem Sound.winners_odd_iff (sound : t.Sound) {v : Nat} (inside : v < t.size) :
    t.winners[v]? = some Player.odd ↔ t.rank v = t.arena.scale.count := by
  have inMeasures : v < t.measures.size := sound.coherent.measures_size ▸ inside
  have measureV : t.measure v = t.measures[v] := dif_pos inMeasures
  rw [winners, Array.getElem?_map, Array.getElem?_eq_getElem inMeasures, Option.map_some,
    ← measureV, sound.coherent.rank_eq_ofMaximum, Arena.scale, ← sound.coherent.maximum_eq,
    ← Measure.top_iff_rank (sound.coherent.fits v)]
  cases (t.measure v).top <;> decide

/-- Every strategy, under either lock policy, leaves a sound state over the
same arena whose numbers are at the count exactly where those of the least
fixpoint are: the propagation strategies by `Sound.propagate_count_iff`, the
others because they leave every number exact. -/
theorem solve_rank_count_iff (reachable : s.LiftReachable) (st : Strategy)
    (stops : st = .random →
      randomStops (s.solveStart.budget * 64 * (s.solveStart.size + 1)) s.solveStart = true) :
    (s.solve st).2.1.Sound ∧ (s.solve st).2.1.arena = s.arena ∧ ∀ v < s.size,
      ((s.solve st).2.1.rank v = s.arena.scale.count ↔ s.arena.fixRank v = s.arena.scale.count) := by
  have sound := reachable.sound.solveStart
  have solved : (s.solve st).2.1 = (runStrategy st s.solveStart).1 := rfl
  rw [solved]
  by_cases propagation : st = .propagation ∨ st = .propagationHybrid
  · obtain ⟨hybrid, run⟩ : ∃ hybrid, (runStrategy st s.solveStart).1 =
        (propagate s.solveStart.budget hybrid s.solveStart).1 := by
      rcases propagation with rfl | rfl
      · exact ⟨false, rfl⟩
      · exact ⟨true, rfl⟩
    obtain ⟨grows, counts⟩ : Grows TopSound s.solveStart
        (propagate s.solveStart.budget hybrid s.solveStart).1 ∧ _ :=
      sound.propagate_count_iff (lockSound_solveStart TopSound s) sound.room_lt_budget
    rw [run]
    exact ⟨grows.sound, grows.arena_eq, fun v inside => (counts v inside).2⟩
  · obtain ⟨grows, exact⟩ := sound.runStrategy_exact (lockSound_solveStart Exact s) st
      (fun isPropagation => absurd isPropagation propagation) stops
    refine ⟨grows.sound, grows.arena_eq, fun v inside => ?_⟩
    rw [exact v (grows.size_eq ▸ inside), grows.arena_eq]
    rfl

/-- The solver decides the parity game: for an arena the operations built that
passes `validate`, from any state that lifts reach, every strategy under either
lock policy names Odd as the winner of a vertex exactly when Odd has a winning
strategy from it, the random strategy whenever it stops by its own test. -/
theorem solve_odd_iff_oddWins (reachable : s.LiftReachable) (valid : s.arena.validate = .ok ())
    (st : Strategy)
    (stops : st = .random →
      randomStops (s.solveStart.budget * 64 * (s.solveStart.size + 1)) s.solveStart = true) :
    ∀ v < s.size, ((s.solve st).1[v]? = some Player.odd ↔ s.arena.OddWins v) := by
  intro v inside
  obtain ⟨sound, sameArena, counts⟩ := solve_rank_count_iff reachable st stops
  have consistent := reachable.sound.consistent
  have insideSolved : v < (s.solve st).2.1.size := by rw [size, sameArena]; exact inside
  rw [show (s.solve st).1 = (s.solve st).2.1.winners from rfl, sound.winners_odd_iff insideSolved,
    sameArena, counts v inside]
  exact consistent.fixRank_eq_count_iff (consistent.subgame_of_validate valid) inside

/-- On `Arena.choiceLoops` Odd wins its odd loops and its own vertex, which
can move to one of them, and Even wins its even loop. -/
theorem solve_odd_iff_oddWins_choice :
    let s := new Arena.choiceLoops default .safe
    (s.solve .input).1 = #[.odd, .even, .odd, .odd] ∧
      ∀ v < s.size, ((s.solve .input).1[v]? = some Player.odd ↔ s.arena.OddWins v) := by
  intro s
  have reachable : s.LiftReachable := .new default .safe Arena.reachable_choiceLoops
  exact ⟨by decide +kernel, solve_odd_iff_oddWins reachable Arena.validate_choiceLoops .input
    fun isRandom => absurd isRandom (by decide)⟩

end Solver

end ParityGames
