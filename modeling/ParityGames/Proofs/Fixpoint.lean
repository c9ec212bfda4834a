import ParityGames.Proofs.Lifting
import Mathlib.Algebra.Order.BigOperators.Group.Finset

/-!
# The least fixpoint of lifting

Lifting is monotone, so applying it to all vertices at once, starting from
all zeros, climbs a chain that stops at the least fixpoint.  Every round that
moves a number raises the sum of the numbers, which is at most the number of
vertices times the count, so that many rounds suffice.  On numbers the result
is `Arena.fixRank`; on measures it is `Solver.leastFixpoint`, which lifts
every vertex at once with `liftValue`.

The invariant `Arena.Below` of the numbers a solver holds says that every
number is at most what lifting would give it and at most the least fixpoint.
It holds of all zeros and one lift keeps it, so it holds of every state that
lifts reach from a fresh or reset solver: there every lift raises the measure
it sets, and no measure passes the least fixpoint (`liftReachable_below_fixpoint`).
-/

namespace ParityGames

open ParityGames.Measure

namespace Arena

variable (a : Arena)

/-- The lifting operator applied `k` times to all zeros. -/
def rankIterate (k : Nat) : Nat → Nat := a.liftRank^[k] fun _ => 0

/-- The least fixpoint of the lifting operator on numbers: as many rounds
from all zeros as there are vertices times the count. -/
def fixRank : Nat → Nat := a.rankIterate (a.size * a.scale.count)

/-- The sum of the numbers of the vertices. -/
def potential (r : Nat → Nat) : Nat := ∑ v ∈ Finset.range a.size, r v

variable {a}

theorem Consistent.lt_size (consistent : a.Consistent) {v w : Nat}
    (mem : w ∈ (a.vertex v).outgoing) : w < a.size :=
  consistent.target_lt v (lt_size_of_mem_outgoing mem) w mem

/-- Lifting reads the numbers of the successors only. -/
theorem liftRank_congr {r r' : Nat → Nat} {v : Nat}
    (same : ∀ w ∈ (a.vertex v).outgoing, r w = r' w) : a.liftRank r v = a.liftRank r' v :=
  Nat.le_antisymm (a.liftRank_mono fun w mem => (same w mem).le)
    (a.liftRank_mono fun w mem => (same w mem).ge)

theorem Consistent.liftRank_mono (consistent : a.Consistent) {r r' : Nat → Nat}
    (le : ∀ w < a.size, r w ≤ r' w) (v : Nat) : a.liftRank r v ≤ a.liftRank r' v :=
  a.liftRank_mono fun w mem => le w (consistent.lt_size mem)

theorem Consistent.liftRank_congr (consistent : a.Consistent) {r r' : Nat → Nat}
    (same : ∀ w < a.size, r w = r' w) (v : Nat) : a.liftRank r v = a.liftRank r' v :=
  Arena.liftRank_congr fun w mem => same w (consistent.lt_size mem)

theorem rankIterate_succ (k : Nat) : a.rankIterate (k + 1) = a.liftRank (a.rankIterate k) :=
  Function.iterate_succ_apply' _ _ _

theorem rankIterate_le_count (k v : Nat) : a.rankIterate k v ≤ a.scale.count := by
  cases k with
  | zero => exact Nat.zero_le _
  | succ k =>
    rw [rankIterate_succ]
    exact a.liftRank_le_count _ v

/-- The rounds climb. -/
theorem Consistent.rankIterate_le_succ (consistent : a.Consistent) (k : Nat) :
    ∀ v < a.size, a.rankIterate k v ≤ a.rankIterate (k + 1) v := by
  induction k with
  | zero => exact fun _ _ => Nat.zero_le _
  | succ k ih =>
    intro v _
    rw [rankIterate_succ k, rankIterate_succ (k + 1)]
    exact consistent.liftRank_mono ih v

theorem potential_le (r : Nat → Nat) (bounded : ∀ v < a.size, r v ≤ a.scale.count) :
    a.potential r ≤ a.size * a.scale.count := by
  have total := Finset.sum_le_card_nsmul (Finset.range a.size) r a.scale.count
    (fun v mem => bounded v (Finset.mem_range.1 mem))
  simpa [potential] using total

/-- Numbers that rise nowhere and somewhere strictly have a larger sum. -/
theorem potential_lt {r r' : Nat → Nat} (le : ∀ v < a.size, r v ≤ r' v)
    (moved : ∃ v < a.size, r v ≠ r' v) : a.potential r < a.potential r' := by
  obtain ⟨v, inside, differs⟩ := moved
  exact Finset.sum_lt_sum (fun u mem => le u (Finset.mem_range.1 mem))
    ⟨v, Finset.mem_range.2 inside, Nat.lt_of_le_of_ne (le v inside) differs⟩

/-- Each round either changes nothing or has raised the sum of the numbers
above the number of rounds so far. -/
theorem Consistent.stable_or_potential (consistent : a.Consistent) (k : Nat) :
    (∀ v < a.size, a.rankIterate (k + 1) v = a.rankIterate k v) ∨
      k < a.potential (a.rankIterate (k + 1)) := by
  induction k with
  | zero =>
    by_cases stable : ∀ v < a.size, a.rankIterate 1 v = a.rankIterate 0 v
    · exact Or.inl stable
    · right
      push Not at stable
      obtain ⟨v, inside, moved⟩ := stable
      exact Nat.lt_of_le_of_lt (Nat.zero_le _)
        (potential_lt (consistent.rankIterate_le_succ 0) ⟨v, inside, Ne.symm moved⟩)
  | succ k ih =>
    rcases ih with stable | growth
    · left
      intro v _
      rw [rankIterate_succ (k + 1)]
      conv_rhs => rw [rankIterate_succ k]
      exact consistent.liftRank_congr stable v
    · by_cases stable : ∀ v < a.size, a.rankIterate (k + 2) v = a.rankIterate (k + 1) v
      · exact Or.inl stable
      · right
        push Not at stable
        obtain ⟨v, inside, moved⟩ := stable
        have rises := potential_lt (consistent.rankIterate_le_succ (k + 1)) ⟨v, inside, Ne.symm moved⟩
        omega

/-- `fixRank` is a fixpoint of lifting. -/
theorem Consistent.liftRank_fixRank (consistent : a.Consistent) :
    ∀ v < a.size, a.liftRank a.fixRank v = a.fixRank v := by
  rcases consistent.stable_or_potential (a.size * a.scale.count) with stable | growth
  · intro v inside
    rw [fixRank, ← rankIterate_succ]
    exact stable v inside
  · have bounded := potential_le (a.rankIterate (a.size * a.scale.count + 1))
      (fun v _ => a.rankIterate_le_count _ v)
    omega

/-- Every round lies below every pre-fixpoint of lifting. -/
theorem Consistent.rankIterate_le (consistent : a.Consistent) {r : Nat → Nat}
    (pre : ∀ v < a.size, a.liftRank r v ≤ r v) (k : Nat) : ∀ v < a.size, a.rankIterate k v ≤ r v := by
  induction k with
  | zero => exact fun _ _ => Nat.zero_le _
  | succ k ih =>
    intro v inside
    rw [rankIterate_succ]
    exact Nat.le_trans (consistent.liftRank_mono ih v) (pre v inside)

/-- `fixRank` lies below every pre-fixpoint of lifting, so it is the least
fixpoint. -/
theorem Consistent.fixRank_le (consistent : a.Consistent) {r : Nat → Nat}
    (pre : ∀ v < a.size, a.liftRank r v ≤ r v) : ∀ v < a.size, a.fixRank v ≤ r v :=
  consistent.rankIterate_le pre _

theorem fixRank_le_count (v : Nat) : a.fixRank v ≤ a.scale.count :=
  a.rankIterate_le_count _ v

section Below

/-- Numbers that lie below what lifting gives them and below the least
fixpoint. -/
structure Below (a : Arena) (r : Nat → Nat) : Prop where
  le_liftRank : ∀ v < a.size, r v ≤ a.liftRank r v
  le_fixRank : ∀ v < a.size, r v ≤ a.fixRank v

theorem below_zero (a : Arena) : a.Below fun _ => 0 :=
  ⟨fun _ _ => Nat.zero_le _, fun _ _ => Nat.zero_le _⟩

/-- One lift keeps the numbers below lifting and below the least fixpoint:
it raises the lifted number, so lifting, being monotone, gives every vertex
at least as much as before. -/
theorem Below.lift (consistent : a.Consistent) {r : Nat → Nat} (below : a.Below r) (v : Nat) :
    a.Below fun u => if u = v ∧ v < a.size then a.liftRank r v else r u := by
  have rises : ∀ u < a.size, r u ≤ if u = v ∧ v < a.size then a.liftRank r v else r u := by
    intro u inside
    split
    · rename_i atV
      rw [atV.1]
      exact below.le_liftRank v atV.2
    · exact Nat.le_refl _
  refine ⟨?_, ?_⟩
  · intro u inside
    split
    · rename_i atV
      obtain ⟨rfl, _⟩ := atV
      exact consistent.liftRank_mono rises u
    · exact Nat.le_trans (below.le_liftRank u inside) (consistent.liftRank_mono rises u)
  · intro u inside
    split
    · rename_i atV
      obtain ⟨rfl, _⟩ := atV
      calc a.liftRank r u ≤ a.liftRank a.fixRank u := consistent.liftRank_mono below.le_fixRank u
        _ = a.fixRank u := consistent.liftRank_fixRank u inside
    · exact below.le_fixRank u inside

theorem Below.le_count {r : Nat → Nat} (below : a.Below r) {v : Nat} (inside : v < a.size) :
    r v ≤ a.scale.count :=
  Nat.le_trans (below.le_fixRank v inside) (fixRank_le_count v)

/-- Numbers below the least fixpoint that lifting does not raise are the
least fixpoint. -/
theorem Below.eq_fixRank (consistent : a.Consistent) {r : Nat → Nat} (below : a.Below r)
    (pre : ∀ v < a.size, a.liftRank r v ≤ r v) : ∀ v < a.size, r v = a.fixRank v :=
  fun v inside => Nat.le_antisymm (below.le_fixRank v inside) (consistent.fixRank_le pre v inside)

end Below

end Arena

namespace Measure

variable {M : Maximum}

/-- Measures compare as their numbers: a measure is at most another when its
number is. -/
theorem compare_ne_gt_iff {m n : Measure} (mFits : m.Fits M) (nFits : n.Fits M) :
    m.compare n ≠ .gt ↔ (Scale.ofMaximum M).rank m ≤ (Scale.ofMaximum M).rank n := by
  rw [compare_eq_rank mFits nFits, Ne, Nat.compare_eq_gt, Nat.not_lt]

end Measure

namespace Solver

variable {s : Solver}

theorem Coherent.rank_eq_ofMaximum (coherent : s.Coherent) (v : Nat) :
    s.rank v = (Scale.ofMaximum s.maximum).rank (s.measure v) := by
  rw [coherent.rank_eq, coherent.scale_eq_ofMaximum]

theorem foldl_mul_succ (l : List Nat) (k : Nat) :
    l.foldl (fun n b => n * (b + 1)) k = k * l.foldr (fun b w => (b + 1) * w) 1 := by
  induction l generalizing k with
  | nil => simp
  | cons b bs ih => rw [List.foldl_cons, ih, List.foldr_cons, Nat.mul_assoc]

/-- `measureCount` is the number of finite measures of the scale. -/
theorem Coherent.measureCount_eq (coherent : s.Coherent) : s.measureCount = s.arena.scale.count := by
  rw [measureCount, ← Array.foldl_toList, foldl_mul_succ, Nat.one_mul, Arena.scale,
    ← coherent.maximum_eq, Scale.ofMaximum, Array.foldr_toList]

/-- The states of a solver whose numbers lie below lifting and below the least
fixpoint of its arena. -/
structure Sound (s : Solver) : Prop where
  coherent : s.Coherent
  consistent : s.arena.Consistent
  below : s.arena.Below s.rank

theorem lift_rank_eq (coherent : s.Coherent) (consistent : s.arena.Consistent) (v : Nat) :
    (s.lift v).2.rank =
      fun u => if u = v ∧ v < s.arena.size then s.arena.liftRank s.rank v else s.rank u :=
  funext fun u => lift_rank coherent consistent u v

theorem Sound.lift (sound : s.Sound) (v : Nat) : (s.lift v).2.Sound := by
  refine ⟨sound.coherent.lift sound.consistent v, ?_, ?_⟩
  · rw [arena_lift]
    exact sound.consistent
  · rw [arena_lift, lift_rank_eq sound.coherent sound.consistent]
    exact sound.below.lift sound.consistent v

theorem Sound.liftChecked (sound : s.Sound) (v : Int) : (s.liftChecked v).1.Sound := by
  rw [liftChecked_fst]
  split
  · exact sound.lift v.toNat
  · exact ⟨{ sound.coherent with }, sound.consistent, sound.below⟩

theorem sound_new {a : Arena} (consistent : a.Consistent) (g : Random.Generator)
    (policy : LockPolicy) : (new a g policy).Sound := by
  have ranks : (new a g policy).rank = fun _ => 0 := funext fun v => getD_replicate a.size v 0
  refine ⟨coherent_new a g policy, consistent, ?_⟩
  rw [ranks]
  exact Arena.below_zero _

theorem Sound.reset (sound : s.Sound) : s.reset.Sound := by
  have ranks : s.reset.rank = fun _ => 0 := funext (rank_reset s)
  refine ⟨sound.coherent.reset, sound.consistent, ?_⟩
  rw [ranks]
  exact Arena.below_zero _

section LeastFixpoint

/-- The lifting operator on whole assignments: every vertex takes the value
lifting gives it, all from the same measures. -/
def liftEvery (s : Solver) : Solver :=
  let measures := (Array.range s.size).map s.liftValue
  { s with measures, ranks := measures.map s.scale.rank }

/-- The least fixpoint of the lifting operator over the arena of `s`: the
rounds of `liftEvery` from a fresh solver, as many as there are vertices
times finite measures.  It depends on the arena alone. -/
def leastFixpoint (s : Solver) : Solver :=
  let start := new s.arena default .safe
  liftEvery^[start.size * start.measureCount] start

theorem measure_liftEvery (s : Solver) (v : Nat) :
    (liftEvery s).measure v = if v < s.size then s.liftValue v else zero s.maximum := by
  rw [measure_eq_getD]
  change ((Array.range s.size).map s.liftValue).getD v (zero s.maximum) = _
  simp only [Array.getD_eq_getD_getElem?, Array.getElem?_map, Array.getElem?_range]
  split <;> rfl

theorem rank_liftEvery (s : Solver) (v : Nat) :
    (liftEvery s).rank v = if v < s.size then s.scale.rank (s.liftValue v) else 0 := by
  rw [rank_eq_getD]
  change (((Array.range s.size).map s.liftValue).map s.scale.rank).getD v 0 = _
  simp only [Array.getD_eq_getD_getElem?, Array.getElem?_map, Array.getElem?_range]
  split <;> rfl

/-- One round of lifting every vertex keeps a state coherent, and sets every
number to what `Arena.liftRank` gives. -/
theorem Coherent.liftEvery (coherent : s.Coherent) (consistent : s.arena.Consistent) :
    (Solver.liftEvery s).Coherent ∧
      ∀ v < s.size, (Solver.liftEvery s).rank v = s.arena.liftRank s.rank v := by
  have lifted := rank_liftValue coherent consistent
  refine ⟨⟨coherent.maximum_eq, coherent.scale_eq, by simp [Solver.liftEvery, size],
    by simp [Solver.liftEvery, size], ?_, ?_⟩, ?_⟩
  · intro v
    change ((Solver.liftEvery s).measure v).Fits s.maximum
    rw [measure_liftEvery]
    split
    · exact (lifted v).1
    · exact fits_zero _
  · intro v
    change (Solver.liftEvery s).rank v = s.scale.rank ((Solver.liftEvery s).measure v)
    rw [measure_liftEvery, rank_liftEvery]
    split
    · rfl
    · rw [coherent.scale_eq_ofMaximum, rank_zero]
  · intro v inside
    rw [rank_liftEvery, if_pos inside]
    exact (lifted v).2

/-- The rounds of `liftEvery` from a fresh solver carry the numbers of
`Arena.rankIterate`. -/
theorem iterate_liftEvery {a : Arena} (consistent : a.Consistent) (g : Random.Generator)
    (policy : LockPolicy) (k : Nat) :
    (liftEvery^[k] (new a g policy)).Coherent ∧ (liftEvery^[k] (new a g policy)).arena = a ∧
      ∀ v < a.size, (liftEvery^[k] (new a g policy)).rank v = a.rankIterate k v := by
  induction k with
  | zero =>
    refine ⟨coherent_new a g policy, rfl, fun v _ => getD_replicate a.size v 0⟩
  | succ k ih =>
    obtain ⟨coherent, sameArena, ranks⟩ := ih
    rw [Function.iterate_succ_apply']
    have round := coherent.liftEvery (by rw [sameArena]; exact consistent)
    refine ⟨round.1, sameArena, fun v inside => ?_⟩
    rw [round.2 v (by rw [size, sameArena]; exact inside), Arena.rankIterate_succ, sameArena]
    exact consistent.liftRank_congr ranks v

theorem leastFixpoint_congr {t : Solver} (sameArena : t.arena = s.arena) :
    t.leastFixpoint = s.leastFixpoint := by
  simp only [leastFixpoint, size, sameArena]

/-- The least fixpoint is coherent and carries the numbers of `Arena.fixRank`. -/
theorem leastFixpoint_spec (consistent : s.arena.Consistent) :
    s.leastFixpoint.Coherent ∧ s.leastFixpoint.arena = s.arena ∧
      ∀ v < s.size, s.leastFixpoint.rank v = s.arena.fixRank v := by
  rw [Solver.leastFixpoint, (coherent_new s.arena default .safe).measureCount_eq]
  exact iterate_liftEvery consistent default .safe _

/-- The least fixpoint is a fixpoint of lifting: lifting any vertex gives a
measure equal to its own. -/
theorem leastFixpoint_fixed (consistent : s.arena.Consistent) :
    ∀ v < s.size, (s.leastFixpoint.liftValue v).equal (s.leastFixpoint.measure v) = true := by
  obtain ⟨fixCoherent, sameArena, ranks⟩ := leastFixpoint_spec consistent
  intro v inside
  have lifted := rank_liftValue fixCoherent (sameArena ▸ consistent) v
  rw [equal_eq_decide lifted.1 (fixCoherent.fits v), decide_eq_true_iff,
    ← fixCoherent.scale_eq_ofMaximum, lifted.2, ← fixCoherent.rank_eq, sameArena, ranks v inside,
    consistent.liftRank_congr ranks, consistent.liftRank_fixRank v inside]

/-- The least fixpoint lies below every assignment of fitting measures that
lifting does not raise anywhere. -/
theorem leastFixpoint_least (consistent : s.arena.Consistent) {t : Solver}
    (sameArena : t.arena = s.arena) (tMaximum : t.maximum = maximumOf t.arena)
    (fits : ∀ w, (t.measure w).Fits t.maximum)
    (pre : ∀ v < s.size, (t.liftValue v).compare (t.measure v) ≠ .gt) :
    ∀ v < s.size, (s.leastFixpoint.measure v).compare (t.measure v) ≠ .gt := by
  obtain ⟨fixCoherent, fixArena, ranks⟩ := leastFixpoint_spec consistent
  -- the numbers of `t` are a pre-fixpoint of lifting on numbers
  have tPre : ∀ v < s.arena.size, s.arena.liftRank
      (fun w => (Scale.ofMaximum t.maximum).rank (t.measure w)) v ≤
        (Scale.ofMaximum t.maximum).rank (t.measure v) := by
    intro v inside
    have lifted := rank_liftValue_of_fits tMaximum fits (sameArena ▸ consistent) v
    rw [← sameArena, ← lifted.2]
    exact (compare_ne_gt_iff lifted.1 (fits v)).1 (pre v inside)
  have fixMaximum : s.leastFixpoint.maximum = t.maximum := by
    rw [fixCoherent.maximum_eq, fixArena, tMaximum, sameArena]
  intro v inside
  have fixFits := fixCoherent.fits v
  rw [fixMaximum] at fixFits
  rw [compare_ne_gt_iff fixFits (fits v), ← fixMaximum, ← fixCoherent.rank_eq_ofMaximum,
    ranks v inside, fixMaximum]
  exact consistent.fixRank_le tPre v inside

end LeastFixpoint

section Reachable

/-- Of two coherent states over one maximum, a number that does not drop
gives a measure that does not drop, and a `⊤` measure stays `⊤`. -/
theorem Coherent.measure_rises {t : Solver} (coherent : s.Coherent) (tCoherent : t.Coherent)
    (sameMaximum : t.maximum = s.maximum) {x : Nat} (le : s.rank x ≤ t.rank x) :
    (s.measure x).compare (t.measure x) ≠ .gt ∧
      ((s.measure x).top = true → (t.measure x).top = true) := by
  have sFits := coherent.fits x
  have tFits := tCoherent.fits x
  rw [sameMaximum] at tFits
  have ranks : (Scale.ofMaximum s.maximum).rank (s.measure x) ≤
      (Scale.ofMaximum s.maximum).rank (t.measure x) := by
    rw [← coherent.rank_eq_ofMaximum, ← sameMaximum, ← tCoherent.rank_eq_ofMaximum]
    exact le
  refine ⟨(compare_ne_gt_iff sFits tFits).2 ranks, fun top => ?_⟩
  rw [top_iff_rank tFits]
  have atCount := (top_iff_rank sFits).1 top
  have bounded := rank_le_count tFits
  omega

/-- A lift never lowers the number of the vertex it lifts. -/
theorem Sound.rank_le_lift (sound : s.Sound) (x : Nat) : s.rank x ≤ (s.lift x).2.rank x := by
  rw [lift_rank sound.coherent sound.consistent]
  split
  · rename_i inside
    exact sound.below.le_liftRank x inside.2
  · exact Nat.le_refl _

/-- The states that lifts reach from a fresh solver over an arena the
operations built, with resets on the way.  The lifts are given from outside:
any id, in any order. -/
inductive LiftReachable : Solver → Prop
  | new {a : Arena} (g : Random.Generator) (policy : LockPolicy) :
      a.Reachable → LiftReachable (new a g policy)
  | lift {s : Solver} (v : Int) : LiftReachable s → LiftReachable (s.liftChecked v).1
  | reset {s : Solver} : LiftReachable s → LiftReachable s.reset

theorem LiftReachable.sound (reachable : s.LiftReachable) : s.Sound := by
  induction reachable with
  | new g policy built => exact sound_new built.consistent g policy
  | lift v _ ih => exact ih.liftChecked v
  | reset _ ih => exact ih.reset

/-- What holds of a state that lifts reach from zero: every measure lies below
what lifting gives it and below the least fixpoint, finite measures stay within
the maximum, and a further lift raises the measure it sets or keeps it, keeps
`⊤` at `⊤`, and leaves every other measure as it was. -/
structure LiftInvariant (s : Solver) : Prop where
  below_liftValue : ∀ u < s.size, (s.measure u).compare (s.liftValue u) ≠ .gt
  below_leastFixpoint : ∀ u < s.size, (s.measure u).compare (s.leastFixpoint.measure u) ≠ .gt
  within_maximum : ∀ u, (s.measure u).top = false →
    List.Forall₂ (· ≤ ·) (s.measure u).odd.toList (Measure.ofMaximum s.maximum).odd.toList
  lift_rises : ∀ v : Int, (s.measure v.toNat).compare ((s.liftChecked v).1.measure v.toNat) ≠ .gt
  lift_keeps_top : ∀ v : Int,
    (s.measure v.toNat).top = true → ((s.liftChecked v).1.measure v.toNat).top = true
  lift_keeps_others : ∀ v : Int, ∀ u, u ≠ v.toNat → (s.liftChecked v).1.measure u = s.measure u

/-- Every state that lifts reach from a fresh or reset solver lies below the
lifting operator and below the least fixpoint, and so does every lift after. -/
theorem liftReachable_below_fixpoint (reachable : s.LiftReachable) : s.LiftInvariant := by
  have sound := reachable.sound
  have coherent := sound.coherent
  obtain ⟨fixCoherent, fixArena, fixRanks⟩ := leastFixpoint_spec sound.consistent
  have fixMaximum : s.leastFixpoint.maximum = s.maximum := by
    rw [fixCoherent.maximum_eq, fixArena, coherent.maximum_eq]
  -- the effect of one lift given from outside, on the lifted vertex and the others
  have lifted : ∀ v : Int,
      ((s.measure v.toNat).compare ((s.liftChecked v).1.measure v.toNat) ≠ .gt ∧
        ((s.measure v.toNat).top = true → ((s.liftChecked v).1.measure v.toNat).top = true)) ∧
      ∀ u, u ≠ v.toNat → (s.liftChecked v).1.measure u = s.measure u := by
    intro v
    rw [liftChecked_fst]
    split
    · exact ⟨coherent.measure_rises (sound.lift v.toNat).coherent (maximum_lift s v.toNat)
        (sound.rank_le_lift v.toNat),
        fun u other => lift_measure_of_ne coherent sound.consistent other⟩
    · exact ⟨coherent.measure_rises coherent rfl (Nat.le_refl (s.rank v.toNat)),
        fun _ _ => rfl⟩
  refine ⟨fun u inside => ?_, fun u inside => ?_, fun u _ => (coherent.fits u).digits,
    fun v => (lifted v).1.1, fun v => (lifted v).1.2, fun v => (lifted v).2⟩
  · have value := rank_liftValue coherent sound.consistent u
    rw [compare_ne_gt_iff (coherent.fits u) value.1, ← coherent.rank_eq_ofMaximum,
      ← coherent.scale_eq_ofMaximum, value.2]
    exact sound.below.le_liftRank u inside
  · have fixFits := fixCoherent.fits u
    rw [fixMaximum] at fixFits
    rw [compare_ne_gt_iff (coherent.fits u) fixFits, ← coherent.rank_eq_ofMaximum, ← fixMaximum,
      ← fixCoherent.rank_eq_ofMaximum, fixRanks u inside]
    exact sound.below.le_fixRank u inside

/-- Lifting `3` of `Arena.choiceLoops` twice, the second time with a carry
from `(0,1)` to `(1,0)`, and then `0` once reaches a state below lifting and
below the least fixpoint. -/
theorem liftInvariant_choice_lifted :
    let s := ((((new Arena.choiceLoops default .safe).liftChecked 3).1.liftChecked 3).1.liftChecked 0).1
    (s.measure 3).odd = #[1, 0] ∧ (s.measure 0).odd = #[1, 0] ∧ s.LiftInvariant := by
  intro s
  have reachable : s.LiftReachable :=
    .lift 0 (.lift 3 (.lift 3 (.new default .safe Arena.reachable_choiceLoops)))
  exact ⟨by decide +kernel, by decide +kernel, liftReachable_below_fixpoint reachable⟩

/-- A vertex of a sound state whose number is that of the least fixpoint holds
its measure there. -/
theorem Sound.equal_leastFixpoint_at (sound : s.Sound) {v : Nat} (inside : v < s.size)
    (exact : s.rank v = s.arena.fixRank v) :
    (s.measure v).equal (s.leastFixpoint.measure v) = true := by
  obtain ⟨fixCoherent, fixArena, fixRanks⟩ := leastFixpoint_spec sound.consistent
  have fixMaximum : s.leastFixpoint.maximum = s.maximum := by
    rw [fixCoherent.maximum_eq, fixArena, sound.coherent.maximum_eq]
  have fixFits := fixCoherent.fits v
  rw [fixMaximum] at fixFits
  rw [equal_eq_decide (sound.coherent.fits v) fixFits, decide_eq_true_iff,
    ← sound.coherent.rank_eq_ofMaximum, ← fixMaximum, ← fixCoherent.rank_eq_ofMaximum,
    fixRanks v inside]
  exact exact

/-- A sound state whose numbers are those of the least fixpoint holds its
measures. -/
theorem Sound.equal_leastFixpoint (sound : s.Sound)
    (exact : ∀ v < s.size, s.rank v = s.arena.fixRank v) :
    ∀ v < s.size, (s.measure v).equal (s.leastFixpoint.measure v) = true :=
  fun v inside => sound.equal_leastFixpoint_at inside (exact v inside)

end Reachable

end Solver

end ParityGames
