import ParityGames.Proofs.Locking

/-!
# The least measure an edge asks for

Jurdziński's `prog(μ, v, w)` is the least measure that lies at or above `μ(w)`
on the odd indices up to the priority `p` of `v`, and strictly above it there
when `p` is odd.  The solver computes it by cutting the measure of `w` after
index `p` and, for an odd priority, raising the cut like a counter, which
overflows to `⊤` when every digit it keeps is at its bound.

On fitting measures the partial comparisons compare the numbers of the
prefixes (`Measure.prefixNumber`), which are the ranks divided by the number
of possible suffixes; on numbers `prog` is `Scale.progRank`, so leastness is
arithmetic on quotients.  The main statement, `lift_takes_least_prog`, says
that `prog` meets both partial comparisons and lies at or below every measure
of the lattice that does, that it is `⊤` exactly when the target is `⊤` or
the priority is odd and the target's prefix is at its bounds, and that a lift
sets the lifted measure to the least offer of its edges for an even owner
(`⊤` without edges) and the greatest for any other (zero without edges),
keeps every other measure, and reports a change exactly when the new measure
is not equal to the old one.
-/

namespace ParityGames

open Radix

namespace Measure

variable {M : Maximum} {m n : Measure}

/-- The number of the first `k` odd components of `m` under the bounds of
`M`. -/
def prefixNumber (M : Maximum) (m : Measure) (k : Nat) : Nat :=
  Radix.value (m.odd.toList.take k) (M.bounds.toList.take k)

/-- Comparing fitting measures up to a boundary compares the numbers of their
prefixes. -/
theorem prefixCompare_eq (mFits : m.Fits M) (nFits : n.Fits M) (b : Nat) :
    m.prefixCompare n b =
      Ord.compare (prefixNumber M m (prefixLength b)) (prefixNumber M n (prefixLength b)) :=
  compareLists_eq_compare (List.forall₂_take _ mFits.digits) (List.forall₂_take _ nFits.digits)

/-- The number of a prefix is the rank divided by the number of suffixes. -/
theorem rank_div_radixProduct (fits : m.Fits M) (finite : m.top = false) (k : Nat) :
    (Scale.ofMaximum M).rank m / radixProduct (M.bounds.toList.drop k) = prefixNumber M m k := by
  have remainder := value_lt (List.forall₂_drop k fits.digits)
  rw [Scale.rank_eq_value M fits.length finite, value_take_drop k fits.digits.length_eq,
    prefixNumber, Nat.mul_comm, Nat.mul_add_div (radixProduct_pos _),
    Nat.div_eq_of_lt remainder, Nat.add_zero]

theorem checkBoundary_of_lt (op : PartialOp) (mFits : m.Fits M) (nFits : n.Fits M) {b : Nat}
    (inside : b < M.size) : checkBoundary op m b n = .ok b := by
  simp [checkBoundary, mFits.size_eq, nFits.size_eq, inside]

/-- Up to a boundary inside both measures, `m` is at or above `n` when it is
`⊤`, or when `n` is a vector and the prefix of `m` is at least that of `n`. -/
theorem partialGreaterOrEqual_of_fits (mFits : m.Fits M) (nFits : n.Fits M) {b : Nat}
    (inside : b < M.size) :
    m.partialGreaterOrEqual b n = .ok (m.top || !n.top &&
      decide (prefixNumber M n (prefixLength b) ≤ prefixNumber M m (prefixLength b))) := by
  simp only [partialGreaterOrEqual, checkBoundary_of_lt _ mFits nFits inside,
    prefixCompare_eq mFits nFits, bind, Except.bind, pure, Except.pure]
  cases m.top <;> cases n.top
  case false.false =>
    simp only [Bool.false_eq_true, if_false, Bool.not_false, Bool.true_and, Bool.false_or]
    rw [bne, compare_beq_lt]
    exact congrArg Except.ok (by rw [Bool.eq_iff_iff]; simp)
  all_goals simp

/-- Up to a boundary inside both measures, `m` is strictly above `n` when it is
`⊤`, or when `n` is a vector and the prefix of `m` is above that of `n`. -/
theorem partialGreater_of_fits (mFits : m.Fits M) (nFits : n.Fits M) {b : Nat}
    (inside : b < M.size) :
    m.partialGreater b n = .ok (m.top || !n.top &&
      decide (prefixNumber M n (prefixLength b) < prefixNumber M m (prefixLength b))) := by
  simp only [partialGreater, checkBoundary_of_lt _ mFits nFits inside,
    prefixCompare_eq mFits nFits, bind, Except.bind, pure, Except.pure]
  cases m.top <;> cases n.top
  case false.false =>
    simp only [Bool.false_eq_true, if_false, Bool.not_false, Bool.true_and, Bool.false_or]
    exact congrArg Except.ok (compare_beq_gt _ _)
  all_goals simp

/-- Measures compare as their numbers: a measure is at least another when its
number is. -/
theorem compare_ne_lt_iff (mFits : m.Fits M) (nFits : n.Fits M) :
    m.compare n ≠ .lt ↔ (Scale.ofMaximum M).rank n ≤ (Scale.ofMaximum M).rank m := by
  rw [compare_eq_rank mFits nFits, Ne, Nat.compare_eq_lt, Nat.not_lt]

end Measure

namespace Arena

variable {a : Arena}

/-- A fold of `prefer` ends on its start or on one of the offers. -/
theorem foldl_prefer_eq_or_mem (even : Bool) (l : List Nat) (x : Nat) :
    l.foldl (prefer even) x = x ∨ l.foldl (prefer even) x ∈ l := by
  induction l generalizing x with
  | nil => exact Or.inl rfl
  | cons y ys ih =>
    rw [List.foldl_cons]
    have picked : prefer even x y = x ∨ prefer even x y = y := by
      cases even
      · exact max_choice x y
      · exact min_choice x y
    rcases ih (prefer even x y) with atStart | later
    · rw [atStart]
      rcases picked with same | same <;> rw [same]
      · exact Or.inl rfl
      · exact Or.inr List.mem_cons_self
    · exact Or.inr (List.mem_cons_of_mem y later)

/-- Lifting on numbers folds the offers of the edges, starting from the count
for an even owner and from zero for any other. -/
theorem liftRank_eq_foldl (r : Nat → Nat) (v : Nat) :
    a.liftRank r v = ((a.vertex v).outgoing.toList.map (a.offer r v)).foldl
      (prefer (a.vertex v).owner.isEven)
      (if (a.vertex v).owner.isEven then a.scale.count else 0) := rfl

/-- A vertex without edges gets the start of lifting: the count for an even
owner, zero for any other. -/
theorem liftRank_of_empty {r : Nat → Nat} {v : Nat} (empty : (a.vertex v).outgoing = #[]) :
    a.liftRank r v = if (a.vertex v).owner.isEven then a.scale.count else 0 := by
  rw [liftRank_eq_foldl, empty]
  rfl

/-- A vertex with an edge gets what one of its edges offers: the fold ends on
an offer, or on its start, which lies beyond every offer. -/
theorem liftRank_mem_offers {r : Nat → Nat} {v : Nat} (nonempty : (a.vertex v).outgoing ≠ #[]) :
    ∃ w ∈ (a.vertex v).outgoing, a.liftRank r v = a.offer r v w := by
  obtain ⟨first, edge⟩ := Array.exists_mem_of_ne_empty _ nonempty
  have firstOffered : a.offer r v first ∈ (a.vertex v).outgoing.toList.map (a.offer r v) :=
    List.mem_map_of_mem (Array.mem_toList_iff.2 edge)
  rw [liftRank_eq_foldl]
  rcases foldl_prefer_eq_or_mem (a.vertex v).owner.isEven
      ((a.vertex v).outgoing.toList.map (a.offer r v))
      (if (a.vertex v).owner.isEven then a.scale.count else 0) with atStart | offered
  · refine ⟨first, edge, ?_⟩
    have bounded : a.offer r v first ≤ a.scale.count := Scale.progRank_le_count _ _ _ _
    generalize (a.vertex v).owner.isEven = even at atStart ⊢
    cases even
    · simp only [Bool.false_eq_true, if_false] at atStart ⊢
      have least := (foldl_prefer_odd _ 0).2 _ firstOffered
      omega
    · simp only [if_true] at atStart ⊢
      have most := (foldl_prefer_even _ a.scale.count).2 _ firstOffered
      omega
  · obtain ⟨w, edge, picked⟩ := List.mem_map.1 offered
    exact ⟨w, Array.mem_toList_iff.1 edge, picked.symm⟩

end Arena

namespace Solver

open ParityGames.Measure

variable {M : Maximum} {m n : Measure}

/-- On a vector, the number of `progOf` is that of the prefix it keeps, padded
with zeros for an even priority, and that of the next prefix, or the count
when there is none, for an odd one. -/
theorem rank_progOf_vector (shape : M.bounds.size = M.size / 2) {p : Nat} (inside : p < M.size)
    (nFits : n.Fits M) (finite : n.top = false) :
    (Scale.ofMaximum M).rank (progOf M p n) =
      if p % 2 = 0 then
        prefixNumber M n (prefixLength p) * radixProduct (M.bounds.toList.drop (prefixLength p))
      else min ((prefixNumber M n (prefixLength p) + 1) *
          radixProduct (M.bounds.toList.drop (prefixLength p))) (Scale.ofMaximum M).count := by
  have within := prefixLength_le_bounds shape inside
  have below := rank_lt_count nFits finite
  rw [rank_progOf shape inside nFits]
  by_cases keeps : prefixLength p = 0
  · have atZero : p = 0 := by unfold prefixLength at keeps; omega
    subst atZero
    simp [Scale.progRank, Nat.not_le.2 below, keeps, prefixNumber]
  · have split := value_take_drop (prefixLength p) nFits.digits.length_eq
    rw [← Scale.rank_eq_value M nFits.length finite] at split
    rw [Scale.progRank_of_split _ below inside (by omega) (Scale.getD_weights M (by omega) within)
      split (value_lt (List.forall₂_drop _ nFits.digits)), prefixNumber, Nat.add_mul, Nat.one_mul]

/-- `progOf` lies at or below every fitting measure that is at or above the
target up to the priority, and strictly above it there when the priority is
odd. -/
theorem rank_progOf_le (shape : M.bounds.size = M.size / 2) {p : Nat} (inside : p < M.size)
    (mFits : m.Fits M) (nFits : n.Fits M) (atLeast : m.partialGreaterOrEqual p n = .ok true)
    (above : p % 2 = 1 → m.partialGreater p n = .ok true) :
    (Scale.ofMaximum M).rank (progOf M p n) ≤ (Scale.ofMaximum M).rank m := by
  cases mTop : m.top
  · -- `m` is a vector, so the target is one too, with a prefix at most that of `m`
    rw [partialGreaterOrEqual_of_fits mFits nFits inside, mTop] at atLeast
    obtain ⟨nFinite, prefixLe⟩ : n.top = false ∧
        prefixNumber M n (prefixLength p) ≤ prefixNumber M m (prefixLength p) := by
      simpa using atLeast
    have floor := Nat.div_mul_le_self ((Scale.ofMaximum M).rank m)
      (radixProduct (M.bounds.toList.drop (prefixLength p)))
    rw [rank_div_radixProduct mFits mTop] at floor
    rw [rank_progOf_vector shape inside nFits nFinite]
    split
    · exact le_trans (Nat.mul_le_mul_right _ prefixLe) floor
    · have prefixLt : prefixNumber M n (prefixLength p) < prefixNumber M m (prefixLength p) := by
        have strictly := above (by omega)
        rw [partialGreater_of_fits mFits nFits inside, mTop, nFinite] at strictly
        simpa using strictly
      exact le_trans (Nat.min_le_left _ _) (le_trans (Nat.mul_le_mul_right _ prefixLt) floor)
  · rw [rank_top _ m mTop]
    exact rank_le_count (fits_progOf shape inside nFits)

/-- `progOf` is at or above the target up to the priority, and strictly above
it there when the priority is odd. -/
theorem progOf_meets (shape : M.bounds.size = M.size / 2) {p : Nat} (inside : p < M.size)
    (nFits : n.Fits M) :
    (progOf M p n).partialGreaterOrEqual p n = .ok true ∧
      (p % 2 = 1 → (progOf M p n).partialGreater p n = .ok true) := by
  have progFits := fits_progOf shape inside nFits
  rw [partialGreaterOrEqual_of_fits progFits nFits inside,
    partialGreater_of_fits progFits nFits inside]
  cases progTop : (progOf M p n).top
  · have nFinite : n.top = false := by
      cases nTop : n.top
      · rfl
      · rw [progOf_top inside nFits nTop] at progTop
        cases progTop
    have quotient := rank_div_radixProduct progFits progTop (prefixLength p)
    have finite := rank_lt_count progFits progTop
    have positive := radixProduct_pos (M.bounds.toList.drop (prefixLength p))
    rw [rank_progOf_vector shape inside nFits nFinite] at quotient finite
    simp only [nFinite, Bool.not_false, Bool.true_and, Bool.false_or, Except.ok.injEq,
      decide_eq_true_eq]
    by_cases parity : p % 2 = 0
    · rw [if_pos parity, Nat.mul_div_cancel _ positive] at quotient
      exact ⟨by omega, fun odd => absurd odd (by omega)⟩
    · rw [if_neg parity] at quotient finite
      rw [Nat.min_eq_left (Nat.le_of_lt (Nat.lt_of_not_le fun capped => by
        rw [Nat.min_eq_right capped] at finite; omega)), Nat.mul_div_cancel _ positive] at quotient
      exact ⟨by omega, fun _ => by omega⟩
  · simp

/-- `progOf` is `⊤` exactly when the target is `⊤`, or the priority is odd and
every odd component of the target up to it is at its bound. -/
theorem progOf_top_iff (shape : M.bounds.size = M.size / 2) {p : Nat} (inside : p < M.size)
    (nFits : n.Fits M) :
    (progOf M p n).top = true ↔ n.top = true ∨
      (p % 2 = 1 ∧ ∀ j, 2 * j + 1 ≤ p → n.odd.getD j 0 = M.bounds.getD j 0) := by
  cases nTop : n.top
  · have within := prefixLength_le_bounds shape inside
    have kept : ∀ j, 2 * j + 1 ≤ p ↔ j < prefixLength p := by
      intro j
      unfold prefixLength
      omega
    -- the cut keeps the digits up to the priority, each at most its bound
    have cutDigit : ∀ t < prefixLength p,
        (cutAfter n.odd (prefixLength p) M.bounds.size).getD t 0 = n.odd.getD t 0 := by
      intro t before
      rw [array_getD_eq, array_getD_eq, cut_toList shape inside nFits,
        getElem?_cut (by simp [nFits.length]; omega), if_pos before]
    have digitLe : ∀ t, n.odd.getD t 0 ≤ M.bounds.getD t 0 := by
      intro t
      rw [array_getD_eq, array_getD_eq]
      exact digit_le_bound nFits.digits t
    rw [progOf_vector inside nFits nTop]
    by_cases parity : p % 2 = 0
    · simp [parity]
    · have odd : p % 2 = 1 := by omega
      rw [if_neg parity]
      simp only [odd, Bool.false_eq_true, false_or, true_and]
      split
      · rename_i j found
        obtain ⟨order, below, _⟩ := lastBelow_eq_some found
        rw [cutDigit j order] at below
        simp only [Bool.false_eq_true, false_iff, not_forall]
        exact ⟨j, (kept j).2 order, Nat.ne_of_lt below⟩
      · rename_i none
        have atBounds := lastBelow_eq_none none
        simp only [true_iff]
        intro j keptJ
        have atBound := atBounds j ((kept j).1 keptJ)
        rw [cutDigit j ((kept j).1 keptJ)] at atBound
        exact Nat.le_antisymm (digitLe j) atBound
  · rw [progOf_top inside nFits nTop]
    simp [topOf, zero]

/-- `m` is the least measure of the lattice of `M` that lies at or above `n`
up to the boundary `p`, and strictly above it there when `p` is odd. -/
structure LeastAbove (M : Maximum) (p : Nat) (n m : Measure) : Prop where
  fits : m.Fits M
  atLeast : m.partialGreaterOrEqual p n = .ok true
  above : p % 2 = 1 → m.partialGreater p n = .ok true
  least : ∀ m' : Measure, m'.Fits M → m'.partialGreaterOrEqual p n = .ok true →
    (p % 2 = 1 → m'.partialGreater p n = .ok true) → m.compare m' ≠ .gt

theorem progOf_leastAbove (shape : M.bounds.size = M.size / 2) {p : Nat} (inside : p < M.size)
    (nFits : n.Fits M) : LeastAbove M p n (progOf M p n) where
  fits := fits_progOf shape inside nFits
  atLeast := (progOf_meets shape inside nFits).1
  above := (progOf_meets shape inside nFits).2
  least _ fits' atLeast above := (compare_ne_gt_iff (fits_progOf shape inside nFits) fits').2
    (rank_progOf_le shape inside fits' nFits atLeast above)

section Lift

variable {s : Solver}

theorem Coherent.fits_prog (coherent : s.Coherent) (consistent : s.arena.Consistent) (v w : Nat) :
    (s.prog v w).Fits s.maximum :=
  fits_progOf coherent.shape (coherent.priority_lt consistent v) (coherent.fits w)

/-- The number of `prog` on an edge is what the edge offers on numbers. -/
theorem Coherent.rank_prog (coherent : s.Coherent) (consistent : s.arena.Consistent) (v w : Nat) :
    (Scale.ofMaximum s.maximum).rank (s.prog v w) = s.arena.offer s.rank v w := by
  rw [prog, rank_progOf coherent.shape (coherent.priority_lt consistent v) (coherent.fits w),
    ← coherent.rank_eq_ofMaximum, Arena.offer, Arena.scale, coherent.maximum_eq]

/-- The number of the measure a lift leaves at the lifted vertex is what
lifting gives on numbers. -/
theorem Coherent.rank_lift_measure (coherent : s.Coherent) (consistent : s.arena.Consistent)
    {v : Nat} (inside : v < s.size) :
    (Scale.ofMaximum s.maximum).rank ((s.lift v).2.measure v) = s.arena.liftRank s.rank v := by
  have lifted := coherent.lift consistent v
  rw [← maximum_lift s v, ← lifted.rank_eq_ofMaximum, lift_rank coherent consistent,
    if_pos ⟨rfl, inside⟩]

/-- What one lift of `v` from `s` does, read on measures, with `t` the state
after it and `changed` what it reports. -/
structure LiftOutcome (s : Solver) (v : Nat) (changed : Bool) (t : Solver) : Prop where
  even_least : (s.arena.vertex v).owner.isEven = true →
    ∀ w ∈ (s.arena.vertex v).outgoing, (t.measure v).compare (s.prog v w) ≠ .gt
  other_greatest : (s.arena.vertex v).owner.isEven = false →
    ∀ w ∈ (s.arena.vertex v).outgoing, (t.measure v).compare (s.prog v w) ≠ .lt
  without_edges : (s.arena.vertex v).outgoing = #[] → (t.measure v).equal
    (if (s.arena.vertex v).owner.isEven then topOf s.maximum else zero s.maximum) = true
  offered : (s.arena.vertex v).outgoing ≠ #[] →
    ∃ w ∈ (s.arena.vertex v).outgoing, (t.measure v).equal (s.prog v w) = true
  others : ∀ u, u ≠ v → t.measure u = s.measure u
  changed_iff : changed = true ↔ (t.measure v).equal (s.measure v) = false

/-- A lift sets the lifted measure to the best offer of its edges, keeps the
others, and reports whether the lifted measure moved: every comparison is
one of numbers, where lifting is `Arena.liftRank`. -/
theorem Coherent.liftOutcome (coherent : s.Coherent) (consistent : s.arena.Consistent) {v : Nat}
    (inside : v < s.size) : LiftOutcome s v (s.lift v).1 (s.lift v).2 := by
  have liftedFits : ((s.lift v).2.measure v).Fits s.maximum := by
    rw [← maximum_lift s v]
    exact (coherent.lift consistent v).fits v
  have liftedRank := coherent.rank_lift_measure consistent inside
  have offerRank := coherent.rank_prog consistent v
  have offerFits := coherent.fits_prog consistent v
  refine ⟨fun even w edge => ?_, fun other w edge => ?_, fun empty => ?_, fun nonempty => ?_,
    fun u other => lift_measure_of_ne coherent consistent other, ?_⟩
  · rw [compare_ne_gt_iff liftedFits (offerFits w), liftedRank, offerRank]
    exact Arena.liftRank_le_offer even edge
  · rw [compare_ne_lt_iff liftedFits (offerFits w), liftedRank, offerRank]
    exact Arena.offer_le_liftRank other edge
  · rw [Arena.liftRank_of_empty empty] at liftedRank
    cases even : (s.arena.vertex v).owner.isEven
    · rw [even, if_neg Bool.false_ne_true] at liftedRank
      rw [if_neg Bool.false_ne_true, equal_eq_decide liftedFits (fits_zero _), liftedRank,
        rank_zero]
      rfl
    · rw [even, if_pos rfl] at liftedRank
      rw [if_pos rfl, equal_eq_decide liftedFits (fits_topOf _), liftedRank, rank_top _ _ rfl,
        Arena.scale, coherent.maximum_eq]
      simp
  · obtain ⟨w, edge, picked⟩ := Arena.liftRank_mem_offers (r := s.rank) nonempty
    refine ⟨w, edge, ?_⟩
    rw [equal_eq_decide liftedFits (offerFits w), liftedRank, offerRank, picked]
    simp
  · rw [lift_changed coherent consistent inside, equal_eq_decide liftedFits (coherent.fits v),
      liftedRank, ← coherent.rank_eq_ofMaximum]
    simp

end Lift

/-- Jurdziński's `prog` and the lift built on it.  In a coherent state over a
consistent arena, `prog v w` is the least measure of the lattice that lies at
or above the measure of `w` up to the priority of `v`, strictly above it there
when that priority is odd; it is `⊤` exactly when the measure of `w` is `⊤`, or
the priority is odd and every odd component of the measure of `w` up to it is
at its bound.  Lifting `v` sets its measure to the least of these offers over
its edges for an even owner (`⊤` without edges) and the greatest for any other
(zero without edges), keeps every other measure, and reports a change exactly
when the new measure is not equal to the old one. -/
theorem lift_takes_least_prog {s : Solver} (coherent : s.Coherent) (consistent : s.arena.Consistent)
    {v : Nat} (w : Nat) (inside : v < s.size) :
    LeastAbove s.maximum (s.arena.vertex v).priority (s.measure w) (s.prog v w) ∧
      ((s.prog v w).top = true ↔ (s.measure w).top = true ∨
        ((s.arena.vertex v).priority % 2 = 1 ∧ ∀ j, 2 * j + 1 ≤ (s.arena.vertex v).priority →
          (s.measure w).odd.getD j 0 = s.maximum.bounds.getD j 0)) ∧
      LiftOutcome s v (s.lift v).1 (s.lift v).2 :=
  ⟨progOf_leastAbove coherent.shape (coherent.priority_lt consistent v) (coherent.fits w),
    progOf_top_iff coherent.shape (coherent.priority_lt consistent v) (coherent.fits w),
    coherent.liftOutcome consistent inside⟩

/-- On `Arena.choiceLoops` after lifting `3` and then `0` once: the offer of
`3`'s loop carries from `(0,1)` to `(1,0)`, the offer of `0`'s loop
overflows to `⊤` from `(1,0)` at its bound, and an offer at priority 0 to `3`
truncates `(0,1)` to zero.  Each is the least measure above its source. -/
theorem lift_takes_least_prog_carry :
    let s := (((new Arena.choiceLoops default .safe).lift 3).2.lift 0).2
    (s.measure 3).odd = #[0, 1] ∧ (s.prog 3 3).odd = #[1, 0] ∧
      LeastAbove s.maximum (s.arena.vertex 3).priority (s.measure 3) (s.prog 3 3) ∧
      (s.measure 0).odd = #[1, 0] ∧ (s.prog 0 0).top = true ∧
      ((s.prog 0 0).top = true ↔ (s.measure 0).top = true ∨
        ((s.arena.vertex 0).priority % 2 = 1 ∧ ∀ j, 2 * j + 1 ≤ (s.arena.vertex 0).priority →
          (s.measure 0).odd.getD j 0 = s.maximum.bounds.getD j 0)) ∧
      (s.prog 2 3).odd = #[0, 0] ∧
      LeastAbove s.maximum (s.arena.vertex 2).priority (s.measure 3) (s.prog 2 3) ∧
      LiftOutcome s 3 (s.lift 3).1 (s.lift 3).2 := by
  intro s
  have consistent : Arena.choiceLoops.Consistent := Arena.reachable_choiceLoops.consistent
  have once : ((new Arena.choiceLoops default .safe).lift 3).2.Coherent :=
    (coherent_new _ _ _).lift consistent 3
  have coherent : s.Coherent := once.lift (by rw [arena_lift]; exact consistent) 0
  have sConsistent : s.arena.Consistent := by rw [arena_lift, arena_lift]; exact consistent
  obtain ⟨carry, -, outcome⟩ := lift_takes_least_prog coherent sConsistent 3 (v := 3) (by decide +kernel)
  obtain ⟨-, overflow, -⟩ := lift_takes_least_prog coherent sConsistent 0 (v := 0) (by decide +kernel)
  obtain ⟨truncation, -, -⟩ := lift_takes_least_prog coherent sConsistent 3 (v := 2) (by decide +kernel)
  exact ⟨by decide +kernel, by decide +kernel, carry, by decide +kernel, by decide +kernel, overflow,
    by decide +kernel, truncation, outcome⟩

end Solver

end ParityGames
