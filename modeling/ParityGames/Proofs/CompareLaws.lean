import ParityGames.Measure.Basic

/-!
# The order of measures

`Measure.compare` places `⊤` above every vector and orders vectors
lexicographically from the lowest odd index, a proper prefix first.  On
vectors it is core's lexicographic order of the component lists
(`compare_of_finite`), so it keeps that order's laws whatever the sizes of the
measures: swapping the operands swaps the answer, and `≤` is transitive
(`Std.TransCmp Measure.compare`).  It answers `.eq` exactly where
`Measure.equal` holds, so two `⊤`s are one element whatever components they
hide, and `less` and `greater` read its answer.

At the last index of a measure the partial comparisons see every component:
for a vector `a` and a measure `b` of its size, each with one component per odd
index, `partialGreater` and `partialGreaterOrEqual` at `size - 1` answer as
`greater` and as not `less` (`partialGreater_last`,
`partialGreaterOrEqual_last`).
-/

namespace ParityGames

namespace Measure

variable {a b c m n : Measure}

section Total

/-- The comparison of component lists is core's lexicographic order. -/
theorem compareLists_eq_lex : ∀ xs ys : List Nat, compareLists xs ys = Ord.compare xs ys
  | [], [] => rfl
  | [], _ :: _ => rfl
  | _ :: _, [] => rfl
  | x :: xs, y :: ys => by
    rw [compareLists, List.compare_cons_cons, ← compareLists_eq_lex xs ys]
    rcases Nat.lt_trichotomy x y with below | same | above
    · simp [below, Nat.compare_eq_lt.2 below]
    · subst same
      simp
    · simp [above, Nat.not_lt.2 (Nat.le_of_lt above), Nat.compare_eq_gt.2 above]

/-- Vectors compare as the lists of their components. -/
theorem compare_of_finite (mFinite : m.top = false) (nFinite : n.top = false) :
    m.compare n = Ord.compare m.odd.toList n.odd.toList := by
  rw [compare_vectors m n mFinite nFinite, compareLists_eq_lex]

theorem compare_swap (m n : Measure) : m.compare n = (n.compare m).swap := by
  cases mTop : m.top <;> cases nTop : n.top
  case false.false =>
    rw [compare_of_finite mTop nTop, compare_of_finite nTop mTop]
    exact Std.OrientedOrd.eq_swap
  all_goals simp [compare, mTop, nTop]

/-- `≤` is transitive: among vectors by the lists, and `⊤` lies above all. -/
theorem compare_isLE_trans (ab : (a.compare b).isLE) (bc : (b.compare c).isLE) :
    (a.compare c).isLE := by
  cases aTop : a.top <;> cases bTop : b.top <;> cases cTop : c.top
  case false.false.false =>
    rw [compare_of_finite aTop bTop] at ab
    rw [compare_of_finite bTop cTop] at bc
    rw [compare_of_finite aTop cTop]
    exact Std.TransOrd.isLE_trans ab bc
  all_goals simp_all [compare]

instance : Std.TransCmp Measure.compare where
  eq_swap {m n} := compare_swap m n
  isLE_trans := compare_isLE_trans

/-- The order calls two measures the same exactly when `equal` does: two `⊤`s
always, two vectors when their components agree. -/
theorem compare_eq_eq_iff : m.compare n = .eq ↔ m.equal n = true := by
  cases mTop : m.top <;> cases nTop : n.top
  case false.false =>
    rw [compare_of_finite mTop nTop, Std.LawfulEqOrd.compare_eq_iff_eq, Array.toList_inj]
    simp [equal, mTop, nTop]
  all_goals simp [compare, equal, mTop, nTop]

theorem less_iff : m.less n = true ↔ m.compare n = .lt := by
  simp [less]

theorem greater_iff : m.greater n = true ↔ m.compare n = .gt := by
  simp [greater]

end Total

section Last

variable (finite : a.top = false) (sameSize : b.size = a.size) (nonempty : 0 < a.size)
  (aShape : a.odd.size = a.size / 2) (bShape : b.odd.size = b.size / 2)

include sameSize nonempty in
theorem checkBoundary_last (op : PartialOp) :
    checkBoundary op a ((a.size : Int) - 1) b = .ok (a.size - 1) := by
  unfold checkBoundary
  rw [if_neg (by simp only [Bool.or_eq_true, decide_eq_true_eq]; omega)]
  congr 1
  omega

include sameSize nonempty aShape bShape in
/-- Up to the last index the prefixes are the whole component lists. -/
theorem prefixCompare_last :
    a.prefixCompare b (a.size - 1) = compareLists a.odd.toList b.odd.toList := by
  have kept : prefixLength (a.size - 1) = a.size / 2 := by
    unfold prefixLength
    omega
  rw [prefixCompare, kept, List.take_of_length_le (by simp; omega),
    List.take_of_length_le (by simp; omega)]

include finite sameSize nonempty aShape bShape in
theorem partialGreater_last : a.partialGreater ((a.size : Int) - 1) b = .ok (a.greater b) := by
  simp only [partialGreater, checkBoundary_last sameSize nonempty, finite, bind, Except.bind,
    pure, Except.pure, Bool.false_eq_true, if_false]
  cases bTop : b.top
  · rw [if_neg (by simp), prefixCompare_last sameSize nonempty aShape bShape, greater,
      compare_vectors a b finite bTop]
  · simp [greater, compare, finite, bTop]

include finite sameSize nonempty aShape bShape in
theorem partialGreaterOrEqual_last :
    a.partialGreaterOrEqual ((a.size : Int) - 1) b = .ok (!a.less b) := by
  simp only [partialGreaterOrEqual, checkBoundary_last sameSize nonempty, finite, bind,
    Except.bind, pure, Except.pure, Bool.false_eq_true, if_false]
  cases bTop : b.top
  · rw [if_neg (by simp), prefixCompare_last sameSize nonempty aShape bShape, less,
      compare_vectors a b finite bTop]
    cases compareLists a.odd.toList b.odd.toList <;> rfl
  · simp [less, compare, finite, bTop]

end Last

/-- `compare` is a total order of measures of any sizes, with the components a
`⊤` hides ignored: swapping the operands swaps the answer, `.eq` is `equal`,
`≤` is transitive, and `less` and `greater` are its strict answers.  At the last
index of a vector, `partialGreater` against a measure of its size, each with one
component per odd index, is `greater`, and `partialGreaterOrEqual` is not
`less`. -/
theorem compare_total_order (a b c : Measure) :
    a.compare b = (b.compare a).swap ∧
    (a.compare b = .eq ↔ a.equal b = true) ∧
    ((a.compare b).isLE = true → (b.compare c).isLE = true → (a.compare c).isLE = true) ∧
    (a.less b = true ↔ a.compare b = .lt) ∧
    (a.greater b = true ↔ a.compare b = .gt) ∧
    (a.top = false → b.size = a.size → 0 < a.size → a.odd.size = a.size / 2 →
      b.odd.size = b.size / 2 →
        a.partialGreater ((a.size : Int) - 1) b = .ok (a.greater b) ∧
        a.partialGreaterOrEqual ((a.size : Int) - 1) b = .ok (!a.less b)) :=
  ⟨compare_swap a b, compare_eq_eq_iff, compare_isLE_trans, less_iff, greater_iff,
    fun finite sameSize nonempty aShape bShape =>
      ⟨partialGreater_last finite sameSize nonempty aShape bShape,
        partialGreaterOrEqual_last finite sameSize nonempty aShape bShape⟩⟩

/-- The vector `(1,0)` against a `⊤` of size `4` hiding `(2,1)`: it is below,
and at index `3` neither partially greater nor at least as great. -/
theorem compare_total_order_below_top :
    let a : Measure := ⟨#[1, 0], 4, false, Maximum.ofBounds 0 #[0, 2, 0, 1]⟩
    let b : Measure := ⟨#[2, 1], 4, true, Maximum.ofBounds 0 #[0, 2, 0, 1]⟩
    a.compare b = .lt ∧ a.top = false ∧ b.size = a.size ∧ 0 < a.size ∧
      a.odd.size = a.size / 2 ∧ b.odd.size = b.size / 2 ∧
      a.partialGreater ((a.size : Int) - 1) b = .ok false ∧
      a.partialGreaterOrEqual ((a.size : Int) - 1) b = .ok false := by
  intro a b
  have below : a.compare b = .lt := rfl
  have hyps : a.top = false ∧ b.size = a.size ∧ 0 < a.size ∧ a.odd.size = a.size / 2 ∧
      b.odd.size = b.size / 2 := ⟨rfl, rfl, by decide, by decide, by decide⟩
  obtain ⟨finite, sameSize, nonempty, aShape, bShape⟩ := hyps
  obtain ⟨-, -, -, less, greater, last⟩ := compare_total_order a b b
  obtain ⟨partialAbove, partialAtLeast⟩ := last finite sameSize nonempty aShape bShape
  have notGreater : a.greater b = false := by
    cases answer : a.greater b
    · rfl
    · rw [greater.1 answer] at below
      exact nomatch below
  refine ⟨below, finite, sameSize, nonempty, aShape, bShape, ?_, ?_⟩
  · rw [partialAbove, notGreater]
  · rw [partialAtLeast, less.2 below]
    rfl

end Measure

end ParityGames
