import ParityGames.Proofs.ProgLeast

/-!
# Counting up a prefix, and monotone lifting

`partialIncrement` is a counter on the odd components up to a boundary: the
digit at position `t` runs from `0` to its bound, and the first digit is the
most significant.  On a measure that fits its maximum it moves the prefix to
the next digit list in the lexicographic order (`Radix.Successor`), which is
one more as a mixed-radix number, and keeps the suffix; it refuses exactly
when every digit of the prefix is at its bound.  Started from zero and
repeated, it runs through every prefix once, in increasing order, and refuses
at the bounds themselves (`partialIncrement_counts`).

`prog` is a cut followed by this increment, and on numbers it is
`Scale.progRank`, which is monotone; so the offer of every edge, and the value
a lift gives a vertex, grow with the measures they read
(`prog_liftValue_monotone`).
-/

namespace ParityGames

open Radix

namespace Radix

/-- `next` comes right after `ds` among the digit lists under `bs`, ordered
lexicographically with the first digit most significant: it fits, it lies
above `ds`, and no fitting list lies strictly between them. -/
def Successor (bs ds next : List Nat) : Prop :=
  List.Forall₂ (· ≤ ·) next bs ∧ Measure.compareLists ds next = .lt ∧
    ∀ es, List.Forall₂ (· ≤ ·) es bs → Measure.compareLists ds es = .lt →
      Measure.compareLists next es ≠ .gt

/-- The fitting list whose number is one more is the next one. -/
theorem successor_of_value {bs ds next : List Nat} (dsFit : List.Forall₂ (· ≤ ·) ds bs)
    (nextFit : List.Forall₂ (· ≤ ·) next bs) (one : value next bs = value ds bs + 1) :
    Successor bs ds next := by
  refine ⟨nextFit, ?_, fun es esFit above => ?_⟩
  · rw [compareLists_eq_compare dsFit nextFit, one, Nat.compare_eq_lt]
    exact Nat.lt_succ_self _
  · rw [compareLists_eq_compare dsFit esFit, Nat.compare_eq_lt] at above
    rw [compareLists_eq_compare nextFit esFit, one, Ne, Nat.compare_eq_gt]
    omega

end Radix

/-- Every maximum built from per-index bounds has one odd component for each
odd index below its size. -/
theorem Maximum.ofBounds_shape (tag : Nat) (bounds : Array Int) :
    (Maximum.ofBounds tag bounds).bounds.size = (Maximum.ofBounds tag bounds).size / 2 := by
  simp [Maximum.ofBounds]

namespace Measure

section Raise

/-- The digits after raising digit `j` of an array and zeroing those after
it, up to `k`. -/
theorem getElem?_raised_array (odd : Array Nat) {j k : Nat} (order : j < k)
    (within : k ≤ odd.size) (t : Nat) : (zeroBetween (odd.modify j (· + 1)) (j + 1) k)[t]? =
      if t = j then some (odd.getD j 0 + 1) else if j < t ∧ t < k then some 0 else odd[t]? := by
  rw [getElem?_zeroBetween, Array.getElem?_modify]
  by_cases atRaised : t = j
  · subst atRaised
    rw [if_neg (by omega), if_pos rfl, if_pos rfl, Array.getElem?_eq_getElem (by omega),
      Option.map_some, Array.getD_eq_getD_getElem?, Array.getElem?_eq_getElem (by omega)]
    rfl
  · rw [if_neg (Ne.symm atRaised), if_neg atRaised]
    by_cases zeroed : j < t ∧ t < k
    · rw [if_pos ⟨zeroed.1, zeroed.2⟩, if_pos zeroed, Array.getElem?_eq_getElem (by omega)]
      rfl
    · rw [if_neg (by omega), if_neg zeroed]

/-- Raising digit `j` and zeroing the digits after it up to `k` keeps the
digits before `j` and from `k` on. -/
theorem raised_toList {odd : Array Nat} {j k : Nat} (order : j < k) (within : k ≤ odd.size) :
    (zeroBetween (odd.modify j (· + 1)) (j + 1) k).toList =
      odd.toList.take j ++ (odd.getD j 0 + 1) :: List.replicate (k - j - 1) 0 ++
        odd.toList.drop k := by
  apply List.ext_getElem?
  intro t
  rw [Array.getElem?_toList, getElem?_raised_array odd order within, List.append_assoc]
  rcases Nat.lt_or_ge t j with before | notBefore
  · rw [if_neg (by omega), if_neg (by omega), List.getElem?_append_left (by simp; omega),
      List.getElem?_take_of_lt before, Array.getElem?_toList]
  rw [List.getElem?_append_right (by simp; omega)]
  simp only [List.length_take, Array.length_toList, Nat.min_eq_left (show j ≤ odd.size by omega)]
  rcases Nat.eq_or_lt_of_le notBefore with atRaised | after
  · subst atRaised
    simp
  · obtain ⟨i, offset⟩ : ∃ i, t - j = i + 1 := ⟨t - j - 1, by omega⟩
    rw [if_neg (by omega), offset, List.cons_append, List.getElem?_cons_succ]
    by_cases zeroed : t < k
    · rw [if_pos ⟨after, zeroed⟩, List.getElem?_append_left (by simp; omega),
        List.getElem?_replicate, if_pos (by omega)]
    · rw [if_neg (by omega), List.getElem?_append_right (by simp; omega), List.getElem?_drop,
        List.length_replicate, Array.getElem?_toList]
      congr 1
      omega


/-- When the digits after `j` and before `k` are at their bounds, the first
`k` digits are those before `j`, digit `j`, and the bounds after it. -/
theorem take_eq_of_atBounds {ds bs : List Nat} (fits : List.Forall₂ (· ≤ ·) ds bs) {j k : Nat}
    (order : j < k) (within : k ≤ ds.length)
    (atBounds : ∀ t, j < t → t < k → bs[t]?.getD 0 ≤ ds[t]?.getD 0) :
    ds.take k = ds.take j ++ ds[j]?.getD 0 :: (bs.take k).drop (j + 1) := by
  have lengthEq := fits.length_eq
  apply List.ext_getElem?
  intro t
  rcases Nat.lt_or_ge t j with before | notBefore
  · rw [List.getElem?_append_left (by simp; omega), List.getElem?_take_of_lt before,
      List.getElem?_take_of_lt (by omega)]
  rw [List.getElem?_append_right (by simp; omega)]
  simp only [List.length_take, Nat.min_eq_left (show j ≤ ds.length by omega)]
  rcases Nat.eq_or_lt_of_le notBefore with atRaised | after
  · subst atRaised
    rw [Nat.sub_self, List.getElem?_cons_zero, List.getElem?_take_of_lt order,
      List.getElem?_eq_getElem (by omega), Option.getD_some]
  · obtain ⟨i, offset⟩ : ∃ i, t - j = i + 1 := ⟨t - j - 1, by omega⟩
    rw [offset, List.getElem?_cons_succ, List.getElem?_drop, show j + 1 + i = t by omega]
    by_cases kept : t < k
    · have atBound := atBounds t after kept
      have atMost := digit_le_bound fits t
      rw [List.getElem?_take_of_lt kept, List.getElem?_take_of_lt kept,
        List.getElem?_eq_getElem (by omega), List.getElem?_eq_getElem (by omega)]
      rw [List.getElem?_eq_getElem (show t < ds.length by omega),
        List.getElem?_eq_getElem (show t < bs.length by omega)] at atMost atBound
      simp only [Option.getD_some] at atBound atMost
      rw [Nat.le_antisymm atMost atBound]
    · rw [List.getElem?_eq_none (by simp; omega), List.getElem?_eq_none (by simp; omega)]

/-- Raising digit `j`, below its bound, and zeroing the digits after it, at
their bounds, adds one to the number of the first `k` digits. -/
theorem value_raised_take {ds bs : List Nat} (fits : List.Forall₂ (· ≤ ·) ds bs) {j k : Nat}
    (order : j < k) (within : k ≤ ds.length)
    (atBounds : ∀ t, j < t → t < k → bs[t]?.getD 0 ≤ ds[t]?.getD 0) :
    Radix.value (ds.take j ++ (ds[j]?.getD 0 + 1) :: List.replicate (k - j - 1) 0) (bs.take k) =
      Radix.value (ds.take k) (bs.take k) + 1 := by
  have lengthEq := fits.length_eq
  have boundsSplit : bs.take k = bs.take j ++ bs[j]?.getD 0 :: (bs.take k).drop (j + 1) := by
    have atJ : (bs.take k)[j]?.getD 0 = bs[j]?.getD 0 := by rw [List.getElem?_take_of_lt order]
    rw [← atJ, List.getElem?_eq_getElem (by simp; omega), Option.getD_some,
      ← List.drop_eq_getElem_cons]
    have front : bs.take j = (bs.take k).take j := by
      rw [List.take_take, Nat.min_eq_left (by omega)]
    rw [front, List.take_append_drop]
  have restLength : ((bs.take k).drop (j + 1)).length = k - j - 1 := by simp; omega
  have digitsSplit := take_eq_of_atBounds fits order within atBounds
  generalize (bs.take k).drop (j + 1) = rest at boundsSplit digitsSplit restLength
  rw [digitsSplit, boundsSplit, ← restLength, value_raise _ _ _ (by simp; omega)]

end Raise

section Increment

variable {M : Maximum} {m : Measure}

/-- `partialIncrement` on a fitting vector and a boundary inside it raises
the last digit of the prefix that is below its bound, or refuses. -/
theorem partialIncrement_eq (fits : m.Fits M) (finite : m.top = false) {b : Nat}
    (inside : b < M.size) :
    m.partialIncrement b = match lastBelow m.odd M.bounds (prefixLength b) with
      | some j => .ok (true,
          { m with odd := zeroBetween (m.odd.modify j (· + 1)) (j + 1) (prefixLength b) })
      | none => .ok (false, m) := by
  have notOutside : ((b : Int) < 0 || (b : Int) ≥ m.size) = false := by
    rw [fits.size_eq]
    simp
    omega
  rw [partialIncrement, if_neg (ne_of_eq_of_ne notOutside Bool.false_ne_true),
    if_neg (by simp [finite]), Int.toNat_natCast,
    fits.bound_eq]
  unfold incrementPrefix raisePrefix
  cases lastBelow m.odd M.bounds (prefixLength b) <;> rfl

/-- With every digit of the prefix at its bound, `partialIncrement` refuses
and changes nothing. -/
theorem partialIncrement_of_atBounds (fits : m.Fits M) (finite : m.top = false) {b : Nat}
    (inside : b < M.size)
    (atBounds : ∀ t < prefixLength b, M.bounds.getD t 0 ≤ m.odd.getD t 0) :
    m.partialIncrement b = .ok (false, m) := by
  rw [partialIncrement_eq fits finite inside]
  cases found : lastBelow m.odd M.bounds (prefixLength b) with
  | none => rfl
  | some j =>
    obtain ⟨order, below, _⟩ := lastBelow_eq_some found
    exact absurd (atBounds j order) (Nat.not_le.2 below)

/-- With a digit of the prefix below its bound, `partialIncrement` reports a
change and gives a fitting vector whose prefix has the next number and whose
suffix is kept. -/
theorem partialIncrement_of_below (shape : M.bounds.size = M.size / 2) (fits : m.Fits M)
    (finite : m.top = false) {b : Nat} (inside : b < M.size)
    (below : ∃ t < prefixLength b, m.odd.getD t 0 < M.bounds.getD t 0) :
    ∃ next, m.partialIncrement b = .ok (true, next) ∧ next.Fits M ∧ next.top = false ∧
      prefixNumber M next (prefixLength b) = prefixNumber M m (prefixLength b) + 1 ∧
      next.odd.toList.drop (prefixLength b) = m.odd.toList.drop (prefixLength b) := by
  have within : prefixLength b ≤ m.odd.size :=
    fits.length ▸ Solver.prefixLength_le_bounds shape inside
  rw [partialIncrement_eq fits finite inside]
  cases found : lastBelow m.odd M.bounds (prefixLength b) with
  | none =>
    obtain ⟨t, kept, digit⟩ := below
    exact absurd (lastBelow_eq_none found t kept) (Nat.not_le.2 digit)
  | some j =>
    obtain ⟨order, raisable, atBounds⟩ := lastBelow_eq_some found
    have raised := raised_toList order within
    have front : (m.odd.toList.take j ++ (m.odd.getD j 0 + 1) ::
        List.replicate (prefixLength b - j - 1) 0).length = prefixLength b := by
      simp
      omega
    refine ⟨_, rfl, ⟨fits.bound_eq, fits.size_eq, ?_⟩, finite, ?_, ?_⟩
    · -- every digit stays within its bound, the raised one because it was below
      apply forall₂_of_digits (by
        rw [raised, List.length_append, front, List.length_drop, Array.length_toList,
          Array.length_toList]
        have sameLength := fits.length
        omega)
      intro t
      rw [Array.getElem?_toList, getElem?_raised_array _ order within]
      split_ifs with atRaised
      · subst atRaised
        rw [array_getD_eq, array_getD_eq] at raisable
        rw [Option.getD_some, array_getD_eq]
        exact Nat.succ_le_of_lt raisable
      · exact Nat.zero_le _
      · rw [← Array.getElem?_toList]
        exact digit_le_bound fits.digits t
    · rw [prefixNumber, prefixNumber, raised, List.take_left' front, array_getD_eq]
      exact value_raised_take fits.digits order (by simpa using within) fun t after kept => by
        simpa only [array_getD_eq] using atBounds t after kept
    · rw [raised, List.drop_left' front]

/-- What one call of `partialIncrement` at boundary `b` does to a vector `m`
fitting `M`, the prefix being the `prefixLength b` odd components up to `b`:
it reports a change exactly when a digit of the prefix is below its bound;
the new prefix then comes right after the old one and lies above it up to
`b`; the result fits, is finite and keeps the suffix; and without a change
nothing moves. -/
structure Advances (M : Maximum) (m : Measure) (b : Nat) (changed : Bool) (next : Measure) :
    Prop where
  changed_iff : changed = true ↔ ∃ t < prefixLength b, m.odd.getD t 0 < M.bounds.getD t 0
  successor : changed = true → Radix.Successor (M.bounds.toList.take (prefixLength b))
    (m.odd.toList.take (prefixLength b)) (next.odd.toList.take (prefixLength b))
  greater : changed = true → next.partialGreater b m = .ok true
  fits : next.Fits M
  finite : next.top = false
  suffix : next.odd.toList.drop (prefixLength b) = m.odd.toList.drop (prefixLength b)
  unchanged : changed = false → next = m

theorem partialIncrement_advances (shape : M.bounds.size = M.size / 2) (fits : m.Fits M)
    (finite : m.top = false) {b : Nat} (inside : b < M.size) :
    ∃ changed next,
      m.partialIncrement b = .ok (changed, next) ∧ Advances M m b changed next := by
  by_cases below : ∃ t < prefixLength b, m.odd.getD t 0 < M.bounds.getD t 0
  · obtain ⟨next, stepped, nextFits, nextFinite, number, suffix⟩ :=
      partialIncrement_of_below shape fits finite inside below
    refine ⟨true, next, stepped, iff_of_true rfl below, fun _ => ?_, fun _ => ?_, nextFits,
      nextFinite, suffix, nofun⟩
    · exact successor_of_value (List.forall₂_take _ fits.digits)
        (List.forall₂_take _ nextFits.digits) number
    · rw [partialGreater_of_fits nextFits fits inside, nextFinite, finite, number]
      simp
  · have atBounds : ∀ t < prefixLength b, M.bounds.getD t 0 ≤ m.odd.getD t 0 :=
      fun t kept => Nat.le_of_not_lt fun digit => below ⟨t, kept, digit⟩
    exact ⟨false, m, partialIncrement_of_atBounds fits finite inside atBounds,
      iff_of_false Bool.false_ne_true below, nofun, nofun, fits, finite, rfl, fun _ => rfl⟩

/-- The prefix of a fitting vector is the bounds' prefix exactly when each of
its digits is at its bound. -/
theorem take_eq_bounds_iff (fits : m.Fits M) {k : Nat} (within : k ≤ m.odd.size) :
    m.odd.toList.take k = M.bounds.toList.take k ↔
      ∀ t < k, M.bounds.getD t 0 ≤ m.odd.getD t 0 := by
  have lengthEq := fits.length
  constructor
  · intro same t kept
    have atT := congrArg (fun l => l[t]?.getD 0) same
    simp only [List.getElem?_take_of_lt kept] at atT
    rw [array_getD_eq, array_getD_eq, atT]
  · intro atBounds
    apply List.ext_getElem?
    intro t
    by_cases kept : t < k
    · have atBound := atBounds t kept
      have atMost := digit_le_bound fits.digits t
      rw [array_getD_eq, array_getD_eq] at atBound
      rw [List.getElem?_take_of_lt kept, List.getElem?_take_of_lt kept,
        List.getElem?_eq_getElem (by simp; omega), List.getElem?_eq_getElem (by simp; omega)]
      rw [List.getElem?_eq_getElem (show t < m.odd.toList.length by simp; omega),
        List.getElem?_eq_getElem (show t < M.bounds.toList.length by simp; omega)]
        at atBound atMost
      simp only [Option.getD_some] at atBound atMost
      rw [Nat.le_antisymm atMost atBound]
    · rw [List.getElem?_eq_none (by simp; omega), List.getElem?_eq_none (by simp; omega)]

end Increment

section Counting

variable {M : Maximum}

/-- One round of a loop counting up the prefix at boundary `b`: the measure
after `partialIncrement`, or the measure itself should the boundary be
refused. -/
def countStep (b : Int) (m : Measure) : Measure :=
  match m.partialIncrement b with
  | .ok (_, next) => next
  | .error _ => m

/-- The measure such a loop holds after `i` rounds from zero. -/
def counted (M : Maximum) (b : Int) (i : Nat) : Measure := (countStep b)^[i] (zero M)

/-- The number of prefixes up to boundary `b`: the product of the radices of
their digits. -/
def prefixCount (M : Maximum) (b : Nat) : Nat :=
  radixProduct (M.bounds.toList.take (prefixLength b))

theorem counted_succ (b : Int) (i : Nat) : counted M b (i + 1) = countStep b (counted M b i) :=
  Function.iterate_succ_apply' _ _ _

theorem prefixNumber_zero (k : Nat) : prefixNumber M (zero M) k = 0 := by
  simp [prefixNumber, zero]

/-- After `i` rounds, for `i` below the number of prefixes, the loop holds a
fitting vector whose prefix has number `i` and whose suffix is still zero. -/
theorem counted_spec (shape : M.bounds.size = M.size / 2) {b : Nat} (inside : b < M.size) :
    ∀ i < prefixCount M b, (counted M b i).Fits M ∧ (counted M b i).top = false ∧
      prefixNumber M (counted M b i) (prefixLength b) = i ∧
      (counted M b i).odd.toList.drop (prefixLength b) =
        (zero M).odd.toList.drop (prefixLength b) := by
  intro i
  induction i with
  | zero => intro _; exact ⟨fits_zero M, rfl, prefixNumber_zero _, rfl⟩
  | succ i ih =>
    intro below
    obtain ⟨fits, finite, number, suffix⟩ := ih (by omega)
    have within : prefixLength b ≤ (counted M b i).odd.size :=
      fits.length ▸ Solver.prefixLength_le_bounds shape inside
    -- a prefix at its bounds has the last number, and `i` is not the last
    have raisable : ∃ t < prefixLength b,
        (counted M b i).odd.getD t 0 < M.bounds.getD t 0 := by
      by_contra atBounds
      have last : prefixNumber M (counted M b i) (prefixLength b) = prefixCount M b - 1 := by
        rw [prefixNumber, (take_eq_bounds_iff fits within).2 fun t kept =>
          Nat.le_of_not_lt fun digit => atBounds ⟨t, kept, digit⟩, value_self, prefixCount]
      omega
    obtain ⟨next, stepped, nextFits, nextFinite, nextNumber, nextSuffix⟩ :=
      partialIncrement_of_below shape fits finite inside raisable
    have advanced : counted M b (i + 1) = next := by
      rw [counted_succ, countStep, stepped]
    rw [advanced]
    exact ⟨nextFits, nextFinite, by rw [nextNumber, number], nextSuffix.trans suffix⟩

/-- What counting up the prefix at boundary `b` from zero does, with `N` the
number of prefixes: each of the first `N - 1` rounds reports a change and
moves strictly up to `b`, the round at the bounds themselves refuses and keeps
them, and every fitting prefix is held after exactly one of the first `N`
rounds. -/
structure Enumerates (M : Maximum) (b : Nat) : Prop where
  advances : ∀ i, i + 1 < prefixCount M b →
    (counted M b i).partialIncrement b = .ok (true, counted M b (i + 1)) ∧
      (counted M b (i + 1)).partialGreater b (counted M b i) = .ok true
  refuses : (counted M b (prefixCount M b - 1)).partialIncrement b =
    .ok (false, counted M b (prefixCount M b - 1))
  at_bounds : (counted M b (prefixCount M b - 1)).odd.toList.take (prefixLength b) =
    M.bounds.toList.take (prefixLength b)
  once : ∀ ds, List.Forall₂ (· ≤ ·) ds (M.bounds.toList.take (prefixLength b)) →
    ∃! i, i < prefixCount M b ∧ (counted M b i).odd.toList.take (prefixLength b) = ds

theorem enumerates (shape : M.bounds.size = M.size / 2) {b : Nat} (inside : b < M.size) :
    Enumerates M b := by
  have spec := counted_spec shape inside
  have positive : 0 < prefixCount M b := radixProduct_pos _
  have last := spec (prefixCount M b - 1) (by omega)
  have lastWithin : prefixLength b ≤ (counted M b (prefixCount M b - 1)).odd.size :=
    last.1.length ▸ Solver.prefixLength_le_bounds shape inside
  have boundsFit : List.Forall₂ (· ≤ ·) (M.bounds.toList.take (prefixLength b))
      (M.bounds.toList.take (prefixLength b)) := List.forall₂_same.2 fun _ _ => Nat.le_refl _
  -- the last number belongs to the bounds' prefix
  have atBounds : (counted M b (prefixCount M b - 1)).odd.toList.take (prefixLength b) =
      M.bounds.toList.take (prefixLength b) := by
    apply eq_of_value_eq (List.forall₂_take _ last.1.digits) boundsFit
    rw [value_self]
    exact last.2.2.1
  refine ⟨fun i below => ?_, ?_, atBounds, fun ds dsFit => ?_⟩
  · obtain ⟨fits, finite, _, _⟩ := spec i (by omega)
    obtain ⟨changed, next, stepped, advances⟩ :=
      partialIncrement_advances shape fits finite inside
    obtain ⟨_, _, number, _⟩ := spec (i + 1) below
    have advanced : counted M b (i + 1) = next := by rw [counted_succ, countStep, stepped]
    -- the next round holds a different prefix, so this one changed something
    have moved : changed = true := by
      cases changed
      · rw [advances.unchanged rfl] at advanced
        rw [advanced, (spec i (by omega)).2.2.1] at number
        omega
      · rfl
    rw [stepped, moved, advanced]
    exact ⟨rfl, advances.greater moved⟩
  · exact partialIncrement_of_atBounds last.1 last.2.1 inside
      ((take_eq_bounds_iff last.1 lastWithin).1 atBounds)
  · refine ⟨Radix.value ds (M.bounds.toList.take (prefixLength b)),
      ⟨value_lt dsFit, ?_⟩, ?_⟩
    · obtain ⟨fits, _, number, _⟩ := spec _ (value_lt dsFit)
      exact eq_of_value_eq (List.forall₂_take _ fits.digits) dsFit number
    · rintro i ⟨below, held⟩
      rw [← held, ← prefixNumber]
      exact ((spec i below).2.2.1).symm

/-- `partialIncrement` counts in mixed radix on the prefix up to a boundary:
on every vector that fits its maximum and every boundary inside it, one call
reports a change exactly when a digit of the prefix is below its bound, and
then moves the prefix to the next one in the lexicographic order, strictly
above up to the boundary, keeping the suffix; otherwise it changes nothing.
Repeated from zero it holds each of the `prefixCount` prefixes after exactly
one round, rising at every round, and refuses at the bounds. -/
theorem partialIncrement_counts (shape : M.bounds.size = M.size / 2) :
    (∀ m : Measure, m.Fits M → m.top = false → ∀ b < M.size,
      ∃ changed next,
        m.partialIncrement b = .ok (changed, next) ∧ Advances M m b changed next) ∧
    ∀ b < M.size, Enumerates M b :=
  ⟨fun _ fits finite _ inside => partialIncrement_advances shape fits finite inside,
    fun _ inside => enumerates shape inside⟩

/-- The maximum of bounds `4 2 0 1 0 3`: two values for index `1`, one for
index `3` and three for index `5`. -/
theorem partialIncrement_counts_sample :
    (Maximum.ofBounds 0 #[4, 2, 0, 1, 0, 3]).bounds.size =
        (Maximum.ofBounds 0 #[4, 2, 0, 1, 0, 3]).size / 2 ∧
      (∀ m : Measure, m.Fits (Maximum.ofBounds 0 #[4, 2, 0, 1, 0, 3]) → m.top = false →
        ∀ b < (Maximum.ofBounds 0 #[4, 2, 0, 1, 0, 3]).size,
          ∃ changed next, m.partialIncrement b = .ok (changed, next) ∧
            Advances (Maximum.ofBounds 0 #[4, 2, 0, 1, 0, 3]) m b changed next) ∧
      ∀ b < (Maximum.ofBounds 0 #[4, 2, 0, 1, 0, 3]).size,
        Enumerates (Maximum.ofBounds 0 #[4, 2, 0, 1, 0, 3]) b :=
  ⟨Maximum.ofBounds_shape 0 _, partialIncrement_counts (Maximum.ofBounds_shape 0 _)⟩

end Counting

end Measure

open ParityGames.Measure

namespace Solver

section Monotone

variable {M : Maximum} {s t : Solver}

/-- A larger target gives a larger offer: on fitting measures `progOf` is
`Scale.progRank` on numbers, which is monotone. -/
theorem progOf_compare_ne_gt (shape : M.bounds.size = M.size / 2) {p : Nat} (inside : p < M.size)
    {m n : Measure} (mFits : m.Fits M) (nFits : n.Fits M) (le : m.compare n ≠ .gt) :
    (progOf M p m).compare (progOf M p n) ≠ .gt := by
  rw [compare_ne_gt_iff (fits_progOf shape inside mFits) (fits_progOf shape inside nFits),
    rank_progOf shape inside mFits, rank_progOf shape inside nFits]
  exact Scale.progRank_mono _ _ _ ((compare_ne_gt_iff mFits nFits).1 le)

/-- Lifting is monotone in the measures it reads.  Take two states of the
solver over one consistent arena, with the maximum of the arena and measures
that fit it, the first at or below the second at every vertex.  Then along
every edge the offer `prog` in the first state is at or below the offer in
the second, and so is the value lifting gives any vertex, whoever owns it. -/
theorem prog_liftValue_monotone (consistent : s.arena.Consistent) (sameArena : t.arena = s.arena)
    (sMaximum : s.maximum = maximumOf s.arena) (tMaximum : t.maximum = maximumOf t.arena)
    (sFits : ∀ u, (s.measure u).Fits s.maximum) (tFits : ∀ u, (t.measure u).Fits t.maximum)
    (le : ∀ u < s.size, (s.measure u).compare (t.measure u) ≠ .gt) :
    (∀ v w, w ∈ (s.arena.vertex v).outgoing → (s.prog v w).compare (t.prog v w) ≠ .gt) ∧
      ∀ v, (s.liftValue v).compare (t.liftValue v) ≠ .gt := by
  have sameMaximum : t.maximum = s.maximum := by rw [tMaximum, sMaximum, sameArena]
  have tFits' : ∀ u, (t.measure u).Fits s.maximum := fun u => sameMaximum ▸ tFits u
  -- only targets of edges are read, and they lie inside the arena
  have targets : ∀ v w, w ∈ (s.arena.vertex v).outgoing →
      (s.measure w).compare (t.measure w) ≠ .gt :=
    fun v w mem => le w (consistent.target_lt v (Arena.lt_size_of_mem_outgoing mem) w mem)
  refine ⟨fun v w mem => ?_, fun v => ?_⟩
  · rw [prog, prog, sameArena, sameMaximum, sMaximum]
    exact progOf_compare_ne_gt (Arena.maximumOf_shape _) (consistent.priority_lt v)
      (sMaximum ▸ sFits w) (sMaximum ▸ tFits' w) (targets v w mem)
  · obtain ⟨sValueFits, sRank⟩ := rank_liftValue_of_fits sMaximum sFits consistent v
    obtain ⟨tValueFits, tRank⟩ :=
      rank_liftValue_of_fits tMaximum tFits (sameArena ▸ consistent) v
    rw [sameMaximum] at tValueFits tRank
    rw [compare_ne_gt_iff sValueFits tValueFits, sRank, tRank, sameArena]
    exact Arena.liftRank_mono _ fun w mem =>
      (compare_ne_gt_iff (sFits w) (tFits' w)).1 (targets v w mem)

/-- A lift raises the measure it sets and keeps every other one, so a state
lies below the state after any lift. -/
theorem Sound.measure_le_lift (sound : s.Sound) (v u : Nat) :
    (s.measure u).compare ((s.lift v).2.measure u) ≠ .gt := by
  have coherent := sound.coherent
  have lifted := coherent.lift sound.consistent v
  rw [compare_ne_gt_iff (coherent.fits u) (maximum_lift s v ▸ lifted.fits u),
    ← coherent.rank_eq_ofMaximum, ← maximum_lift s v, ← lifted.rank_eq_ofMaximum]
  by_cases atV : u = v
  · subst atV
    exact sound.rank_le_lift u
  · rw [lift_rank coherent sound.consistent, if_neg (fun same => atV same.1)]

/-- A fresh solver over `Arena.choiceLoops` and the state after lifting `3`
twice, where `3` has risen from zero to `(1,0)`: every offer and every lifted
value of the first is at or below that of the second. -/
theorem prog_liftValue_monotone_choice :
    let s := new Arena.choiceLoops default .safe
    let t := ((s.lift 3).2.lift 3).2
    (t.measure 3).odd = #[1, 0] ∧ (s.measure 3).compare (t.measure 3) = .lt ∧
      (∀ v w, w ∈ (s.arena.vertex v).outgoing → (s.prog v w).compare (t.prog v w) ≠ .gt) ∧
      ∀ v, (s.liftValue v).compare (t.liftValue v) ≠ .gt := by
  intro s t
  have consistent : Arena.choiceLoops.Consistent := Arena.reachable_choiceLoops.consistent
  have sound := sound_new consistent default .safe
  have once := sound.lift 3
  have lifted : t.Coherent := once.coherent.lift (by rw [arena_lift]; exact consistent) 3
  have sameArena : t.arena = s.arena := by rw [arena_lift, arena_lift]
  have le : ∀ u < s.size, (s.measure u).compare (t.measure u) ≠ .gt := by decide +kernel
  exact ⟨by decide +kernel, by decide +kernel,
    prog_liftValue_monotone consistent sameArena rfl lifted.maximum_eq sound.coherent.fits
      lifted.fits le⟩

end Monotone

end Solver

end ParityGames
