import ParityGames.Proofs.Radix
import ParityGames.Solver.Basic

/-!
# Measures as numbers

A measure *fits* a maximum when it is bound to it, has its size, and has one
component per odd index, each at most its bound.  On fitting measures the
number `Scale.rank` is an order embedding: it is below the count of finite
measures exactly for vectors, and comparing, equating and choosing the better
of two measures is comparing their numbers.  The least measure an edge asks
for, `progOf`, is `Scale.progRank` on numbers (`rank_progOf`).

The first section describes the array loops behind `progOf` position by
position: cutting after a prefix, searching the last digit below its bound,
and zeroing a range.
-/

namespace ParityGames

open Radix

namespace Measure

section Digits

theorem cutAfter_go_toList (src : Array Nat) (k n i : Nat) (acc : Array Nat) :
    (cutAfter.go src k n i acc).toList =
      acc.toList ++ (List.range' i (n - i)).map fun t => if t < k then src.getD t 0 else 0 := by
  fun_induction cutAfter.go src k n i acc with
  | case1 i acc inside ih =>
    have remaining : n - i = (n - (i + 1)) + 1 := by omega
    simp only [dite_eq_ite] at ih
    rw [ih, remaining, List.range'_succ]
    simp
  | case2 i acc outside =>
    have remaining : n - i = 0 := by omega
    simp [remaining]

/-- Cutting keeps the first `k` components and zeroes the rest. -/
theorem cutAfter_toList {src : Array Nat} {k : Nat} (within : k ≤ src.size) :
    (cutAfter src k src.size).toList =
      src.toList.take k ++ List.replicate (src.size - k) 0 := by
  rw [cutAfter, cutAfter_go_toList, Array.emptyWithCapacity_eq, Nat.sub_zero,
    ← List.range_eq_range']
  apply List.ext_getElem?
  intro t
  simp only [List.nil_append, List.getElem?_map, List.getElem?_append,
    List.length_take, Array.length_toList, Nat.min_eq_left within, List.getElem?_take,
    List.getElem?_replicate, Array.getElem?_toList, Array.getD_eq_getD_getElem?]
  by_cases inside : t < src.size
  · rw [List.getElem?_range inside]
    by_cases kept : t < k
    · simp [kept, Array.getElem?_eq_getElem inside]
    · simp [kept]
      omega
  · rw [List.getElem?_eq_none (by simp; omega)]
    have notKept : ¬ t < k := by omega
    simp [notKept]
    omega

theorem getElem?_zeroBetween (a : Array Nat) (i k t : Nat) :
    (zeroBetween a i k)[t]? = if i ≤ t ∧ t < k then a[t]?.map (fun _ => 0) else a[t]? := by
  fun_induction zeroBetween a i k with
  | case1 a i inside ih =>
    rw [ih, Array.getElem?_setIfInBounds]
    by_cases atStart : i = t
    · subst atStart
      rw [if_neg (show ¬ (i + 1 ≤ i ∧ i < k) by omega),
        if_pos (show i ≤ i ∧ i < k from ⟨Nat.le_refl i, inside⟩), if_pos rfl]
      by_cases present : i < a.size
      · rw [if_pos present, Array.getElem?_eq_getElem present]
        rfl
      · rw [if_neg present, Array.getElem?_eq_none (by omega)]
        rfl
    · by_cases after : i + 1 ≤ t ∧ t < k
      · rw [if_pos after, if_pos (show i ≤ t ∧ t < k from ⟨by omega, after.2⟩), if_neg atStart]
      · have notRange : ¬ (i ≤ t ∧ t < k) := by omega
        rw [if_neg after, if_neg notRange, if_neg atStart]
  | case2 a i outside =>
    have notRange : ¬ (i ≤ t ∧ t < k) := by omega
    rw [if_neg notRange]

theorem lastBelow_eq_none {odd bounds : Array Nat} {k : Nat}
    (none : lastBelow odd bounds k = none) :
    ∀ t < k, bounds.getD t 0 ≤ odd.getD t 0 := by
  induction k with
  | zero => intro t inside; omega
  | succ k ih =>
    simp only [lastBelow] at none
    split at none
    · cases none
    · intro t inside
      rcases Nat.lt_succ_iff_lt_or_eq.1 inside with before | last
      · exact ih none t before
      · subst last
        simp only [Array.getD_eq_getD_getElem?]
        omega

theorem lastBelow_eq_some {odd bounds : Array Nat} {k j : Nat}
    (found : lastBelow odd bounds k = some j) :
    j < k ∧ odd.getD j 0 < bounds.getD j 0 ∧
      ∀ t, j < t → t < k → bounds.getD t 0 ≤ odd.getD t 0 := by
  induction k with
  | zero => simp [lastBelow] at found
  | succ k ih =>
    simp only [lastBelow] at found
    split at found
    · cases found
      refine ⟨by omega, by simpa [Array.getD_eq_getD_getElem?], ?_⟩
      intro t after inside
      omega
    · rename_i notBelow
      obtain ⟨inside, below, atBounds⟩ := ih found
      refine ⟨by omega, below, ?_⟩
      intro t after within
      rcases Nat.lt_succ_iff_lt_or_eq.1 within with before | last
      · exact atBounds t after before
      · subst last
        simp only [Array.getD_eq_getD_getElem?]
        omega

end Digits

/-- A measure fits a maximum: it is bound to it, has its size, and has one
component per odd index, each at most its bound. -/
structure Fits (M : Maximum) (m : Measure) : Prop where
  bound_eq : m.bound = M
  size_eq : m.size = M.size
  digits : List.Forall₂ (· ≤ ·) m.odd.toList M.bounds.toList

theorem Fits.length {M : Maximum} {m : Measure} (fits : m.Fits M) :
    m.odd.size = M.bounds.size := by
  simpa using fits.digits.length_eq

theorem forall₂_replicate_zero (bs : List Nat) :
    List.Forall₂ (· ≤ ·) (List.replicate bs.length 0) bs := by
  induction bs with
  | nil => exact List.Forall₂.nil
  | cons b bs ih => exact List.Forall₂.cons (Nat.zero_le b) ih

theorem fits_zero (M : Maximum) : (zero M).Fits M :=
  ⟨rfl, rfl, by simpa [zero] using forall₂_replicate_zero M.bounds.toList⟩

theorem fits_topOf (M : Maximum) : (topOf M).Fits M :=
  ⟨rfl, rfl, by simpa [topOf, zero] using forall₂_replicate_zero M.bounds.toList⟩

end Measure

namespace Scale

theorem count_ofMaximum (M : Maximum) :
    (ofMaximum M).count = radixProduct M.bounds.toList := by
  rw [ofMaximum, radixProduct, Array.foldr_toList]

theorem foldl_zipIdx_digitWeights (a : Array Nat) (bs : List Nat) (i acc : Nat)
    (size : a.size = i + bs.length) :
    ((digitWeights bs).zipIdx i).foldl (fun acc (w, j) => acc + a.getD j 0 * w) acc =
      acc + value (a.toList.drop i) bs := by
  induction bs generalizing i acc with
  | nil => simp [digitWeights]
  | cons b bs ih =>
    have nextSize : a.size = (i + 1) + bs.length := by simp at size; omega
    have inside : i < a.toList.length := by simp; omega
    rw [digitWeights, List.zipIdx_cons, List.foldl_cons, ih (i + 1) _ nextSize,
      List.drop_eq_getElem_cons inside, value_cons]
    simp only [Array.getD_eq_getD_getElem?, Array.getElem?_eq_getElem (by simpa using inside),
      Option.getD_some, Array.getElem_toList]
    rw [radixProduct]
    omega

/-- The number of a vector is the number its components stand for. -/
theorem rank_eq_value (M : Maximum) {m : Measure} (length : m.odd.size = M.bounds.size)
    (finite : m.top = false) :
    (ofMaximum M).rank m = value m.odd.toList M.bounds.toList := by
  have folded := foldl_zipIdx_digitWeights m.odd M.bounds.toList 0 0 (by simp [length])
  simp only [Nat.zero_add, List.drop_zero] at folded
  rw [rank, if_neg (by simp [finite]), ofMaximum, ← Array.foldl_toList, Array.toList_zipIdx,
    List.toList_toArray]
  exact folded

/-- The weight of digit `k - 1` is the number of lists of the digits after it. -/
theorem getD_weights (M : Maximum) {k : Nat} (positive : 0 < k) (within : k ≤ M.bounds.size) :
    (ofMaximum M).weights.getD (k - 1) 1 = radixProduct (M.bounds.toList.drop k) := by
  have general : ∀ (bs : List Nat) (i : Nat), i < bs.length →
      (digitWeights bs)[i]? = some (radixProduct (bs.drop (i + 1))) := by
    intro bs
    induction bs with
    | nil => intro i inside; simp at inside
    | cons b bs ih =>
      intro i inside
      cases i with
      | zero => simp [digitWeights, radixProduct]
      | succ i => simpa [digitWeights] using ih i (by simpa using inside)
  have atDigit := general M.bounds.toList (k - 1) (by simp; omega)
  rw [ofMaximum, Array.getD_eq_getD_getElem?, List.getElem?_toArray, atDigit,
    show k - 1 + 1 = k by omega, Option.getD_some]

end Scale

namespace Measure

variable {M : Maximum}

theorem rank_zero (M : Maximum) : (Scale.ofMaximum M).rank (zero M) = 0 := by
  rw [Scale.rank_eq_value M (fits_zero M).length rfl]
  simp [zero]

theorem rank_lt_count {m : Measure} (fits : m.Fits M) (finite : m.top = false) :
    (Scale.ofMaximum M).rank m < (Scale.ofMaximum M).count := by
  rw [Scale.rank_eq_value M fits.length finite, Scale.count_ofMaximum]
  exact value_lt fits.digits

theorem rank_le_count {m : Measure} (fits : m.Fits M) :
    (Scale.ofMaximum M).rank m ≤ (Scale.ofMaximum M).count := by
  cases top : m.top
  · exact Nat.le_of_lt (rank_lt_count fits top)
  · rw [rank_top _ _ top]

/-- A measure is `⊤` exactly when its number is the count. -/
theorem top_iff_rank {m : Measure} (fits : m.Fits M) :
    m.top = true ↔ (Scale.ofMaximum M).rank m = (Scale.ofMaximum M).count := by
  constructor
  · exact rank_top _ _
  · intro atCount
    cases top : m.top
    · have := rank_lt_count fits top
      omega
    · rfl

/-- Comparing fitting measures is comparing their numbers. -/
theorem compare_eq_rank {m n : Measure} (mFits : m.Fits M) (nFits : n.Fits M) :
    m.compare n = Ord.compare ((Scale.ofMaximum M).rank m) ((Scale.ofMaximum M).rank n) := by
  cases mTop : m.top <;> cases nTop : n.top
  · rw [compare_vectors m n mTop nTop, Scale.rank_eq_value M mFits.length mTop,
      Scale.rank_eq_value M nFits.length nTop]
    exact compareLists_eq_compare mFits.digits nFits.digits
  · have below := rank_lt_count mFits mTop
    rw [rank_top _ n nTop, eq_comm, Nat.compare_eq_lt.2 below]
    simp [compare, mTop, nTop]
  · have below := rank_lt_count nFits nTop
    rw [rank_top _ m mTop, eq_comm, Nat.compare_eq_gt.2 below]
    simp [compare, mTop, nTop]
  · rw [rank_top _ m mTop, rank_top _ n nTop, Nat.compare_eq_eq.2 rfl]
    simp [compare, mTop, nTop]

theorem compare_beq_lt (a b : Nat) : (Ord.compare a b == .lt) = decide (a < b) := by
  rw [Bool.eq_iff_iff, beq_iff_eq, decide_eq_true_iff, Nat.compare_eq_lt]

theorem compare_beq_gt (a b : Nat) : (Ord.compare a b == .gt) = decide (b < a) := by
  rw [Bool.eq_iff_iff, beq_iff_eq, decide_eq_true_iff, Nat.compare_eq_gt]

theorem less_eq_decide {m n : Measure} (mFits : m.Fits M) (nFits : n.Fits M) :
    m.less n = decide ((Scale.ofMaximum M).rank m < (Scale.ofMaximum M).rank n) := by
  rw [less, compare_eq_rank mFits nFits, compare_beq_lt]

theorem greater_eq_decide {m n : Measure} (mFits : m.Fits M) (nFits : n.Fits M) :
    m.greater n = decide ((Scale.ofMaximum M).rank n < (Scale.ofMaximum M).rank m) := by
  rw [greater, compare_eq_rank mFits nFits, compare_beq_gt]

/-- Two fitting measures are equal elements exactly when their numbers are. -/
theorem equal_eq_decide {m n : Measure} (mFits : m.Fits M) (nFits : n.Fits M) :
    m.equal n = decide ((Scale.ofMaximum M).rank m = (Scale.ofMaximum M).rank n) := by
  cases mTop : m.top <;> cases nTop : n.top
  · rw [Scale.rank_eq_value M mFits.length mTop, Scale.rank_eq_value M nFits.length nTop]
    have sameList : m.odd = n.odd ↔
        Radix.value m.odd.toList M.bounds.toList = Radix.value n.odd.toList M.bounds.toList :=
      ⟨fun same => by rw [same], fun same => Array.ext' (eq_of_value_eq mFits.digits nFits.digits same)⟩
    simp only [equal, mTop, nTop, Bool.or_self, Bool.false_eq_true, if_false]
    rw [Bool.eq_iff_iff, beq_iff_eq, decide_eq_true_iff]
    exact sameList
  · have below := rank_lt_count mFits mTop
    rw [rank_top _ n nTop]
    simp [equal, mTop, nTop, Nat.ne_of_lt below]
  · have below := rank_lt_count nFits nTop
    rw [rank_top _ m mTop]
    simp [equal, mTop, nTop, Nat.ne_of_gt below]
  · rw [rank_top _ m mTop, rank_top _ n nTop]
    simp [equal, mTop, nTop]

section Prog

theorem digit_le_bound {ds bs : List Nat} (fits : List.Forall₂ (· ≤ ·) ds bs) (t : Nat) :
    ds[t]?.getD 0 ≤ bs[t]?.getD 0 := by
  induction fits generalizing t with
  | nil => simp
  | cons digit _ ih =>
    cases t with
    | zero => simpa using digit
    | succ t => simpa using ih t

theorem forall₂_of_digits {ds bs : List Nat} (length : ds.length = bs.length)
    (digits : ∀ t : Nat, ds[t]?.getD 0 ≤ bs[t]?.getD 0) : List.Forall₂ (· ≤ ·) ds bs := by
  induction ds generalizing bs with
  | nil =>
    cases bs with
    | nil => exact List.Forall₂.nil
    | cons b bs => simp at length
  | cons d ds ih =>
    cases bs with
    | nil => simp at length
    | cons b bs =>
      refine List.Forall₂.cons (by simpa using digits 0) (ih (by simpa using length) ?_)
      intro t
      simpa using digits (t + 1)

theorem array_getD_eq (a : Array Nat) (t : Nat) : a.getD t 0 = a.toList[t]?.getD 0 := by
  rw [Array.getD_eq_getD_getElem?, Array.getElem?_toList]

/-- When no digit of the cut prefix is below its bound, the prefix is the
bounds' prefix. -/
theorem take_eq_of_lastBelow_none {ds bs : List Nat} {cut bounds : Array Nat} {k : Nat}
    (fits : List.Forall₂ (· ≤ ·) ds bs) (boundsList : bounds.toList = bs)
    (cutList : cut.toList = ds.take k ++ List.replicate (ds.length - k) 0)
    (within : k ≤ ds.length) (none : lastBelow cut bounds k = none) :
    ds.take k = bs.take k := by
  have lengthEq := fits.length_eq
  apply List.ext_getElem?
  intro t
  by_cases kept : t < k
  · have atBound := lastBelow_eq_none none t kept
    have atMost := digit_le_bound fits t
    rw [array_getD_eq, array_getD_eq, cutList, boundsList, List.getElem?_append_left
      (by simp; omega), List.getElem?_take_of_lt kept] at atBound
    rw [List.getElem?_take_of_lt kept, List.getElem?_take_of_lt kept,
      List.getElem?_eq_getElem (by omega), List.getElem?_eq_getElem (by omega)]
    rw [List.getElem?_eq_getElem (by omega), List.getElem?_eq_getElem (by omega)] at atBound atMost
    simp only [Option.getD_some] at atBound atMost
    rw [Nat.le_antisymm atMost atBound]
  · simp [kept]

theorem getElem?_cut {ds : List Nat} {k : Nat} (within : k ≤ ds.length) (t : Nat) :
    (ds.take k ++ List.replicate (ds.length - k) 0)[t]? =
      if t < k then ds[t]? else if t < ds.length then some 0 else none := by
  by_cases kept : t < k
  · rw [List.getElem?_append_left (by simp; omega), List.getElem?_take_of_lt kept, if_pos kept]
  · rw [List.getElem?_append_right (by simp; omega), List.getElem?_replicate, if_neg kept]
    simp only [List.length_take, Nat.min_eq_left within]
    by_cases inside : t < ds.length
    · rw [if_pos (by omega), if_pos inside]
    · rw [if_neg (by omega), if_neg inside]

theorem getElem?_raised {ds : List Nat} {j : Nat} (inside : j ≤ ds.length) (x r t : Nat) :
    (ds.take j ++ x :: List.replicate r 0)[t]? =
      if t < j then ds[t]? else if t = j then some x else if t < j + 1 + r then some 0
        else none := by
  by_cases before : t < j
  · rw [List.getElem?_append_left (by simp; omega), List.getElem?_take_of_lt before, if_pos before]
  · rw [List.getElem?_append_right (by simp; omega), if_neg before]
    simp only [List.length_take, Nat.min_eq_left inside]
    by_cases atRaised : t = j
    · subst atRaised
      simp
    · obtain ⟨i, offset⟩ : ∃ i, t - j = i + 1 := ⟨t - j - 1, by omega⟩
      rw [offset, List.getElem?_cons_succ, List.getElem?_replicate, if_neg atRaised]
      by_cases zeroed : i < r
      · rw [if_pos zeroed, if_pos (by omega)]
      · rw [if_neg zeroed, if_neg (by omega)]

/-- The digits of the raised cut: those before the raised one, the raised one,
then zeros. -/
theorem raised_cut_toList {ds : List Nat} {cut : Array Nat} {j k : Nat}
    (cutList : cut.toList = ds.take k ++ List.replicate (ds.length - k) 0)
    (order : j < k) (within : k ≤ ds.length) :
    (zeroBetween (cut.modify j (· + 1)) (j + 1) k).toList =
      ds.take j ++ (ds[j]?.getD 0 + 1) :: List.replicate (ds.length - j - 1) 0 := by
  apply List.ext_getElem?
  intro t
  rw [Array.getElem?_toList, getElem?_zeroBetween, Array.getElem?_modify, ← Array.getElem?_toList,
    cutList, getElem?_cut within, getElem?_raised (by omega)]
  have present : j < ds.length := by omega
  rw [List.getElem?_eq_getElem present, Option.getD_some]
  rcases Nat.lt_trichotomy t j with before | atRaised | after
  · rw [if_neg (by omega : ¬ (j + 1 ≤ t ∧ t < k)), if_neg (by omega : j ≠ t),
      if_pos (by omega : t < k), if_pos before]
  · subst atRaised
    rw [if_neg (by omega : ¬ (t + 1 ≤ t ∧ t < k)), if_pos rfl, if_pos order,
      List.getElem?_eq_getElem present, if_neg (Nat.lt_irrefl t), if_pos rfl, Option.map_some]
  · rw [if_neg (by omega : j ≠ t), if_neg (by omega : ¬ t < j), if_neg (by omega : t ≠ j)]
    by_cases zeroed : t < k
    · rw [if_pos ⟨by omega, zeroed⟩, if_pos zeroed, List.getElem?_eq_getElem (by omega),
        Option.map_some, if_pos (by omega)]
    · rw [if_neg (by omega), if_neg zeroed]
      by_cases inside : t < ds.length
      · rw [if_pos inside, if_pos (by omega)]
      · rw [if_neg inside, if_neg (by omega)]

/-- With every digit between the raised one and the end of the prefix at its
bound, putting the bounds back after the raised digit gives the prefix followed
by the bounds. -/
theorem base_eq_of_lastBelow_some {ds bs : List Nat} {cut bounds : Array Nat} {j k : Nat}
    (fits : List.Forall₂ (· ≤ ·) ds bs) (boundsList : bounds.toList = bs)
    (cutList : cut.toList = ds.take k ++ List.replicate (ds.length - k) 0)
    (order : j < k) (within : k ≤ ds.length)
    (atBounds : ∀ t, j < t → t < k → bounds.getD t 0 ≤ cut.getD t 0) :
    ds.take j ++ ds[j]?.getD 0 :: bs.drop (j + 1) = ds.take k ++ bs.drop k := by
  have lengthEq := fits.length_eq
  apply List.ext_getElem?
  intro t
  rcases Nat.lt_or_ge t j with before | notBefore
  · rw [List.getElem?_append_left (by simp; omega), List.getElem?_append_left (by simp; omega),
      List.getElem?_take_of_lt before, List.getElem?_take_of_lt (by omega)]
  rw [List.getElem?_append_right (by simp; omega)]
  simp only [List.length_take, Nat.min_eq_left (show j ≤ ds.length by omega)]
  rcases Nat.lt_or_ge t k with kept | dropped
  · rw [List.getElem?_append_left (by simp; omega), List.getElem?_take_of_lt kept]
    rcases Nat.eq_or_lt_of_le notBefore with atRaised | after
    · subst atRaised
      rw [Nat.sub_self, List.getElem?_cons_zero, List.getElem?_eq_getElem (by omega),
        Option.getD_some]
    · obtain ⟨i, offset⟩ : ∃ i, t - j = i + 1 := ⟨t - j - 1, by omega⟩
      rw [offset, List.getElem?_cons_succ, List.getElem?_drop]
      have atBound := atBounds t after kept
      have atMost := digit_le_bound fits t
      rw [array_getD_eq, array_getD_eq, cutList, boundsList, getElem?_cut within,
        if_pos kept] at atBound
      rw [show j + 1 + i = t by omega, List.getElem?_eq_getElem (by omega),
        List.getElem?_eq_getElem (by omega)]
      rw [List.getElem?_eq_getElem (show t < ds.length by omega),
        List.getElem?_eq_getElem (show t < bs.length by omega)] at atMost atBound
      simp only [Option.getD_some] at atBound atMost
      rw [Nat.le_antisymm atBound atMost]
  · rw [List.getElem?_append_right (by simp; omega)]
    obtain ⟨i, offset⟩ : ∃ i, t - j = i + 1 := ⟨t - j - 1, by omega⟩
    simp only [List.length_take, Nat.min_eq_left within]
    rw [offset, List.getElem?_cons_succ, List.getElem?_drop, List.getElem?_drop,
      show j + 1 + i = k + (t - k) by omega]

end Prog

end Measure

namespace Scale

/-- `progRank` of a number split at the last digit kept: the quotient part,
raised by one weight for an odd priority. -/
theorem progRank_of_split (c : Scale) {size p x q r w : Nat} (finite : x < c.count)
    (inside : p < size) (keeps : 0 < Measure.prefixLength p)
    (weight : c.weights.getD (Measure.prefixLength p - 1) 1 = w) (split : x = q * w + r)
    (remainder : r < w) :
    c.progRank size p x = if p % 2 = 0 then q * w else min (q * w + w) c.count := by
  have cut : x - x % w = q * w := by
    rw [split, Nat.mul_add_mod_of_lt remainder]
    omega
  simp [progRank, Nat.not_le.2 finite, Nat.not_le.2 inside, Nat.pos_iff_ne_zero.1 keeps,
    weight, cut]

end Scale

open ParityGames.Measure

namespace Solver

variable {M : Maximum}

theorem prefixLength_le_bounds (shape : M.bounds.size = M.size / 2) {p : Nat}
    (inside : p < M.size) : prefixLength p ≤ M.bounds.size := by
  unfold prefixLength
  omega

/-- `progOf` on the `⊤` measure. -/
theorem progOf_top {p : Nat} (inside : p < M.size) {m : Measure} (fits : m.Fits M)
    (top : m.top = true) : progOf M p m = topOf M := by
  simp [progOf, inside, fits.size_eq, top]

/-- `progOf` on a vector: the cut, raised for an odd priority, `⊤` when the
raise finds no digit below its bound. -/
theorem progOf_vector {p : Nat} (inside : p < M.size) {m : Measure} (fits : m.Fits M)
    (finite : m.top = false) :
    progOf M p m =
      let cut := cutAfter m.odd (prefixLength p) M.bounds.size
      if p % 2 = 0 then ⟨cut, M.size, false, M⟩
      else match lastBelow cut M.bounds (prefixLength p) with
        | some j => ⟨zeroBetween (cut.modify j (· + 1)) (j + 1) (prefixLength p), M.size, false, M⟩
        | none => ⟨cut, M.size, true, M⟩ := by
  simp only [progOf, inside, fits.size_eq, finite, raisePrefix, decide_true, Bool.and_self,
    if_true, Bool.false_eq_true, if_false, beq_iff_eq]
  split
  · rfl
  · split <;> rename_i found <;> simp only [found] <;> rfl

/-- The components of the cut of a vector. -/
theorem cut_toList (shape : M.bounds.size = M.size / 2) {p : Nat} (inside : p < M.size)
    {m : Measure} (fits : m.Fits M) :
    (cutAfter m.odd (prefixLength p) M.bounds.size).toList =
      m.odd.toList.take (prefixLength p) ++
        List.replicate (m.odd.toList.length - prefixLength p) 0 := by
  have within := prefixLength_le_bounds shape inside
  rw [← fits.length, Array.length_toList]
  exact cutAfter_toList (by rw [fits.length]; exact within)

/-- The least measure an edge asks for fits the maximum. -/
theorem fits_progOf (shape : M.bounds.size = M.size / 2) {p : Nat} (inside : p < M.size)
    {m : Measure} (fits : m.Fits M) : (progOf M p m).Fits M := by
  cases top : m.top
  · have within := prefixLength_le_bounds shape inside
    have lengthEq : m.odd.toList.length = M.bounds.toList.length := fits.digits.length_eq
    have cutList := cut_toList shape inside fits
    have withinList : prefixLength p ≤ m.odd.toList.length := by simp [fits.length]; omega
    have cutFits : List.Forall₂ (· ≤ ·)
        (cutAfter m.odd (prefixLength p) M.bounds.size).toList M.bounds.toList := by
      apply forall₂_of_digits (by simp [cutList, ← lengthEq]; omega)
      intro t
      have atMost := digit_le_bound fits.digits t
      rw [cutList, getElem?_cut withinList]
      split_ifs <;> simp_all
    rw [progOf_vector inside fits top]
    by_cases parity : p % 2 = 0
    · simp only [parity, if_true]
      exact ⟨rfl, rfl, cutFits⟩
    · simp only [parity, if_false]
      split
      · rename_i j found
        obtain ⟨order, below, _⟩ := lastBelow_eq_some found
        rw [array_getD_eq, array_getD_eq, cutList, getElem?_cut withinList, if_pos order]
          at below
        refine ⟨rfl, rfl, ?_⟩
        rw [raised_cut_toList cutList order withinList]
        have raisedInside : j < m.odd.toList.length := by omega
        apply forall₂_of_digits (by
          simp only [List.length_append, List.length_take, List.length_cons,
            List.length_replicate]
          omega)
        intro t
        have atMost := digit_le_bound fits.digits t
        rw [getElem?_raised (by omega)]
        split_ifs with before atRaised
        · exact atMost
        · subst atRaised
          exact Nat.succ_le_of_lt (by simpa using below)
        · simp
        · simp
      · exact ⟨rfl, rfl, cutFits⟩
  · rw [progOf_top inside fits top]
    exact fits_topOf M

/-- On numbers, the least measure an edge asks for is `Scale.progRank`. -/
theorem rank_progOf (shape : M.bounds.size = M.size / 2) {p : Nat} (inside : p < M.size)
    {m : Measure} (fits : m.Fits M) :
    (Scale.ofMaximum M).rank (progOf M p m) =
      (Scale.ofMaximum M).progRank M.size p ((Scale.ofMaximum M).rank m) := by
  cases top : m.top
  · have within := prefixLength_le_bounds shape inside
    have lengthEq : m.odd.toList.length = M.bounds.toList.length := fits.digits.length_eq
    have cutList := cut_toList shape inside fits
    have withinList : prefixLength p ≤ m.odd.toList.length := by simp [fits.length]; omega
    have cutSize : (cutAfter m.odd (prefixLength p) M.bounds.size).size = M.bounds.size := by
      rw [← Array.length_toList, cutList, List.length_append, List.length_take,
        List.length_replicate, Nat.min_eq_left withinList, Array.length_toList, fits.length]
      have := fits.length
      omega
    -- the number of the vector, split after the digits a source of priority `p` keeps
    have rankSplit := Scale.rank_eq_value M fits.length top
    rw [value_take_drop (prefixLength p) lengthEq] at rankSplit
    have remainder := value_lt (List.forall₂_drop (prefixLength p) fits.digits)
    have cutValue : (Scale.ofMaximum M).rank ⟨cutAfter m.odd (prefixLength p) M.bounds.size,
        M.size, false, M⟩ = value (m.odd.toList.take (prefixLength p))
          (M.bounds.toList.take (prefixLength p)) *
            radixProduct (M.bounds.toList.drop (prefixLength p)) := by
      rw [Scale.rank_eq_value M cutSize rfl, cutList, lengthEq]
      exact value_cut _ lengthEq
    rw [progOf_vector inside fits top]
    by_cases keeps : prefixLength p = 0
    · have atZero : p = 0 := by unfold prefixLength at keeps; omega
      subst atZero
      have finite := rank_lt_count fits top
      simp only [Nat.zero_mod, if_true]
      rw [cutValue]
      simp [Scale.progRank, Nat.not_le.2 finite, keeps]
    rw [Scale.progRank_of_split _ (rank_lt_count fits top) inside (by omega)
      (Scale.getD_weights M (by omega) within) rankSplit remainder]
    by_cases parity : p % 2 = 0
    · simp only [parity, if_true]
      exact cutValue
    simp only [parity, if_false]
    have countSplit : (Scale.ofMaximum M).count =
        radixProduct (M.bounds.toList.take (prefixLength p)) *
          radixProduct (M.bounds.toList.drop (prefixLength p)) := by
      rw [Scale.count_ofMaximum, ← radixProduct_append, List.take_append_drop]
    have prefixBound := value_lt (List.forall₂_take (prefixLength p) fits.digits)
    have roomForRaise := Nat.mul_le_mul_right (radixProduct (M.bounds.toList.drop (prefixLength p)))
      (Nat.succ_le_of_lt prefixBound)
    split
    · rename_i j found
      obtain ⟨order, _, atBounds⟩ := lastBelow_eq_some found
      have baseEq := base_eq_of_lastBelow_some fits.digits rfl cutList order withinList atBounds
      have boundsSplit : M.bounds.toList =
          M.bounds.toList.take j ++ M.bounds.toList[j]?.getD 0 :: M.bounds.toList.drop (j + 1) := by
        rw [List.getElem?_eq_getElem (by omega), Option.getD_some, ← List.drop_eq_getElem_cons,
          List.take_append_drop]
      have raisedSize : (zeroBetween ((cutAfter m.odd (prefixLength p) M.bounds.size).modify j
          (· + 1)) (j + 1) (prefixLength p)).size = M.bounds.size := by
        rw [← Array.length_toList, raised_cut_toList cutList order withinList]
        simp only [List.length_append, List.length_take, List.length_cons, List.length_replicate,
          Array.length_toList] at lengthEq ⊢
        omega
      have restLength : m.odd.toList.length - j - 1 = (M.bounds.toList.drop (j + 1)).length := by
        simp only [List.length_drop]
        omega
      rw [Scale.rank_eq_value M raisedSize rfl, raised_cut_toList cutList order withinList]
      conv_lhs => rw [boundsSplit]
      rw [restLength]
      rw [value_raise _ _ _ (by simp only [List.length_take, lengthEq]), ← boundsSplit, baseEq]
      have suffixAtBounds : value (m.odd.toList.take (prefixLength p) ++
            M.bounds.toList.drop (prefixLength p))
          (M.bounds.toList.take (prefixLength p) ++ M.bounds.toList.drop (prefixLength p)) =
            value (m.odd.toList.take (prefixLength p)) (M.bounds.toList.take (prefixLength p)) *
                radixProduct (M.bounds.toList.drop (prefixLength p)) +
              (radixProduct (M.bounds.toList.drop (prefixLength p)) - 1) :=
        value_append_self _ (by simp only [List.length_take, lengthEq])
      rw [List.take_append_drop] at suffixAtBounds
      rw [suffixAtBounds]
      have positive := radixProduct_pos (M.bounds.toList.drop (prefixLength p))
      rw [countSplit, Nat.min_eq_left (by rw [Nat.succ_mul] at roomForRaise; exact roomForRaise)]
      omega
    · rename_i none
      have prefixEq := take_eq_of_lastBelow_none fits.digits rfl cutList withinList none
      rw [rank_top _ _ rfl, prefixEq, value_self, countSplit]
      have positive := radixProduct_pos (M.bounds.toList.take (prefixLength p))
      rw [Nat.min_eq_right (by rw [← Nat.succ_mul]; exact Nat.le_of_eq (by congr 1; omega))]
  · rw [progOf_top inside fits top, rank_top _ _ rfl, rank_top _ m top]
    simp [Scale.progRank]

end Solver

end ParityGames
