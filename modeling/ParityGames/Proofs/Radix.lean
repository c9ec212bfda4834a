import ParityGames.Measure.Rank
import Mathlib.Data.List.Forall2
import Mathlib.Tactic.Ring

/-!
# Digit lists in mixed radix

The finite progress measures of a maximum are the digit lists whose digit `i`
runs from `0` to a bound `bᵢ`.  Read most significant digit first, such a list
is a number in mixed radix: a digit weighs the product of the radices `b + 1`
of the digits after it, and the lists of a given length are numbered
`0, 1, …, ∏ (bᵢ + 1) - 1`.

This file proves the facts the solver's arithmetic rests on: the number of a
fitting list is below the product of the radices (`value_lt`), comparing two
lists lexicographically is comparing their numbers
(`compareLists_eq_compare`), a list splits into a prefix and a suffix as a
number splits into a quotient and a remainder (`value_append`), and raising
the last digit below its bound while zeroing the digits after it adds one
(`value_raise`).
-/

namespace ParityGames

namespace Radix

open List

/-- The number of digit lists under a list of bounds: the product of the
radices `b + 1`. -/
def radixProduct (bs : List Nat) : Nat := bs.foldr (fun b w => (b + 1) * w) 1

/-- The number a digit list stands for under a list of bounds, most
significant digit first. -/
def value : List Nat → List Nat → Nat
  | d :: ds, _ :: bs => d * radixProduct bs + value ds bs
  | _, _ => 0

@[simp]
theorem radixProduct_nil : radixProduct [] = 1 := rfl

@[simp]
theorem radixProduct_cons (b : Nat) (bs : List Nat) :
    radixProduct (b :: bs) = (b + 1) * radixProduct bs := rfl

theorem radixProduct_pos (bs : List Nat) : 0 < radixProduct bs := by
  induction bs with
  | nil => simp
  | cons b bs ih =>
    rw [radixProduct_cons]
    exact Nat.mul_pos (Nat.succ_pos b) ih

theorem radixProduct_append (bs cs : List Nat) :
    radixProduct (bs ++ cs) = radixProduct bs * radixProduct cs := by
  induction bs with
  | nil => simp
  | cons b bs ih => simp [ih, Nat.mul_assoc]

@[simp]
theorem value_nil_left (bs : List Nat) : value [] bs = 0 := by
  cases bs <;> rfl

@[simp]
theorem value_nil_right (ds : List Nat) : value ds [] = 0 := by
  cases ds <;> rfl

@[simp]
theorem value_cons (d b : Nat) (ds bs : List Nat) :
    value (d :: ds) (b :: bs) = d * radixProduct bs + value ds bs := rfl

/-- A smaller leading digit gives a smaller number, whatever follows. -/
theorem lead_lt_of_lt {d e x y w : Nat} (digits : d < e) (rest : x < w) :
    d * w + x < e * w + y :=
  calc d * w + x < d * w + w := by omega
    _ = (d + 1) * w := by ring
    _ ≤ e * w := Nat.mul_le_mul_right w digits
    _ ≤ e * w + y := Nat.le_add_right _ _

/-- The number of a fitting list is below the product of the radices. -/
theorem value_lt {ds bs : List Nat} (fits : Forall₂ (· ≤ ·) ds bs) :
    value ds bs < radixProduct bs := by
  induction fits with
  | nil => simp
  | @cons d b ds bs digit _ ih =>
    calc value (d :: ds) (b :: bs) = d * radixProduct bs + value ds bs := rfl
      _ < (b + 1) * radixProduct bs + 0 := lead_lt_of_lt (by omega) ih
      _ = radixProduct (b :: bs) := by simp

/-- Two comparisons agree when their strict orders do. -/
theorem compare_eq_compare {a b c d : Nat} (lt : a < b ↔ c < d) (gt : b < a ↔ d < c) :
    compare a b = compare c d := by
  rcases Nat.lt_trichotomy c d with less | same | greater
  · rw [Nat.compare_eq_lt.2 less, Nat.compare_eq_lt.2 (lt.2 less)]
  · have notLess : ¬ a < b := fun h => by have := lt.1 h; omega
    have notGreater : ¬ b < a := fun h => by have := gt.1 h; omega
    rw [Nat.compare_eq_eq.2 same, Nat.compare_eq_eq.2 (by omega)]
  · rw [Nat.compare_eq_gt.2 greater, Nat.compare_eq_gt.2 (gt.2 greater)]

/-- Lexicographic comparison of fitting lists is comparison of their numbers. -/
theorem compareLists_eq_compare {ds es bs : List Nat} (dsFit : Forall₂ (· ≤ ·) ds bs)
    (esFit : Forall₂ (· ≤ ·) es bs) :
    Measure.compareLists ds es = compare (value ds bs) (value es bs) := by
  induction dsFit generalizing es with
  | nil =>
    cases esFit
    rfl
  | @cons d b ds bs _ dsTail ih =>
    cases esFit with
    | @cons e _ es _ _ esTail =>
      have dsBound := value_lt dsTail
      have esBound := value_lt esTail
      simp only [Measure.compareLists, value_cons]
      by_cases less : d < e
      · rw [if_pos less, eq_comm, Nat.compare_eq_lt]
        exact lead_lt_of_lt less dsBound
      · by_cases greater : d > e
        · rw [if_neg less, if_pos greater, eq_comm, Nat.compare_eq_gt]
          exact lead_lt_of_lt greater esBound
        · rw [if_neg less, if_neg greater, ih esTail]
          have same : d = e := by omega
          subst same
          apply compare_eq_compare <;> omega

/-- Fitting lists with the same number are the same list. -/
theorem eq_of_value_eq {ds es bs : List Nat} (dsFit : Forall₂ (· ≤ ·) ds bs)
    (esFit : Forall₂ (· ≤ ·) es bs) (same : value ds bs = value es bs) : ds = es := by
  induction dsFit generalizing es with
  | nil =>
    cases esFit
    rfl
  | @cons d b ds bs _ dsTail ih =>
    cases esFit with
    | @cons e _ es _ _ esTail =>
      have dsBound := value_lt dsTail
      have esBound := value_lt esTail
      simp only [value_cons] at same
      have digits : d = e := by
        rcases Nat.lt_trichotomy d e with less | equal | greater
        · exact absurd same (Nat.ne_of_lt (lead_lt_of_lt less dsBound))
        · exact equal
        · exact absurd same.symm (Nat.ne_of_lt (lead_lt_of_lt greater esBound))
      subst digits
      rw [ih esTail (by omega)]

/-- A list splits into a prefix and a suffix as its number splits into the
prefix's number times the suffix's radix product, plus the suffix's number. -/
theorem value_append {ds₁ bs₁ : List Nat} (ds₂ bs₂ : List Nat)
    (length : ds₁.length = bs₁.length) :
    value (ds₁ ++ ds₂) (bs₁ ++ bs₂) =
      value ds₁ bs₁ * radixProduct bs₂ + value ds₂ bs₂ := by
  induction ds₁ generalizing bs₁ with
  | nil =>
    cases bs₁ with
    | nil => simp
    | cons b bs => simp at length
  | cons d ds ih =>
    cases bs₁ with
    | nil => simp at length
    | cons b bs =>
      simp only [List.cons_append, value_cons, radixProduct_append,
        ih (by simpa using length)]
      ring

@[simp]
theorem value_replicate_zero (k : Nat) (bs : List Nat) : value (replicate k 0) bs = 0 := by
  induction k generalizing bs with
  | zero => simp
  | succ k ih =>
    cases bs with
    | nil => simp
    | cons b bs => simp [List.replicate_succ, ih]

/-- Raising digits raises the number. -/
theorem value_le_value {ds es : List Nat} (raised : Forall₂ (· ≤ ·) ds es) (bs : List Nat) :
    value ds bs ≤ value es bs := by
  induction raised generalizing bs with
  | nil => simp
  | @cons d e ds es digit _ ih =>
    cases bs with
    | nil => simp
    | cons b bs =>
      rw [value_cons, value_cons]
      exact Nat.add_le_add (Nat.mul_le_mul_right _ digit) (ih bs)

/-- Raising digits, the last one strictly, adds at least one to the number. -/
theorem value_lt_value_of_last {ds es bs : List Nat} {d e : Nat} (b : Nat)
    (raised : Forall₂ (· ≤ ·) ds es) (last : d < e) (length : ds.length = bs.length) :
    value (ds ++ [d]) (bs ++ [b]) < value (es ++ [e]) (bs ++ [b]) := by
  have lower := Nat.mul_le_mul_right (radixProduct [b]) (value_le_value raised bs)
  rw [value_append _ _ length, value_append _ _ (raised.length_eq ▸ length)]
  simp only [value_cons, value_nil_left, radixProduct_nil, Nat.mul_one, Nat.add_zero]
  omega

/-- The list of the bounds themselves is the last one. -/
theorem value_self (bs : List Nat) : value bs bs = radixProduct bs - 1 := by
  induction bs with
  | nil => simp
  | cons b bs ih =>
    have positive := radixProduct_pos bs
    rw [value_cons, ih, radixProduct_cons, Nat.add_mul, Nat.one_mul]
    omega

/-- A list is its first `k` digits followed by the rest, read as quotient and
remainder by the radix product of the rest. -/
theorem value_take_drop {ds bs : List Nat} (k : Nat) (length : ds.length = bs.length) :
    value ds bs = value (ds.take k) (bs.take k) * radixProduct (bs.drop k) +
      value (ds.drop k) (bs.drop k) := by
  conv_lhs => rw [← List.take_append_drop k ds, ← List.take_append_drop k bs]
  exact value_append _ _ (by simp [length])

/-- Keeping the first `k` digits and zeroing the rest keeps the quotient and
drops the remainder. -/
theorem value_cut {ds bs : List Nat} (k : Nat) (length : ds.length = bs.length) :
    value (ds.take k ++ replicate (bs.length - k) 0) bs =
      value (ds.take k) (bs.take k) * radixProduct (bs.drop k) := by
  conv_lhs => rw [← List.take_append_drop k bs]
  rw [value_append _ _ (by simp [length]), value_replicate_zero, Nat.add_zero]

/-- A prefix followed by the bounds of the rest is the prefix's last number
before the next. -/
theorem value_append_self {ds₁ bs₁ : List Nat} (bs₂ : List Nat) (length : ds₁.length = bs₁.length) :
    value (ds₁ ++ bs₂) (bs₁ ++ bs₂) = value ds₁ bs₁ * radixProduct bs₂ + (radixProduct bs₂ - 1) := by
  rw [value_append _ _ length, value_self]

/-- Raising a digit and zeroing the digits after it, which were at their
bounds, adds one to the number. -/
theorem value_raise {ds₁ bs₁ : List Nat} (bs₂ : List Nat) (d b : Nat)
    (length : ds₁.length = bs₁.length) :
    value (ds₁ ++ (d + 1) :: replicate bs₂.length 0) (bs₁ ++ b :: bs₂) =
      value (ds₁ ++ d :: bs₂) (bs₁ ++ b :: bs₂) + 1 := by
  have positive := radixProduct_pos bs₂
  rw [value_append _ _ length, value_append _ _ length, value_cons, value_cons,
    value_replicate_zero, value_self, Nat.add_mul, Nat.one_mul]
  omega

end Radix

end ParityGames
