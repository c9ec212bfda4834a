import ParityGames.Proofs.MeasureOrder
import ParityGames.Measure.Store

/-!
# Measure objects under any sequence of calls

A client holds measure objects: maxima built from per-index bounds, zeros and
`⊤`s made from any object, clones, and the objects that calls on them leave,
two operands possibly being one object (`Measure.Store.Reachable`).  A
maximum is an object like the others, so the calls that change objects change
maxima too when they are given one.

Every object keeps one component per odd index of its size and a binding to
an object of the store (`Store.Shaped`).  While every object also has the
size of its maximum (`Store.Coherent`), every position a call reads exists,
so no call stops the program.  Every call keeps that but one: a copy that
gives an object other objects are bound to a different size
(`Call.Resizes`).  After it, setting a value of a bound object may read a
bound its maximum no longer has (`copy_into_maximum_stops_setValue`).  The calls that take an index
or a boundary refuse exactly those outside the receiver, or outside either
operand (`Store.refusal`), and a refused call or one answering `false` changes
nothing.  Calls that keep to one maximum, never changing it, keep every object
bound to it within its bounds (`Store.FitsUnder`).
-/

namespace ParityGames

namespace Measure

variable {m n m' : Measure} {M : Maximum}

section Refusals

/-- The check of a boundary against two measures. -/
theorem checkBoundary_eq_error_iff {op : PartialOp} {b : Int} {e : MeasureError} :
    checkBoundary op m b n = .error e ↔
      (b < 0 ∨ m.size ≤ b ∨ n.size ≤ b) ∧ e = .partialBoundary op b m.size n.size := by
  unfold checkBoundary
  split
  · rename_i outside
    simp only [Bool.or_eq_true, decide_eq_true_eq] at outside
    simp only [Except.error.injEq]
    constructor
    · intro same
      exact ⟨by omega, same.symm⟩
    · intro refused
      exact refused.2.symm
  · rename_i inside
    simp only [Bool.or_eq_true, decide_eq_true_eq] at inside
    simp only [reduceCtorEq, false_iff, not_and]
    omega

/-- A call that first checks a boundary is refused exactly when the check
refuses it. -/
theorem bind_checkBoundary_eq_error_iff {α : Type} {op : PartialOp} {b : Int} {e : MeasureError}
    {rest : Nat → Except MeasureError α} (rest_ok : ∀ k, ∃ x, rest k = .ok x) :
    (checkBoundary op m b n >>= rest) = .error e ↔ checkBoundary op m b n = .error e := by
  cases checked : checkBoundary op m b n with
  | error e' => simp [bind, Except.bind]
  | ok k =>
    obtain ⟨x, answered⟩ := rest_ok k
    simp [bind, Except.bind, answered]

theorem value_eq_error_iff {i : Int} {e : MeasureError} :
    m.value i = .error e ↔ (i < 0 ∨ m.size ≤ i) ∧ e = .valueIndex i m.size := by
  unfold value
  split
  · rename_i outside
    simp only [Bool.or_eq_true, decide_eq_true_eq] at outside
    simp only [Except.error.injEq]
    exact ⟨fun same => ⟨by omega, same.symm⟩, fun refused => refused.2.symm⟩
  · rename_i inside
    simp only [Bool.or_eq_true, decide_eq_true_eq] at inside
    split <;> simp only [reduceCtorEq, false_iff, not_and] <;> omega

theorem setValue_eq_error_iff {i v : Int} {e : MeasureError} :
    m.setValue i v = .error e ↔ (i < 0 ∨ m.size ≤ i) ∧ e = .valueIndex i m.size := by
  unfold setValue
  split
  · rename_i outside
    simp only [Bool.or_eq_true, decide_eq_true_eq] at outside
    simp only [Except.error.injEq]
    exact ⟨fun same => ⟨by omega, same.symm⟩, fun refused => refused.2.symm⟩
  · rename_i inside
    simp only [Bool.or_eq_true, decide_eq_true_eq] at inside
    dsimp only
    split <;> simp only [reduceCtorEq, false_iff, not_and] <;> omega

theorem partialIncrement_eq_error_iff {b : Int} {e : MeasureError} :
    m.partialIncrement b = .error e ↔ (b < 0 ∨ m.size ≤ b) ∧ e = .incrementBoundary b m.size := by
  unfold partialIncrement
  split
  · rename_i outside
    simp only [Bool.or_eq_true, decide_eq_true_eq] at outside
    simp only [Except.error.injEq]
    exact ⟨fun same => ⟨by omega, same.symm⟩, fun refused => refused.2.symm⟩
  · rename_i inside
    simp only [Bool.or_eq_true, decide_eq_true_eq] at inside
    split
    · simp only [reduceCtorEq, false_iff, not_and]
      omega
    · split <;> simp only [reduceCtorEq, false_iff, not_and] <;> omega

theorem partialGreater_eq_error_iff {b : Int} {e : MeasureError} :
    m.partialGreater b n = .error e ↔
      (b < 0 ∨ m.size ≤ b ∨ n.size ≤ b) ∧ e = .partialBoundary .greater b m.size n.size := by
  rw [← checkBoundary_eq_error_iff]
  apply bind_checkBoundary_eq_error_iff
  intro k
  by_cases top : m.top <;> by_cases otherTop : n.top <;> simp [top, otherTop, pure, Except.pure]

theorem partialGreaterOrEqual_eq_error_iff {b : Int} {e : MeasureError} :
    m.partialGreaterOrEqual b n = .error e ↔
      (b < 0 ∨ m.size ≤ b ∨ n.size ≤ b) ∧
        e = .partialBoundary .greaterOrEqual b m.size n.size := by
  rw [← checkBoundary_eq_error_iff]
  apply bind_checkBoundary_eq_error_iff
  intro k
  by_cases top : m.top <;> by_cases otherTop : n.top <;> simp [top, otherTop, pure, Except.pure]

theorem makePartialEqualOf_eq_error_iff {b : Int} {e : MeasureError} :
    m.makePartialEqualOf b n = .error e ↔
      (b < 0 ∨ m.size ≤ b ∨ n.size ≤ b) ∧ e = .partialBoundary .makeEqual b m.size n.size := by
  rw [← checkBoundary_eq_error_iff]
  apply bind_checkBoundary_eq_error_iff
  intro k
  by_cases otherTop : n.top <;> simp [otherTop, pure, Except.pure]

theorem makePartialEqualOfSelf_eq_error_iff {b : Int} {e : MeasureError} :
    m.makePartialEqualOfSelf b = .error e ↔
      (b < 0 ∨ m.size ≤ b) ∧ e = .partialBoundary .makeEqual b m.size m.size := by
  unfold makePartialEqualOfSelf
  rw [bind_checkBoundary_eq_error_iff, checkBoundary_eq_error_iff]
  · simp only [or_self]
  · intro k
    exact ⟨m, rfl⟩

end Refusals

section Answers

/-- What a set value can do: refuse an even index or a value outside its
bound and change nothing, or set the component. -/
theorem setValue_cases {i v : Int} {r : Bool} (answered : m.setValue i v = .ok (r, m')) :
    (r = false ∧ m' = m) ∨
      (r = true ∧ 0 ≤ v ∧ v ≤ (m.bound.bounds[(i / 2).toNat]?.getD 0 : Int) ∧
        m' = { m with odd := m.odd.set! (i / 2).toNat v.toNat }) := by
  unfold setValue at answered
  split at answered
  · cases answered
  dsimp only at answered
  split at answered
  · cases answered
    exact .inl ⟨rfl, rfl⟩
  · rename_i within
    simp only [Bool.or_eq_true, decide_eq_true_eq, not_or] at within
    cases answered
    exact .inr ⟨rfl, by omega, by omega, rfl⟩

/-- An increment that succeeds raises the last component below its bound. -/
theorem incrementPrefix_eq_some {odd bounds odd' : Array Nat} {k : Nat}
    (raised : incrementPrefix odd bounds k = some odd') :
    ∃ j, lastBelow odd bounds k = some j ∧
      odd' = zeroBetween (odd.modify j (· + 1)) (j + 1) k := by
  unfold incrementPrefix raisePrefix at raised
  cases found : lastBelow odd bounds k with
  | none => simp [found] at raised
  | some j =>
    simp only [found, Option.some.injEq] at raised
    exact ⟨j, rfl, raised.symm⟩

/-- What an increment can do: leave a `⊤` or a prefix at its bounds as it is,
or raise the last component of the prefix below its bound and zero the
components after it in the prefix. -/
theorem partialIncrement_cases {b : Int} {r : Bool}
    (answered : m.partialIncrement b = .ok (r, m')) :
    (r = false ∧ m' = m) ∨
      (r = true ∧ ∃ j, lastBelow m.odd m.bound.bounds (prefixLength b.toNat) = some j ∧
        m' = { m with odd := zeroBetween (m.odd.modify j (· + 1)) (j + 1) (prefixLength b.toNat) }) := by
  unfold partialIncrement at answered
  split at answered
  · cases answered
  split at answered
  · cases answered
    exact .inl ⟨rfl, rfl⟩
  · split at answered
    · rename_i odd raised
      obtain ⟨j, found, rfl⟩ := incrementPrefix_eq_some raised
      cases answered
      exact .inr ⟨rfl, j, found, rfl⟩
    · cases answered
      exact .inl ⟨rfl, rfl⟩

theorem setValue_false {i v : Int} (answered : m.setValue i v = .ok (false, m')) : m' = m := by
  rcases setValue_cases answered with ⟨-, same⟩ | ⟨set, -⟩
  · exact same
  · cases set

theorem partialIncrement_false {b : Int} (answered : m.partialIncrement b = .ok (false, m')) :
    m' = m := by
  rcases partialIncrement_cases answered with ⟨-, same⟩ | ⟨raised, -⟩
  · exact same
  · cases raised

theorem makePartialEqualOf_cases {b : Int} (made : m.makePartialEqualOf b n = .ok m') :
    (n.top = true ∧ m' = { m with odd := Array.replicate m.odd.size 0, top := true }) ∨
      (n.top = false ∧ ∃ k, checkBoundary .makeEqual m b n = .ok k ∧
        m' = { m with odd := cutAfter n.odd (prefixLength k) m.odd.size, top := false }) := by
  unfold makePartialEqualOf at made
  cases checked : checkBoundary .makeEqual m b n with
  | error e => simp [checked, bind, Except.bind] at made
  | ok k =>
    simp only [checked, bind, Except.bind] at made
    cases otherTop : n.top
    · simp only [otherTop, Bool.false_eq_true, if_false, pure, Except.pure, Except.ok.injEq] at made
      exact .inr ⟨rfl, k, rfl, made.symm⟩
    · simp only [otherTop, if_true, pure, Except.pure, Except.ok.injEq] at made
      exact .inl ⟨rfl, made.symm⟩

theorem makePartialEqualOfSelf_ok {b : Int} (made : m.makePartialEqualOfSelf b = .ok m') :
    m' = m := by
  unfold makePartialEqualOfSelf at made
  cases checked : checkBoundary .makeEqual m b m with
  | error e => simp [checked, bind, Except.bind] at made
  | ok k =>
    simp only [checked, bind, Except.bind, pure, Except.pure, Except.ok.injEq] at made
    exact made.symm

end Answers

section Sizes

theorem size_zeroBetween (a : Array Nat) (i k : Nat) : (zeroBetween a i k).size = a.size := by
  fun_induction zeroBetween a i k with
  | case1 a i _ ih => rw [ih, Array.size_setIfInBounds]
  | case2 => rfl

theorem size_cutAfter (src : Array Nat) (k n : Nat) : (cutAfter src k n).size = n := by
  rw [← Array.length_toList, cutAfter, cutAfter_go_toList]
  simp

/-- Setting a value keeps the number of components and the size. -/
theorem shape_setValue {i v : Int} {r : Bool} (answered : m.setValue i v = .ok (r, m')) :
    m'.odd.size = m.odd.size ∧ m'.size = m.size := by
  rcases setValue_cases answered with ⟨-, rfl⟩ | ⟨-, -, -, rfl⟩
  · exact ⟨rfl, rfl⟩
  · exact ⟨Array.size_set! _ _ _, rfl⟩

theorem shape_partialIncrement {b : Int} {r : Bool} (answered : m.partialIncrement b = .ok (r, m')) :
    m'.odd.size = m.odd.size ∧ m'.size = m.size := by
  rcases partialIncrement_cases answered with ⟨-, rfl⟩ | ⟨-, j, -, rfl⟩
  · exact ⟨rfl, rfl⟩
  · exact ⟨by simp [size_zeroBetween], rfl⟩

theorem shape_makePartialEqualOf {b : Int} (made : m.makePartialEqualOf b n = .ok m') :
    m'.odd.size = m.odd.size ∧ m'.size = m.size := by
  rcases makePartialEqualOf_cases made with ⟨-, rfl⟩ | ⟨-, k, -, rfl⟩
  · exact ⟨by simp, rfl⟩
  · exact ⟨size_cutAfter _ _ _, rfl⟩

end Sizes

section Bounds

theorem Fits.getD_le (fits : m.Fits M) (t : Nat) : m.odd[t]?.getD 0 ≤ M.bounds[t]?.getD 0 := by
  simpa using digit_le_bound fits.digits t

/-- A change that keeps the maximum, the size and the number of components
keeps a measure within its bounds when every new component is at most its
bound. -/
theorem Fits.of_digits (fits : m.Fits M) (bound : m'.bound = m.bound) (size : m'.size = m.size)
    (length : m'.odd.size = m.odd.size)
    (digits : ∀ t : Nat, m'.odd[t]?.getD 0 ≤ M.bounds[t]?.getD 0) : m'.Fits M :=
  ⟨bound.trans fits.bound_eq, size.trans fits.size_eq,
    forall₂_of_digits (by simpa [length] using fits.length) (by simpa using digits)⟩

theorem fits_ofMaximum (M : Maximum) : (ofMaximum M).Fits M :=
  ⟨rfl, rfl, List.forall₂_same.2 fun _ _ => Nat.le_refl _⟩

theorem Fits.setValue (fits : m.Fits M) {i v : Int} {r : Bool}
    (answered : m.setValue i v = .ok (r, m')) : m'.Fits M := by
  rcases setValue_cases answered with ⟨-, rfl⟩ | ⟨-, nonNegative, within, rfl⟩
  · exact fits
  refine fits.of_digits rfl rfl (Array.size_set! _ _ _) ?_
  intro t
  rw [fits.bound_eq] at within
  simp only [Array.set!_eq_setIfInBounds, Array.getElem?_setIfInBounds]
  split
  · rename_i atIndex
    subst atIndex
    split
    · simp only [Option.getD_some]
      omega
    · exact Nat.zero_le _
  · exact fits.getD_le t

theorem Fits.partialIncrement (fits : m.Fits M) {b : Int} {r : Bool}
    (answered : m.partialIncrement b = .ok (r, m')) : m'.Fits M := by
  rcases partialIncrement_cases answered with ⟨-, rfl⟩ | ⟨-, j, found, rfl⟩
  · exact fits
  obtain ⟨-, below, -⟩ := lastBelow_eq_some found
  refine fits.of_digits rfl rfl (by simp [size_zeroBetween]) ?_
  intro t
  have atMost := fits.getD_le t
  rw [fits.bound_eq] at below
  simp only [Array.getD_eq_getD_getElem?] at below
  rw [getElem?_zeroBetween]
  -- the zeroed components are zero, the raised one was below its bound
  split
  · cases (m.odd.modify j (· + 1))[t]? <;> simp
  · rw [Array.getElem?_modify]
    split
    · rename_i atRaised
      subst atRaised
      cases present : m.odd[j]? with
      | none => simp
      | some x =>
        rw [present] at below
        simp only [Option.map_some, Option.getD_some] at below ⊢
        omega
    · exact atMost

theorem Fits.makePartialEqualOf (fits : m.Fits M) (other : n.Fits M) {b : Int}
    (made : m.makePartialEqualOf b n = .ok m') : m'.Fits M := by
  rcases makePartialEqualOf_cases made with ⟨-, rfl⟩ | ⟨-, k, -, rfl⟩
  · refine fits.of_digits rfl rfl (by simp) ?_
    intro t
    simp only [Array.getElem?_replicate]
    split <;> simp
  · refine fits.of_digits rfl rfl (size_cutAfter _ _ _) ?_
    intro t
    rw [← Array.getElem?_toList, cutAfter, cutAfter_go_toList, Array.emptyWithCapacity_eq,
      Nat.sub_zero, ← List.range_eq_range']
    simp only [List.nil_append, List.getElem?_map]
    by_cases inside : t < m.odd.size
    · rw [List.getElem?_range inside]
      by_cases kept : t < prefixLength k
      · simpa [kept, Array.getD_eq_getD_getElem?] using other.getD_le t
      · simp [kept]
    · rw [List.getElem?_eq_none (by simp; omega)]
      simp

theorem Fits.reset (fits : m.Fits M) : m.reset.Fits M := by
  refine fits.of_digits rfl rfl (by simp [Measure.reset]) ?_
  intro t
  simp only [Measure.reset, Array.getElem?_replicate]
  split <;> simp

theorem Fits.makeTop (fits : m.Fits M) : m.makeTop.Fits M :=
  ⟨fits.bound_eq, fits.size_eq, fits.digits⟩

end Bounds

namespace Call

/-- The addresses a call names. -/
def addresses : Call → List Nat
  | .newMaximum _ => []
  | .new a | .newTop a | .clone a | .value a _ | .setValue a _ _ | .partialIncrement a _
  | .reset a | .makeTop a | .render a => [a]
  | .compare a b | .equal a b | .less a b | .greater a b | .copyFrom a b
  | .partialGreater a _ b | .partialGreaterOrEqual a _ b | .makePartialEqualOf a _ b => [a, b]

/-- A call names only objects of the store. -/
def Refers (c : Call) (s : Store) : Prop := ∀ a ∈ c.addresses, a < s.cells.size

instance (c : Call) (s : Store) : Decidable (c.Refers s) :=
  inferInstanceAs (Decidable (∀ a ∈ c.addresses, _))

/-- A copy into an object that other objects are bound to, from an object of
another size: afterwards those objects no longer have the size of their
maximum. -/
def Resizes (c : Call) (s : Store) : Prop :=
  match c with
  | .copyFrom a b =>
    a ≠ b ∧ (s.get b).size ≠ (s.get a).size ∧ ∃ d < s.cells.size, d ≠ a ∧ (s.get d).max = a
  | _ => False

instance (c : Call) (s : Store) : Decidable (c.Resizes s) := by
  cases c <;> unfold Resizes <;> infer_instance

/-- A call keeps to the maximum at `p` when it changes no object at `p`, and
copies components into an object bound to `p` only from another one bound to
`p`.  Calls on objects bound elsewhere are free. -/
def KeepsTo (c : Call) (s : Store) (p : Nat) : Prop :=
  match c with
  | .setValue a _ _ | .partialIncrement a _ | .copyFrom a _ | .reset a | .makeTop a => a ≠ p
  | .makePartialEqualOf a _ b => a ≠ p ∧ ((s.get a).max = p → (s.get b).max = p)
  | _ => True

instance (c : Call) (s : Store) (p : Nat) : Decidable (c.KeepsTo s p) := by
  cases c <;> unfold KeepsTo <;> infer_instance

end Call

namespace Store

variable {s s' : Store} {c : Call} {p : Nat}

section Effects

/-- The object a constructor adds. -/
inductive Creates (s : Store) : Call → Cell → Prop
  | newMaximum (bounds : Array Int) :
    Creates s (.newMaximum bounds)
      (.ofMeasure (ofMaximum (.ofBounds s.cells.size bounds)) s.cells.size)
  | new (q : Nat) : Creates s (.new q) (.ofMeasure (zero (s.maximumAt q)) q)
  | newTop (q : Nat) : Creates s (.newTop q) (.ofMeasure (topOf (s.maximumAt q)) q)
  | clone (a : Nat) : Creates s (.clone a) (s.get a)

/-- The measure a call writes over its receiver. -/
inductive Rewrites (s : Store) : Call → Nat → Measure → Prop
  | setValue {a : Nat} {i v : Int} {r : Bool} {m : Measure} :
    (s.view a).setValue i v = .ok (r, m) → Rewrites s (.setValue a i v) a m
  | partialIncrement {a : Nat} {b : Int} {r : Bool} {m : Measure} :
    (s.view a).partialIncrement b = .ok (r, m) → Rewrites s (.partialIncrement a b) a m
  | makePartialEqualOf {a b : Nat} {boundary : Int} {m : Measure} : a ≠ b →
    (s.view a).makePartialEqualOf boundary (s.view b) = .ok m →
      Rewrites s (.makePartialEqualOf a boundary b) a m
  | makePartialEqualOfSelf {a : Nat} {boundary : Int} {m : Measure} :
    (s.view a).makePartialEqualOfSelf boundary = .ok m →
      Rewrites s (.makePartialEqualOf a boundary a) a m
  | reset (a : Nat) : Rewrites s (.reset a) a (s.view a).reset
  | makeTop (a : Nat) : Rewrites s (.makeTop a) a (s.view a).makeTop

/-- What a call can do to the objects: nothing, add one, write a measure over
its receiver, or copy one object into another. -/
inductive Effect (s : Store) (c : Call) : Store → Prop
  | keep : Effect s c s
  | create {cell : Cell} : Creates s c cell → Effect s c (s.alloc cell)
  | rewrite {a : Nat} {m : Measure} : Rewrites s c a m → Effect s c (s.write a m)
  | copy {a b : Nat} : c = .copyFrom a b → a ≠ b → Effect s c (s.set a (s.get b))

/-- Every call has one of the four effects. -/
theorem effect_run (s : Store) (c : Call) : Effect s c (s.run c).2 := by
  cases c with
  | newMaximum bounds => exact .create (.newMaximum bounds)
  | new q => exact .create (.new q)
  | newTop q => exact .create (.newTop q)
  | clone a => exact .create (.clone a)
  | setValue a i v =>
    cases answered : (s.view a).setValue i v with
    | error e => simp only [run, answered]; exact .keep
    | ok rm =>
      obtain ⟨r, m⟩ := rm
      simp only [run, answered]
      exact .rewrite (.setValue answered)
  | partialIncrement a b =>
    cases answered : (s.view a).partialIncrement b with
    | error e => simp only [run, answered]; exact .keep
    | ok rm =>
      obtain ⟨r, m⟩ := rm
      simp only [run, answered]
      exact .rewrite (.partialIncrement answered)
  | makePartialEqualOf a boundary b =>
    by_cases same : a = b
    · subst same
      cases made : (s.view a).makePartialEqualOfSelf boundary with
      | error e => simp only [run, if_pos, made]; exact .keep
      | ok m => simp only [run, if_pos, made]; exact .rewrite (.makePartialEqualOfSelf made)
    · cases made : (s.view a).makePartialEqualOf boundary (s.view b) with
      | error e => simp only [run, if_neg same, made]; exact .keep
      | ok m => simp only [run, if_neg same, made]; exact .rewrite (.makePartialEqualOf same made)
  | copyFrom a b =>
    by_cases same : a = b
    · simp only [run, if_pos same]; exact .keep
    · simp only [run, if_neg same]; exact .copy rfl same
  | reset a => exact .rewrite (.reset a)
  | makeTop a => exact .rewrite (.makeTop a)
  | value | compare | equal | less | greater | partialGreater | partialGreaterOrEqual | render =>
    exact .keep

theorem Rewrites.shape {a : Nat} {m : Measure} (rewrites : Rewrites s c a m) :
    m.odd.size = (s.get a).odd.size ∧ m.size = (s.get a).size := by
  cases rewrites with
  | setValue answered => exact shape_setValue answered
  | partialIncrement answered => exact shape_partialIncrement answered
  | makePartialEqualOf _ made => exact shape_makePartialEqualOf made
  | makePartialEqualOfSelf made =>
    rw [makePartialEqualOfSelf_ok made]
    exact ⟨rfl, rfl⟩
  | reset => exact ⟨by simp [Measure.reset, view], rfl⟩
  | makeTop => exact ⟨rfl, rfl⟩

end Effects

section Shapes

/-- Every object has one component per odd index of its size and is bound to
an object of the store. -/
def Shaped (s : Store) : Prop :=
  ∀ a < s.cells.size, (s.get a).odd.size = (s.get a).size / 2 ∧ (s.get a).max < s.cells.size

/-- A shaped store whose every object has the size of its maximum. -/
structure Coherent (s : Store) : Prop where
  shaped : s.Shaped
  sized : ∀ a < s.cells.size, (s.get (s.get a).max).size = (s.get a).size

theorem shaped_empty : ({} : Store).Shaped := by
  intro a inside
  simp at inside

/-- A new object has one component per odd index, and it is bound to an
object of the store or to itself. -/
theorem Creates.shape {cell : Cell} (creates : Creates s c cell) (shaped : s.Shaped)
    (refers : c.Refers s) : cell.odd.size = cell.size / 2 ∧ cell.max ≤ s.cells.size := by
  cases creates with
  | newMaximum bounds =>
    simp [Cell.ofMeasure, ofMaximum, Maximum.ofBounds]
  | new q =>
    have inside := (shaped q (refers q (by simp [Call.addresses]))).1
    exact ⟨by simpa [Cell.ofMeasure, zero, maximumAt] using inside,
      (refers q (by simp [Call.addresses])).le⟩
  | newTop q =>
    have inside := (shaped q (refers q (by simp [Call.addresses]))).1
    exact ⟨by simpa [Cell.ofMeasure, topOf, zero, maximumAt] using inside,
      (refers q (by simp [Call.addresses])).le⟩
  | clone a =>
    have shape := shaped a (refers a (by simp [Call.addresses]))
    exact ⟨shape.1, shape.2.le⟩

/-- Every call keeps every object shaped. -/
theorem Shaped.effect (shaped : s.Shaped) (refers : c.Refers s) (effect : Effect s c s') :
    s'.Shaped := by
  cases effect with
  | keep => exact shaped
  | create creates =>
    have shape := creates.shape shaped refers
    intro d inside
    rw [size_alloc] at inside
    rw [get_alloc, size_alloc]
    split
    · exact ⟨shape.1, by omega⟩
    · have old := shaped d (by omega)
      exact ⟨old.1, by omega⟩
  | @rewrite a m rewrites =>
    have shape := rewrites.shape
    intro d inside
    rw [size_write] at inside
    rw [get_write, size_write]
    split
    · rename_i written
      obtain ⟨rfl, -⟩ := written
      have old := shaped a inside
      exact ⟨by simp [Cell.ofMeasure, shape.1, shape.2, old.1], old.2⟩
    · exact shaped d inside
  | @copy a b isCopy _ =>
    subst isCopy
    have source := shaped b (refers b (by simp [Call.addresses]))
    intro d inside
    rw [size_set] at inside
    rw [get_set, size_set]
    split
    · exact source
    · exact shaped d inside

end Shapes

section Sizes

/-- A new object has the size of its maximum. -/
theorem Creates.sized {cell : Cell} (creates : Creates s c cell) (coherent : s.Coherent)
    (refers : c.Refers s) : ((s.alloc cell).get cell.max).size = cell.size := by
  cases creates with
  | newMaximum bounds => simp [get_alloc, Cell.ofMeasure]
  | new q =>
    have inside := refers q (by simp [Call.addresses])
    simp [get_alloc, Cell.ofMeasure, zero, maximumAt, Nat.ne_of_lt inside]
  | newTop q =>
    have inside := refers q (by simp [Call.addresses])
    simp [get_alloc, Cell.ofMeasure, topOf, zero, maximumAt, Nat.ne_of_lt inside]
  | clone a =>
    have inside := refers a (by simp [Call.addresses])
    have bound := (coherent.shaped a inside).2
    rw [get_alloc_of_ne _ _ (Nat.ne_of_lt bound)]
    exact coherent.sized a inside

/-- A change that keeps the number of objects and every object's size and
binding keeps the store coherent. -/
theorem Coherent.of_frame (coherent : s.Coherent) (shaped : s'.Shaped)
    (count : s'.cells.size = s.cells.size)
    (frame : ∀ d, (s'.get d).size = (s.get d).size ∧ (s'.get d).max = (s.get d).max) :
    s'.Coherent := by
  refine ⟨shaped, fun d inside => ?_⟩
  rw [(frame d).2, (frame _).1, (frame d).1]
  exact coherent.sized d (count ▸ inside)

/-- Every call but a resizing copy keeps the store coherent. -/
theorem Coherent.effect (coherent : s.Coherent) (refers : c.Refers s) (keeps : ¬ c.Resizes s)
    (effect : Effect s c s') : s'.Coherent := by
  have shaped := coherent.shaped.effect refers effect
  cases effect with
  | keep => exact coherent
  | @create cell creates =>
    refine ⟨shaped, fun d inside => ?_⟩
    rw [size_alloc] at inside
    by_cases fresh : d = s.cells.size
    · subst fresh
      rw [get_alloc_size]
      exact creates.sized coherent refers
    · have old := coherent.shaped d (by omega)
      rw [get_alloc_of_ne _ _ fresh, get_alloc_of_ne _ _ (Nat.ne_of_lt old.2)]
      exact coherent.sized d (by omega)
  | @rewrite a m rewrites =>
    refine coherent.of_frame shaped (size_write _ _ _) fun d => ?_
    rw [get_write]
    split
    · rename_i written
      obtain ⟨rfl, -⟩ := written
      exact ⟨rewrites.shape.2, rfl⟩
    · exact ⟨rfl, rfl⟩
  | @copy a b isCopy differ =>
    subst isCopy
    refine ⟨shaped, fun d inside => ?_⟩
    rw [size_set] at inside
    have sourceSized := coherent.sized b (refers b (by simp [Call.addresses]))
    by_cases target : a = d
    · subst target
      rw [get_set_self _ _ inside, get_set]
      split
      · rfl
      · exact sourceSized
    · rw [get_set_of_ne _ _ target, get_set]
      split
      · rename_i bound
        obtain ⟨bound, -⟩ := bound
        -- `d` is bound to the receiver, so the copy must not change its size
        have sizes : (s.get b).size = (s.get a).size := by
          by_contra sizes
          exact keeps ⟨differ, sizes, d, inside, Ne.symm target, bound.symm⟩
        rw [sizes, bound]
        exact coherent.sized d inside
      · exact coherent.sized d inside

/-- On a coherent store a call keeps it coherent exactly when it is not a
resizing copy. -/
theorem Coherent.run_iff (coherent : s.Coherent) (refers : c.Refers s) :
    (s.run c).2.Coherent ↔ ¬ c.Resizes s := by
  refine ⟨fun after resizes => ?_, fun keeps => coherent.effect refers keeps (effect_run s c)⟩
  cases c with
  | copyFrom a b =>
    obtain ⟨differ, sizes, d, inside, other, bound⟩ := resizes
    have sized := after.sized d (by simpa [run, differ] using inside)
    have inReceiver := refers a (by simp [Call.addresses])
    simp only [run, if_neg differ] at sized
    rw [get_set_of_ne _ _ (Ne.symm other), bound, get_set_self _ _ inReceiver] at sized
    have old := coherent.sized d inside
    rw [bound] at old
    exact sizes (sized.trans old.symm)
  | _ => exact resizes.elim

/-- On a coherent store no bound a call reads is missing. -/
theorem Coherent.boundFault_eq_none (coherent : s.Coherent) {a k : Nat}
    (inside : a < s.cells.size) (below : k < (s.get a).size / 2) : s.boundFault a k = none := by
  have shape := coherent.shaped (s.get a).max (coherent.shaped a inside).2
  simp only [boundFault]
  rw [if_pos (by rw [shape.1, coherent.sized a inside]; exact below)]

/-- On a coherent store no call stops the program. -/
theorem Coherent.fault_eq_none (coherent : s.Coherent) (refers : c.Refers s) :
    s.fault c = none := by
  cases c with
  | setValue a i v =>
    have inside := refers a (by simp [Call.addresses])
    simp only [fault, boundRead]
    split
    · rename_i reads
      dsimp only [Option.bind_some]
      exact coherent.boundFault_eq_none inside (by omega)
    · rfl
  | partialIncrement a b =>
    have inside := refers a (by simp [Call.addresses])
    simp only [fault, boundRead]
    split
    · rename_i reads
      dsimp only [Option.bind_some]
      unfold prefixLength at *
      exact coherent.boundFault_eq_none inside (by omega)
    · rfl
  | _ => rfl

theorem call_eq_of_fault (s : Store) (c : Call) (safe : s.fault c = none) :
    s.call c = .ok (s.run c) := by
  simp only [call, safe]

theorem call_eq_error_iff {f : IndexFault} : s.call c = .error f ↔ s.fault c = some f := by
  unfold call
  split <;> simp_all

end Sizes

section Refusals

/-- The refusal of a two-operand call whose boundary lies outside either
operand. -/
def partialRefusal (s : Store) (op : PartialOp) (a : Nat) (boundary : Int) (b : Nat) :
    Option MeasureError :=
  if boundary < 0 ∨ (s.get a).size ≤ boundary ∨ (s.get b).size ≤ boundary then
    some (.partialBoundary op boundary (s.get a).size (s.get b).size)
  else none

/-- The refusal a call answers with: an index or boundary outside its
receiver, or, for the two-operand partial calls, outside either operand. -/
def refusal (s : Store) : Call → Option MeasureError
  | .value a i | .setValue a i _ =>
    if i < 0 ∨ (s.get a).size ≤ i then some (.valueIndex i (s.get a).size) else none
  | .partialIncrement a b =>
    if b < 0 ∨ (s.get a).size ≤ b then some (.incrementBoundary b (s.get a).size) else none
  | .partialGreater a b c => s.partialRefusal .greater a b c
  | .partialGreaterOrEqual a b c => s.partialRefusal .greaterOrEqual a b c
  | .makePartialEqualOf a b c => s.partialRefusal .makeEqual a b c
  | _ => none

theorem ofExcept_eq_refused {α : Type} {x : Except MeasureError α} {f : α → Answer}
    {e : MeasureError} (answers : ∀ v, f v ≠ .refused e) :
    Answer.ofExcept x f = .refused e ↔ x = .error e := by
  cases x with
  | error e' => simp [Answer.ofExcept]
  | ok v => simp [Answer.ofExcept, answers v]

/-- A call is refused exactly when its index or boundary lies outside its
operands, with the error that names them. -/
theorem run_refused_iff (s : Store) (c : Call) (e : MeasureError) :
    (s.run c).1 = .refused e ↔ s.refusal c = some e := by
  cases c with
  | value a i =>
    show Answer.ofExcept ((s.view a).value i) .nat = .refused e ↔ _
    rw [ofExcept_eq_refused (by simp), value_eq_error_iff]
    simp [refusal, eq_comm]
  | setValue a i v =>
    have refused : (s.run (.setValue a i v)).1 = .refused e ↔
        (s.view a).setValue i v = .error e := by
      cases answered : (s.view a).setValue i v with
      | error e' => simp [run, answered]
      | ok rm => simp [run, answered]
    rw [refused, setValue_eq_error_iff]
    simp [refusal, eq_comm]
  | partialIncrement a b =>
    have refused : (s.run (.partialIncrement a b)).1 = .refused e ↔
        (s.view a).partialIncrement b = .error e := by
      cases answered : (s.view a).partialIncrement b with
      | error e' => simp [run, answered]
      | ok rm => simp [run, answered]
    rw [refused, partialIncrement_eq_error_iff]
    simp [refusal, eq_comm]
  | partialGreater a b c =>
    show Answer.ofExcept ((s.view a).partialGreater b (s.view c)) .bool = .refused e ↔ _
    rw [ofExcept_eq_refused (by simp), partialGreater_eq_error_iff]
    simp [refusal, partialRefusal, eq_comm]
  | partialGreaterOrEqual a b c =>
    show Answer.ofExcept ((s.view a).partialGreaterOrEqual b (s.view c)) .bool = .refused e ↔ _
    rw [ofExcept_eq_refused (by simp), partialGreaterOrEqual_eq_error_iff]
    simp [refusal, partialRefusal, eq_comm]
  | makePartialEqualOf a b c =>
    by_cases same : a = c
    · subst same
      have refused : (s.run (.makePartialEqualOf a b a)).1 = .refused e ↔
          (s.view a).makePartialEqualOfSelf b = .error e := by
        cases made : (s.view a).makePartialEqualOfSelf b with
        | error e' => simp [run, made]
        | ok m => simp [run, made]
      rw [refused, makePartialEqualOfSelf_eq_error_iff]
      simp [refusal, partialRefusal, eq_comm]
    · have refused : (s.run (.makePartialEqualOf a b c)).1 = .refused e ↔
          (s.view a).makePartialEqualOf b (s.view c) = .error e := by
        cases made : (s.view a).makePartialEqualOf b (s.view c) with
        | error e' => simp [run, same, made]
        | ok m => simp [run, same, made]
      rw [refused, makePartialEqualOf_eq_error_iff]
      simp [refusal, partialRefusal, eq_comm]
  | newMaximum | new | newTop | clone | compare | equal | less | greater | copyFrom | reset
  | makeTop | render => simp [run, refusal]

/-- A call that is refused or answers `false` changes no object. -/
theorem run_unchanged (s : Store) (c : Call)
    (answer : (s.run c).1 = .bool false ∨ ∃ e, (s.run c).1 = .refused e) : (s.run c).2 = s := by
  cases c with
  | setValue a i v =>
    cases answered : (s.view a).setValue i v with
    | error e => simp [run, answered]
    | ok rm =>
      obtain ⟨r, m⟩ := rm
      simp only [run, answered, Answer.bool.injEq, reduceCtorEq, exists_false, or_false] at answer ⊢
      subst answer
      rw [setValue_false answered, write_view]
  | partialIncrement a b =>
    cases answered : (s.view a).partialIncrement b with
    | error e => simp [run, answered]
    | ok rm =>
      obtain ⟨r, m⟩ := rm
      simp only [run, answered, Answer.bool.injEq, reduceCtorEq, exists_false, or_false] at answer ⊢
      subst answer
      rw [partialIncrement_false answered, write_view]
  | makePartialEqualOf a b c =>
    -- the call answers `done` whenever it writes
    by_cases same : a = c
    · subst same
      cases made : (s.view a).makePartialEqualOfSelf b with
      | error e => simp [run, made]
      | ok m => simp [run, made] at answer
    · cases made : (s.view a).makePartialEqualOf b (s.view c) with
      | error e => simp [run, same, made]
      | ok m => simp [run, same, made] at answer
  | newMaximum | new | newTop | clone | copyFrom | reset | makeTop => simp [run] at answer
  | value | compare | equal | less | greater | partialGreater | partialGreaterOrEqual | render => rfl

end Refusals

section Bounds

/-- The objects bound to the maximum at `p` fit its bounds. -/
def FitsUnder (s : Store) (p : Nat) : Prop :=
  ∀ a < s.cells.size, (s.get a).max = p → (s.view a).Fits (s.maximumAt p)

theorem maximumAt_congr (same : s'.get p = s.get p) : s'.maximumAt p = s.maximumAt p := by
  simp only [maximumAt, same]

theorem view_congr {d : Nat} (same : s'.get d = s.get d)
    (sameMax : s'.get (s.get d).max = s.get (s.get d).max) : s'.view d = s.view d := by
  simp only [view, maximumAt, same, sameMax]

/-- The receiver of a rewriting call that keeps to `p` is not `p`. -/
theorem Rewrites.receiver_ne {a : Nat} {m : Measure} (rewrites : Rewrites s c a m)
    (keeps : c.KeepsTo s p) : a ≠ p := by
  cases rewrites with
  | makePartialEqualOf => exact keeps.1
  | makePartialEqualOfSelf => exact keeps.1
  | _ => exact keeps

/-- What a call that keeps to `p` writes over an object bound to `p` fits
`p`'s bounds. -/
theorem Rewrites.fits {a : Nat} {m : Measure} (rewrites : Rewrites s c a m)
    (fits : s.FitsUnder p) (refers : c.Refers s) (keeps : c.KeepsTo s p)
    (inside : a < s.cells.size) (bound : (s.get a).max = p) : m.Fits (s.maximumAt p) := by
  have own := fits a inside bound
  cases rewrites with
  | setValue answered => exact own.setValue answered
  | partialIncrement answered => exact own.partialIncrement answered
  | @makePartialEqualOf _ b _ _ _ made =>
    obtain ⟨-, sameMax⟩ := keeps
    have other := fits b (refers b (by simp [Call.addresses])) (sameMax bound)
    exact own.makePartialEqualOf other made
  | makePartialEqualOfSelf made =>
    rw [makePartialEqualOfSelf_ok made]
    exact own
  | reset => exact own.reset
  | makeTop => exact own.makeTop

/-- A new object bound to `p` fits `p`'s bounds. -/
theorem Creates.fits {cell : Cell} (creates : Creates s c cell) (fits : s.FitsUnder p)
    (shaped : s.Shaped) (refers : c.Refers s) (bound : cell.max = p) :
    ((s.alloc cell).view s.cells.size).Fits ((s.alloc cell).maximumAt p) := by
  have added := s.get_alloc_size cell
  cases creates with
  | newMaximum bounds =>
    subst bound
    simp only [view, maximumAt, Cell.max_ofMeasure, added]
    exact ⟨rfl, rfl, List.forall₂_same.2 fun x _ => le_refl x⟩
  | new q =>
    subst bound
    have inside := refers q (by simp [Call.addresses])
    have kept := s.get_alloc_of_ne (.ofMeasure (zero (s.maximumAt q)) q) (Nat.ne_of_lt inside)
    simp only [view, added, Cell.max_ofMeasure, maximumAt_congr kept]
    exact fits_zero _
  | newTop q =>
    subst bound
    have inside := refers q (by simp [Call.addresses])
    have kept := s.get_alloc_of_ne (.ofMeasure (topOf (s.maximumAt q)) q) (Nat.ne_of_lt inside)
    simp only [view, added, Cell.max_ofMeasure, maximumAt_congr kept]
    exact fits_topOf _
  | clone a =>
    have inside := refers a (by simp [Call.addresses])
    have own := fits a inside bound
    subst bound
    have kept := s.get_alloc_of_ne (s.get a) (Nat.ne_of_lt (shaped a inside).2)
    simp only [view, added, maximumAt_congr kept]
    exact own

/-- An object that a call leaves in place, bound to a maximum it leaves in
place, keeps fitting. -/
theorem FitsUnder.of_frame (fits : s.FitsUnder p) {d : Nat} (inside : d < s.cells.size)
    (kept : s'.get d = s.get d) (keptMax : s'.get p = s.get p) (bound : (s'.get d).max = p) :
    (s'.view d).Fits (s'.maximumAt p) := by
  rw [kept] at bound
  rw [view_congr kept (bound ▸ keptMax), maximumAt_congr keptMax]
  exact fits d inside bound

/-- Every call that keeps to `p` keeps the objects bound to `p` within its
bounds. -/
theorem FitsUnder.effect (fits : s.FitsUnder p) (shaped : s.Shaped) (refers : c.Refers s)
    (keeps : c.KeepsTo s p) (effect : Effect s c s') : s'.FitsUnder p := by
  cases effect with
  | keep => exact fits
  | @create cell creates =>
    intro d inside bound
    rw [size_alloc] at inside
    by_cases fresh : d = s.cells.size
    · subst fresh
      rw [get_alloc_size] at bound
      exact creates.fits fits shaped refers bound
    · have old : d < s.cells.size := by omega
      have kept := s.get_alloc_of_ne cell fresh
      -- an old object is bound to an old address, so `p` is not the new one
      have keptMax : (s.alloc cell).get p = s.get p := by
        rw [kept] at bound
        exact s.get_alloc_of_ne cell (bound ▸ Nat.ne_of_lt (shaped d old).2)
      exact fits.of_frame old kept keptMax bound
  | @rewrite a m rewrites =>
    have keptMax := s.get_write_of_ne m (rewrites.receiver_ne keeps)
    intro d inside bound
    rw [size_write] at inside
    by_cases target : a = d
    · subst target
      have written := s.get_write_self m inside
      rw [written, Cell.max_ofMeasure] at bound
      have mFits := rewrites.fits fits refers keeps inside bound
      simp only [view, written, Cell.max_ofMeasure, bound, maximumAt_congr keptMax]
      exact ⟨rfl, mFits.size_eq, mFits.digits⟩
    · exact fits.of_frame inside (s.get_write_of_ne m target) keptMax bound
  | @copy a b isCopy differ =>
    subst isCopy
    have keptMax := s.get_set_of_ne (s.get b) (show a ≠ p from keeps)
    intro d inside bound
    rw [size_set] at inside
    by_cases target : a = d
    · subst target
      have copied := s.get_set_self (s.get b) inside
      rw [copied] at bound
      have sameView : (s.set a (s.get b)).view a = s.view b := by
        simp only [view, copied, bound, maximumAt_congr keptMax]
      rw [sameView, maximumAt_congr keptMax]
      exact fits b (refers b (by simp [Call.addresses])) bound
    · exact fits.of_frame inside (s.get_set_of_ne _ target) keptMax bound

end Bounds

section Runs

/-- The stores a client reaches from no objects by calls that name objects of
the store, are allowed, and do not stop the program. -/
inductive Reachable (allowed : Store → Call → Prop) : Store → Prop
  | empty : Reachable allowed {}
  | call {s : Store} {c : Call} : Reachable allowed s → c.Refers s → allowed s c →
      s.fault c = none → Reachable allowed (s.run c).2

variable {allowed : Store → Call → Prop}

theorem Reachable.shaped (reach : s.Reachable allowed) : s.Shaped := by
  induction reach with
  | empty => intro a inside; simp at inside
  | call _ refers _ _ shaped => exact shaped.effect refers (effect_run _ _)

/-- A run without resizing copies keeps every object at the size of its
maximum. -/
theorem Reachable.coherent (reach : s.Reachable fun s c => ¬ c.Resizes s) : s.Coherent := by
  induction reach with
  | empty => exact ⟨fun a inside => by simp at inside, fun a inside => by simp at inside⟩
  | call _ refers keeps _ coherent => exact coherent.effect refers keeps (effect_run _ _)

/-- A run whose calls keep to `p` keeps the objects bound to `p` within its
bounds. -/
theorem Reachable.fitsUnder (reach : s.Reachable fun s c => c.KeepsTo s p) : s.FitsUnder p := by
  induction reach with
  | empty => intro a inside; simp at inside
  | call prior refers keeps _ fits => exact fits.effect prior.shaped refers keeps (effect_run _ _)

/-- The objects after a sequence of calls. -/
def replay (s : Store) (calls : List Call) : Store := calls.foldl (fun s c => (s.run c).2) s

/-- Every call of a sequence names objects of the store it meets, is allowed
there, and does not stop the program. -/
def Admits (allowed : Store → Call → Prop) : Store → List Call → Prop
  | _, [] => True
  | s, c :: calls => c.Refers s ∧ allowed s c ∧ s.fault c = none ∧ Admits allowed (s.run c).2 calls

instance decidableAdmits (allowed : Store → Call → Prop) [∀ s c, Decidable (allowed s c)] :
    ∀ s calls, Decidable (Admits allowed s calls)
  | _, [] => isTrue trivial
  | s, c :: calls =>
    have := decidableAdmits allowed (s.run c).2 calls
    inferInstanceAs (Decidable (_ ∧ _ ∧ _ ∧ Admits allowed (s.run c).2 calls))

theorem Reachable.replay {calls : List Call} (reach : s.Reachable allowed)
    (admits : Admits allowed s calls) : (s.replay calls).Reachable allowed := by
  induction calls generalizing s with
  | nil => exact reach
  | cons c calls ih =>
    obtain ⟨refers, allows, safe, rest⟩ := admits
    exact ih (reach.call refers allows safe) rest

/-- Measure objects under any sequence of calls: every object keeps one
component per odd index and a binding to an object of the store; while no
copy resizes an object others are bound to, every object has the size of its
maximum and no call stops the program, and on such a store exactly the
resizing copies break that; a call is refused exactly when its index or
boundary lies outside its receiver, or outside either operand of a partial
call; a refused call or one answering `false` changes nothing; and while the
calls keep to one maximum, never changing it, the objects bound to it stay
within its bounds. -/
theorem calls_keep_objects_in_range (s : Store) (c : Call) :
    (s.Reachable (fun _ _ => True) → s.Shaped) ∧
    (s.Reachable (fun s c => ¬ c.Resizes s) →
      s.Coherent ∧ (c.Refers s → s.call c = .ok (s.run c))) ∧
    (s.Coherent → c.Refers s → ((s.run c).2.Coherent ↔ ¬ c.Resizes s)) ∧
    (∀ e, (s.run c).1 = .refused e ↔ s.refusal c = some e) ∧
    ((s.run c).1 = .bool false ∨ (∃ e, (s.run c).1 = .refused e) → (s.run c).2 = s) ∧
    (∀ p, s.Reachable (fun s c => c.KeepsTo s p) → s.FitsUnder p) := by
  refine ⟨fun reach => reach.shaped, fun reach => ?_,
    fun coherent refers => coherent.run_iff refers, run_refused_iff s c, run_unchanged s c,
    fun p reach => reach.fitsUnder⟩
  have coherent := reach.coherent
  exact ⟨coherent, fun refers => call_eq_of_fault s c (coherent.fault_eq_none refers)⟩

/-- A maximum with bounds `1, 2` and one object bound to it, set to `(0,2)`
and incremented with a carry to `(1,0)`: the object fits the maximum and
setting its first component reads a bound that is there. -/
theorem calls_keep_objects_in_range_carry :
    let s := Store.replay {} [.newMaximum #[0, 1, 0, 2], .new 0, .setValue 1 3 2,
      .partialIncrement 1 3]
    (s.get 1).odd = #[1, 0] ∧ s.FitsUnder 0 ∧ s.Coherent ∧
      s.call (.setValue 1 1 1) = .ok (s.run (.setValue 1 1 1)) := by
  intro s
  have kept : s.Reachable fun s c => c.KeepsTo s 0 := Reachable.empty.replay (by decide +kernel)
  have unresized : s.Reachable fun s c => ¬ c.Resizes s :=
    Reachable.empty.replay (by decide +kernel)
  obtain ⟨-, coherence, -, -, -, fits⟩ := calls_keep_objects_in_range s (.setValue 1 1 1)
  obtain ⟨coherent, safe⟩ := coherence unresized
  exact ⟨by decide +kernel, fits 0 kept, coherent, safe (by decide +kernel)⟩

/-- Copying a maximum of size 2 into a maximum of size 4 that an object is
bound to: setting that object's index 3 then reads bound 1 of a maximum that
has one bound, and the program stops. -/
theorem copy_into_maximum_stops_setValue :
    let s := Store.replay {} [.newMaximum #[0, 5, 0, 5], .new 0, .newMaximum #[0, 1],
      .copyFrom 0 2]
    s.Reachable (fun _ _ => True) ∧ s.call (.setValue 1 3 0) = .error ⟨1, 1⟩ ∧
      IndexFault.message ⟨1, 1⟩ = "runtime error: index out of range [1] with length 1" := by
  intro s
  exact ⟨Reachable.empty.replay (by decide +kernel), call_eq_error_iff.mpr (by decide +kernel),
    by decide +kernel⟩

end Runs

end Store

end Measure

end ParityGames
