import ParityGames.Measure.Basic

/-!
# Measure objects and the maxima they are bound to

The measure API hands out measure objects by reference.  A maximum is such an
object, bound to itself; every other object is bound to the maximum it was
made from, and copying one object into another copies the binding too.  An
object reads its bounds through its maximum at the moment of each call, and
the calls that change an object change a maximum as well when they are given
one: its bounds, and by copying, its size and its own binding.

`Measure.Store` keeps the objects by address (`Measure.Cell`).  A call reads
its operands as measures, each with the bounds its maximum holds now
(`Store.view`), runs the operation of `Measure` on them and writes the result
back to its receiver (`Store.run`).  Setting an odd index to a non-negative
value reads the bound at that index first, and incrementing a finite measure
reads the bound of the last odd index of the prefix first: when the maximum
has no such bound, the program stops with an `IndexFault` (`Store.call`).
-/

namespace ParityGames

namespace Measure

/-- A measure object: its odd components, its size, whether it is `⊤`, and
the address of the object it is bound to as its maximum. -/
structure Cell where
  odd : Array Nat
  size : Nat
  top : Bool
  max : Nat
  deriving Repr, DecidableEq, Inhabited

/-- A measure as an object bound to the maximum at `p`. -/
def Cell.ofMeasure (m : Measure) (p : Nat) : Cell :=
  { odd := m.odd, size := m.size, top := m.top, max := p }

@[simp] theorem Cell.odd_ofMeasure (m : Measure) (p : Nat) : (Cell.ofMeasure m p).odd = m.odd := rfl

@[simp] theorem Cell.size_ofMeasure (m : Measure) (p : Nat) : (Cell.ofMeasure m p).size = m.size :=
  rfl

@[simp] theorem Cell.max_ofMeasure (m : Measure) (p : Nat) : (Cell.ofMeasure m p).max = p := rfl

/-- The measure objects a client holds, by address. -/
structure Store where
  cells : Array Cell := #[]
  deriving Repr, DecidableEq, Inhabited

/-- One call of the measure API.  The constructors name a maximum or an
object by address; the other calls name their receiver first. -/
inductive Call where
  | newMaximum (bounds : Array Int)
  | new (maximum : Nat)
  | newTop (maximum : Nat)
  | clone (a : Nat)
  | value (a : Nat) (i : Int)
  | setValue (a : Nat) (i v : Int)
  | compare (a b : Nat)
  | equal (a b : Nat)
  | less (a b : Nat)
  | greater (a b : Nat)
  | partialGreater (a : Nat) (boundary : Int) (b : Nat)
  | partialGreaterOrEqual (a : Nat) (boundary : Int) (b : Nat)
  | partialIncrement (a : Nat) (boundary : Int)
  | makePartialEqualOf (a : Nat) (boundary : Int) (b : Nat)
  | copyFrom (a b : Nat)
  | reset (a : Nat)
  | makeTop (a : Nat)
  | render (a : Nat)
  deriving Repr, DecidableEq

/-- What a call answers: the address of a new object, a value, a truth
value, an order, a text, nothing, or the refusal of an index or boundary. -/
inductive Answer where
  | created (a : Nat)
  | nat (n : Nat)
  | bool (b : Bool)
  | order (o : Ordering)
  | text (s : String)
  | done
  | refused (e : MeasureError)
  deriving Repr, DecidableEq

/-- The answer of a call that may be refused. -/
def Answer.ofExcept {α : Type} (x : Except MeasureError α) (f : α → Answer) : Answer :=
  match x with
  | .ok v => f v
  | .error e => .refused e

namespace Store

/-- The object at an address; a default object past the end. -/
def get (s : Store) (a : Nat) : Cell := s.cells.getD a default

/-- Replaces the object at an address inside the store. -/
def set (s : Store) (a : Nat) (c : Cell) : Store := { cells := s.cells.set! a c }

/-- Adds an object at the next address. -/
def alloc (s : Store) (c : Cell) : Store := { cells := s.cells.push c }

@[simp]
theorem size_set (s : Store) (a : Nat) (c : Cell) : (s.set a c).cells.size = s.cells.size :=
  Array.size_set! _ _ _

@[simp]
theorem size_alloc (s : Store) (c : Cell) : (s.alloc c).cells.size = s.cells.size + 1 :=
  Array.size_push _

theorem get_set (s : Store) (a b : Nat) (c : Cell) :
    (s.set a c).get b = if a = b ∧ a < s.cells.size then c else s.get b := by
  simp only [get, set, Array.getD_eq_getD_getElem?, Array.set!_eq_setIfInBounds,
    Array.getElem?_setIfInBounds]
  by_cases same : a = b
  · subst same
    by_cases inside : a < s.cells.size <;> simp [inside]
  · simp [same]

theorem get_alloc (s : Store) (b : Nat) (c : Cell) :
    (s.alloc c).get b = if b = s.cells.size then c else s.get b := by
  simp only [get, alloc, Array.getD_eq_getD_getElem?, Array.getElem?_push]
  by_cases atEnd : b = s.cells.size <;> simp [atEnd]

theorem get_set_self (s : Store) {a : Nat} (c : Cell) (inside : a < s.cells.size) :
    (s.set a c).get a = c := by
  rw [get_set, if_pos ⟨rfl, inside⟩]

theorem get_set_of_ne (s : Store) {a b : Nat} (c : Cell) (other : a ≠ b) :
    (s.set a c).get b = s.get b := by
  rw [get_set, if_neg fun written => other written.1]

theorem get_alloc_size (s : Store) (c : Cell) : (s.alloc c).get s.cells.size = c := by
  rw [get_alloc, if_pos rfl]

theorem get_alloc_of_ne (s : Store) {b : Nat} (c : Cell) (other : b ≠ s.cells.size) :
    (s.alloc c).get b = s.get b := by
  rw [get_alloc, if_neg other]

/-- The bounds that an object bound to the maximum at `p` reads now. -/
def maximumAt (s : Store) (p : Nat) : Maximum :=
  { tag := p, bounds := (s.get p).odd, size := (s.get p).size }

/-- The object at `a` as a measure, with the bounds its maximum holds now. -/
def view (s : Store) (a : Nat) : Measure :=
  { odd := (s.get a).odd, size := (s.get a).size, top := (s.get a).top,
    bound := s.maximumAt (s.get a).max }

@[simp] theorem odd_view (s : Store) (a : Nat) : (s.view a).odd = (s.get a).odd := rfl

@[simp] theorem size_view (s : Store) (a : Nat) : (s.view a).size = (s.get a).size := rfl

@[simp] theorem top_view (s : Store) (a : Nat) : (s.view a).top = (s.get a).top := rfl

/-- Writes a measure over the object at `a`, which stays bound where it was. -/
def write (s : Store) (a : Nat) (m : Measure) : Store := s.set a (.ofMeasure m (s.get a).max)

theorem get_write (s : Store) (a b : Nat) (m : Measure) :
    (s.write a m).get b =
      if a = b ∧ a < s.cells.size then .ofMeasure m (s.get a).max else s.get b :=
  get_set _ _ _ _

theorem get_write_self (s : Store) {a : Nat} (m : Measure) (inside : a < s.cells.size) :
    (s.write a m).get a = .ofMeasure m (s.get a).max :=
  s.get_set_self _ inside

theorem get_write_of_ne (s : Store) {a b : Nat} (m : Measure) (other : a ≠ b) :
    (s.write a m).get b = s.get b :=
  s.get_set_of_ne _ other

@[simp]
theorem size_write (s : Store) (a : Nat) (m : Measure) : (s.write a m).cells.size = s.cells.size :=
  size_set _ _ _

/-- Writing an object's own view back changes nothing. -/
theorem write_view (s : Store) (a : Nat) : s.write a (s.view a) = s := by
  cases s with
  | mk cells =>
    simp only [write, set, view, Cell.ofMeasure, get, Store.mk.injEq]
    apply Array.ext (Array.size_set! _ _ _)
    intro i _ inside
    simp only [Array.set!_eq_setIfInBounds]
    rw [Array.getElem_setIfInBounds inside]
    split
    · rename_i same
      subst same
      simp [Array.getD_eq_getD_getElem?, Array.getElem?_eq_getElem inside]
    · rfl

/-- A call after its bound has been read: the operation of `Measure` on the
views of the operands, the result written back to the receiver.  A new
object takes the next address. -/
def run (s : Store) : Call → Answer × Store
  | .newMaximum bounds =>
    let M := Maximum.ofBounds s.cells.size bounds
    (.created s.cells.size, s.alloc (.ofMeasure (ofMaximum M) s.cells.size))
  | .new p => (.created s.cells.size, s.alloc (.ofMeasure (zero (s.maximumAt p)) p))
  | .newTop p => (.created s.cells.size, s.alloc (.ofMeasure (topOf (s.maximumAt p)) p))
  | .clone a => (.created s.cells.size, s.alloc (s.get a))
  | .value a i => (.ofExcept ((s.view a).value i) .nat, s)
  | .setValue a i v =>
    match (s.view a).setValue i v with
    | .ok (r, m) => (.bool r, s.write a m)
    | .error e => (.refused e, s)
  | .compare a b => (.order ((s.view a).compare (s.view b)), s)
  | .equal a b => (.bool ((s.view a).equal (s.view b)), s)
  | .less a b => (.bool ((s.view a).less (s.view b)), s)
  | .greater a b => (.bool ((s.view a).greater (s.view b)), s)
  | .partialGreater a boundary b =>
    (.ofExcept ((s.view a).partialGreater boundary (s.view b)) .bool, s)
  | .partialGreaterOrEqual a boundary b =>
    (.ofExcept ((s.view a).partialGreaterOrEqual boundary (s.view b)) .bool, s)
  | .partialIncrement a boundary =>
    match (s.view a).partialIncrement boundary with
    | .ok (r, m) => (.bool r, s.write a m)
    | .error e => (.refused e, s)
  | .makePartialEqualOf a boundary b =>
    -- one object as both operands keeps its components
    let made := if a = b then (s.view a).makePartialEqualOfSelf boundary
      else (s.view a).makePartialEqualOf boundary (s.view b)
    match made with
    | .ok m => (.done, s.write a m)
    | .error e => (.refused e, s)
  | .copyFrom a b => (.done, if a = b then s else s.set a (s.get b))
  | .reset a => (.done, s.write a (s.view a).reset)
  | .makeTop a => (.done, s.write a (s.view a).makeTop)
  | .render a => (.text (s.view a).render, s)

/-- The bound a call reads through its receiver's maximum before it changes
anything, as the receiver and the position: setting an odd index inside the
measure to a non-negative value reads the bound at that index, and
incrementing a finite measure up to a boundary inside it reads the bound of
the last odd index of the prefix. -/
def boundRead (s : Store) : Call → Option (Nat × Nat)
  | .setValue a i v =>
    if 0 ≤ i ∧ i < (s.get a).size ∧ i % 2 = 1 ∧ 0 ≤ v then some (a, (i / 2).toNat) else none
  | .partialIncrement a boundary =>
    if 0 ≤ boundary ∧ boundary < (s.get a).size ∧ (s.get a).top = false ∧
        0 < prefixLength boundary.toNat then
      some (a, prefixLength boundary.toNat - 1)
    else none
  | _ => none

/-- Reading bound `k` of the maximum of the object at `a` stops the program
when the maximum has fewer bounds. -/
def boundFault (s : Store) (a k : Nat) : Option IndexFault :=
  let bounds := (s.get (s.get a).max).odd
  if k < bounds.size then none else some ⟨k, bounds.size⟩

/-- The fault a call stops the program with, if any: reading a bound its
receiver's maximum does not have. -/
def fault (s : Store) (c : Call) : Option IndexFault :=
  (s.boundRead c).bind fun (a, k) => s.boundFault a k

/-- One call of the measure API: its answer and the objects after it, or the
fault of a bound its receiver's maximum does not have. -/
def call (s : Store) (c : Call) : Except IndexFault (Answer × Store) :=
  match s.fault c with
  | some f => .error f
  | none => .ok (s.run c)

end Store

end Measure

end ParityGames
