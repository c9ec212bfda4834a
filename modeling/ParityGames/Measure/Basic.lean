/-!
# Progress measures

A progress measure of a game with priorities `0 … d-1` is a vector indexed by
`0 … d-1` whose even entries are zero, or the element `⊤` above all vectors.
Only the odd entries are stored: component `k` holds index `2k+1`.  Every
measure is bound to a *maximum*, which gives the largest value of each odd
component; a measure built from a maximum has its size.

Vectors are ordered lexicographically from the lowest odd index, and `⊤` lies
above all of them.  The *partial* operations look only at the odd indices up
to a boundary.  A `⊤` measure keeps the components it held when it became
`⊤`; they take no part in comparisons, but remain visible through
`Measure.odd`.

Indices and boundaries outside a measure are refused with a
`MeasureError`.
-/

namespace ParityGames

/-- An index outside a sequence, which stops the program. -/
structure IndexFault where
  index : Int
  length : Nat
  deriving DecidableEq, Repr

/-- The text of an index fault. -/
def IndexFault.message (f : IndexFault) : String :=
  if f.index < 0 then s!"runtime error: index out of range [{f.index}]"
  else s!"runtime error: index out of range [{f.index}] with length {f.length}"

/-- The bound of every odd component, with the size of the measures it
bounds: what a measure reads from the maximum it is bound to.  A maximum is
itself a measure object that calls can change (`Measure.Store`); a `Maximum`
is what it holds at one moment, and the tag names it, so that a measure can
tell which one it is bound to. -/
structure Maximum where
  tag : Nat
  bounds : Array Nat
  size : Nat
  deriving Repr, Inhabited, DecidableEq

namespace Maximum

/-- The maximum of per-index bounds: the bound of odd index `2k+1` is the
entry there, negative entries counting as zero, and the size is the number of
entries. -/
def ofBounds (tag : Nat) (bounds : Array Int) : Maximum :=
  { tag
    bounds := (Array.range (bounds.size / 2)).map fun k => (bounds[2 * k + 1]?.getD 0).toNat
    size := bounds.size }

end Maximum

/-- A progress measure bound to a maximum. -/
structure Measure where
  odd : Array Nat
  size : Nat
  top : Bool
  bound : Maximum
  deriving Repr, Inhabited, DecidableEq

/-- The operations that check a boundary against two measures. -/
inductive PartialOp where
  | greater
  | greaterOrEqual
  | makeEqual
  deriving Repr, DecidableEq

/-- The name of a partial operation in messages. -/
def PartialOp.name : PartialOp → String
  | .greater => "PartialGreater"
  | .greaterOrEqual => "PartialGreaterOrEqual"
  | .makeEqual => "MakePartialEqualOf"

/-- An index or boundary outside a measure. -/
inductive MeasureError where
  | valueIndex (index : Int) (size : Nat)
  | incrementBoundary (boundary : Int) (size : Nat)
  | partialBoundary (op : PartialOp) (boundary : Int) (size otherSize : Nat)
  deriving Repr, DecidableEq

/-- The text of a measure error. -/
def MeasureError.message : MeasureError → String
  | .valueIndex i n => s!"measure index out of range: value index {i}, size {n}"
  | .incrementBoundary b n =>
    s!"measure index out of range: PartialIncrementIfAble boundary {b}, size {n}"
  | .partialBoundary op b n m =>
    s!"measure index out of range: {op.name} boundary {b}, sizes {n} and {m}"

namespace Measure

/-- The all-zero measure bound to a maximum. -/
def zero (m : Maximum) : Measure :=
  { odd := Array.replicate m.bounds.size 0, size := m.size, top := false, bound := m }

/-- The `⊤` measure bound to a maximum, with zero components. -/
def topOf (m : Maximum) : Measure := { zero m with top := true }

/-- The maximum read as a measure bound to itself. -/
def ofMaximum (m : Maximum) : Measure :=
  { odd := m.bounds, size := m.size, top := false, bound := m }

/-- Turns a measure into `⊤`, keeping its components. -/
def makeTop (m : Measure) : Measure := { m with top := true }

/-- Turns a measure into the zero vector. -/
def reset (m : Measure) : Measure :=
  { m with odd := Array.replicate m.odd.size 0, top := false }

/-- The component at index `i`; even indices read as zero. -/
def value (m : Measure) (i : Int) : Except MeasureError Nat :=
  if i < 0 || i ≥ m.size then .error (.valueIndex i m.size)
  else if i % 2 == 0 then .ok 0
  else .ok (m.odd[(i / 2).toNat]?.getD 0)

/-- Sets the component at index `i` to `v`.  An even index or a value outside
`0 …` the bound leaves the measure unchanged and is reported as `false`. -/
def setValue (m : Measure) (i v : Int) : Except MeasureError (Bool × Measure) :=
  if i < 0 || i ≥ m.size then .error (.valueIndex i m.size)
  else
    let k := (i / 2).toNat
    if i % 2 == 0 || v < 0 || v > (m.bound.bounds[k]?.getD 0 : Int) then .ok (false, m)
    else .ok (true, { m with odd := m.odd.set! k v.toNat })

/-- Lexicographic comparison of two component lists, then by length. -/
def compareLists : List Nat → List Nat → Ordering
  | [], [] => .eq
  | [], _ :: _ => .lt
  | _ :: _, [] => .gt
  | a :: as, b :: bs => if a < b then .lt else if a > b then .gt else compareLists as bs

/-- Lexicographic comparison of two arrays from position `i` on, then by
length: the comparison of the lists from `i` on (`compareFrom_eq`). -/
def compareFrom (a b : Array Nat) (i : Nat) : Ordering :=
  if h : i < a.size then
    if h' : i < b.size then
      if a[i] < b[i] then .lt else if a[i] > b[i] then .gt else compareFrom a b (i + 1)
    else .gt
  else if i < b.size then .lt else .eq
termination_by a.size - i

theorem compareFrom_eq (a b : Array Nat) (i : Nat) :
    compareFrom a b i = compareLists (a.toList.drop i) (b.toList.drop i) := by
  fun_induction compareFrom a b i with
  | case1 i h h' hlt =>
    rw [@List.drop_eq_getElem_cons _ i a.toList (by simpa using h),
      @List.drop_eq_getElem_cons _ i b.toList (by simpa using h')]
    simp [compareLists, hlt]
  | case2 i h h' hlt hgt =>
    rw [@List.drop_eq_getElem_cons _ i a.toList (by simpa using h),
      @List.drop_eq_getElem_cons _ i b.toList (by simpa using h')]
    simp [compareLists, hlt, hgt]
  | case3 i h h' hlt hgt ih =>
    rw [@List.drop_eq_getElem_cons _ i a.toList (by simpa using h),
      @List.drop_eq_getElem_cons _ i b.toList (by simpa using h'), ih]
    simp [compareLists, hlt, hgt]
  | case4 i h h' =>
    rw [@List.drop_eq_getElem_cons _ i a.toList (by simpa using h),
      @List.drop_eq_nil_of_le _ b.toList i (by simp; omega)]
    simp [compareLists]
  | case5 i h h' =>
    rw [@List.drop_eq_nil_of_le _ a.toList i (by simp; omega),
      @List.drop_eq_getElem_cons _ i b.toList (by simpa using h')]
    simp [compareLists]
  | case6 i h h' =>
    rw [@List.drop_eq_nil_of_le _ a.toList i (by simp; omega),
      @List.drop_eq_nil_of_le _ b.toList i (by simp; omega)]
    simp [compareLists]

/-- The order of measures: `⊤` above every vector, vectors lexicographic. -/
def compare (m n : Measure) : Ordering :=
  match m.top, n.top with
  | true, true => .eq
  | true, false => .gt
  | false, true => .lt
  | false, false => compareFrom m.odd n.odd 0

/-- Vectors compare as their component lists. -/
theorem compare_vectors (m n : Measure) (hm : m.top = false) (hn : n.top = false) :
    m.compare n = compareLists m.odd.toList n.odd.toList := by
  simp [compare, hm, hn, compareFrom_eq]

/-- Whether two measures are the same element: two `⊤`s are equal whatever
they hold. -/
def equal (m n : Measure) : Bool :=
  if m.top || n.top then m.top == n.top else m.odd == n.odd

/-- Strictly below. -/
def less (m n : Measure) : Bool := m.compare n == .lt

/-- Strictly above. -/
def greater (m n : Measure) : Bool := m.compare n == .gt

/-- The number of odd indices up to a boundary. -/
@[inline] def prefixLength (boundary : Nat) : Nat := (boundary + 1) / 2

/-- Checks that a boundary lies inside both measures. -/
def checkBoundary (op : PartialOp) (m : Measure) (boundary : Int) (n : Measure) :
    Except MeasureError Nat :=
  if boundary < 0 || boundary ≥ m.size || boundary ≥ n.size then
    .error (.partialBoundary op boundary m.size n.size)
  else .ok boundary.toNat

/-- Comparison of the odd components up to a boundary. -/
def prefixCompare (m n : Measure) (boundary : Nat) : Ordering :=
  let k := prefixLength boundary
  compareLists (m.odd.toList.take k) (n.odd.toList.take k)

/-- Whether `m` lies above `n` up to a boundary; `⊤` lies above everything. -/
def partialGreater (m : Measure) (boundary : Int) (n : Measure) : Except MeasureError Bool := do
  let b ← checkBoundary .greater m boundary n
  if m.top then return true
  if n.top then return false
  return m.prefixCompare n b == .gt

/-- Whether `m` lies at or above `n` up to a boundary. -/
def partialGreaterOrEqual (m : Measure) (boundary : Int) (n : Measure) :
    Except MeasureError Bool := do
  let b ← checkBoundary .greaterOrEqual m boundary n
  if m.top then return true
  if n.top then return false
  return m.prefixCompare n b != .lt

/-- The last position below `k` whose component is below its bound. -/
def lastBelow (odd bounds : Array Nat) : Nat → Option Nat
  | 0 => none
  | j + 1 => if odd[j]?.getD 0 < bounds[j]?.getD 0 then some j else lastBelow odd bounds j

/-- The last position below `j` whose component is below its bound, or
`none` when there is none: `lastBelow` with `none` read as `none`. -/
def digitSearch (odd bounds : Array Nat) (none : Nat) : Nat → Nat
  | 0 => none
  | j + 1 => if odd.getD j 0 < bounds.getD j 0 then j else digitSearch odd bounds none j

theorem digitSearch_eq (odd bounds : Array Nat) (none j : Nat) :
    digitSearch odd bounds none j = (lastBelow odd bounds j).getD none := by
  induction j with
  | zero => rfl
  | succ j ih =>
    simp only [digitSearch, lastBelow, Array.getD_eq_getD_getElem?]
    split <;> simp_all

/-- Zeroes the positions from `i` up to, not including, `k`. -/
def zeroBetween (a : Array Nat) (i k : Nat) : Array Nat :=
  if i < k then zeroBetween (a.setIfInBounds i 0) (i + 1) k else a
termination_by k - i

/-- Increments the odd prefix of length `k` like a counter whose digit `j`
runs up to `bounds[j]`: the last digit below its bound is raised and the
digits after it, all at their bounds, wrap to zero.  Reports whether there
was such a digit; when there is none the components come back unchanged. -/
def raisePrefix (odd bounds : Array Nat) (k : Nat) : Bool × Array Nat :=
  match lastBelow odd bounds k with
  | some j => (true, zeroBetween (odd.modify j (· + 1)) (j + 1) k)
  | none => (false, odd)

/-- The components after incrementing the odd prefix of length `k`, or
nothing when the prefix is at its bounds (see `raisePrefix`). -/
def incrementPrefix (odd bounds : Array Nat) (k : Nat) : Option (Array Nat) :=
  match raisePrefix odd bounds k with
  | (true, raised) => some raised
  | (false, _) => none

/-- The first `k` entries of `src`, zero where `src` has none, followed by
zeros up to length `n`. -/
def cutAfter (src : Array Nat) (k n : Nat) : Array Nat :=
  go 0 (Array.emptyWithCapacity n)
where
  /-- Appends the entries from position `i` on. -/
  go (i : Nat) (acc : Array Nat) : Array Nat :=
    if i < n then go (i + 1) (acc.push (if i < k then src.getD i 0 else 0)) else acc
  termination_by n - i

/-- Advances a measure to the least one strictly above it up to a boundary;
`false` when the prefix is at its bounds or the measure is `⊤`, which is then
unchanged. -/
def partialIncrement (m : Measure) (boundary : Int) : Except MeasureError (Bool × Measure) :=
  if boundary < 0 || boundary ≥ m.size then .error (.incrementBoundary boundary m.size)
  else if m.top then .ok (false, m)
  else
    match incrementPrefix m.odd m.bound.bounds (prefixLength boundary.toNat) with
    | some odd => .ok (true, { m with odd })
    | none => .ok (false, m)

/-- Copies the odd components of `n` up to a boundary into `m` and zeroes the
rest; if `n` is `⊤`, `m` becomes `⊤` with zero components. -/
def makePartialEqualOf (m : Measure) (boundary : Int) (n : Measure) :
    Except MeasureError Measure := do
  let b ← checkBoundary .makeEqual m boundary n
  if n.top then return { m with odd := Array.replicate m.odd.size 0, top := true }
  let k := prefixLength b
  return { m with odd := cutAfter n.odd k m.odd.size, top := false }

/-- `makePartialEqualOf` of a measure with itself: after the boundary check
nothing changes. -/
def makePartialEqualOfSelf (m : Measure) (boundary : Int) : Except MeasureError Measure := do
  let _ ← checkBoundary .makeEqual m boundary m
  return m

/-- The text of a measure: `⊤`, or the odd components as `(a,b,c)`. -/
def render (m : Measure) : String :=
  if m.top then "⊤" else "(" ++ ",".intercalate (m.odd.toList.map toString) ++ ")"

theorem render_top (m : Measure) (h : m.top = true) : m.render = "⊤" := by
  simp [render, h]

theorem compare_top_top (m n : Measure) (hm : m.top = true) (hn : n.top = true) :
    m.compare n = .eq := by
  simp [compare, hm, hn]

end Measure

end ParityGames
