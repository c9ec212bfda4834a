import ParityGames.Measure.Basic

/-!
# Measures as numbers

Under a maximum with bounds `b₀ … b_{n-1}`, a finite measure whose entries
stay within their bounds is a number written in mixed radix: digit `i` is
entry `i` and weighs `∏_{j>i} (b_j + 1)`.  Comparing such measures
lexicographically is comparing their numbers, and `⊤` is the number of
finite measures, `∏ (b_j + 1)`, above every finite one.

On these numbers `prog` is arithmetic (`progRank`): keeping the first `k`
digits rounds down to a multiple of the weight of digit `k - 1`, and the
increase that follows for an odd priority adds that weight, which reaches
the count exactly when every digit of the prefix is at its bound.
-/

namespace ParityGames

/-- The mixed-radix scale of a maximum: the weight of every digit and the
number of finite measures. -/
structure Scale where
  weights : Array Nat
  count : Nat
  deriving Repr, Inhabited

/-- The weight of each digit of a list of bounds: the product of the radices
`b + 1` of the digits after it. -/
def digitWeights : List Nat → List Nat
  | [] => []
  | _ :: bs => bs.foldr (fun b w => (b + 1) * w) 1 :: digitWeights bs

namespace Scale

/-- The scale of a maximum. -/
def ofMaximum (m : Maximum) : Scale :=
  { weights := (digitWeights m.bounds.toList).toArray
    count := m.bounds.foldr (fun b w => (b + 1) * w) 1 }

/-- The number of a measure: the count for `⊤`, else the sum of its entries
times their weights. -/
def rank (c : Scale) (m : Measure) : Nat :=
  if m.top then c.count
  else (c.weights.zipIdx.foldl (fun acc (w, i) => acc + m.odd.getD i 0 * w) 0)

/-- `prog` on numbers, for a source of priority `p` under a maximum of size
`size`: the count stays the count, a priority outside the maximum gives
zero, and otherwise the number is cut after `prefixLength p` digits and, for
an odd priority, increased by the weight of the last digit kept, up to the
count. -/
def progRank (c : Scale) (size p x : Nat) : Nat :=
  if x ≥ c.count then c.count
  else if p ≥ size then 0
  else
    let k := Measure.prefixLength p
    if k == 0 then 0
    else
      let w := c.weights.getD (k - 1) 1
      let cut := x - x % w
      if p % 2 == 0 then cut else min (cut + w) c.count

/-- The weight of the last digit a source of priority `p` keeps. -/
def keptWeight (c : Scale) (p : Nat) : Nat := c.weights.getD (Measure.prefixLength p - 1) 1

/-- Whether a source of priority `p` keeps no digit at all, under a maximum
of size `size`. -/
def keepsNothing (size p : Nat) : Bool := p ≥ size || Measure.prefixLength p == 0

/-- `progRank` with what it needs of the source worked out once: the weight
of the last digit kept, whether nothing is kept, and whether the priority is
odd (`raising`). -/
@[inline] def progStep (c : Scale) (weight : Nat) (nothing raising : Bool) (x : Nat) : Nat :=
  if x ≥ c.count then c.count
  else if nothing then 0
  else
    let cut := x - x % weight
    if raising then min (cut + weight) c.count else cut

theorem progStep_eq (c : Scale) (size p x : Nat) :
    c.progStep (c.keptWeight p) (keepsNothing size p) (p % 2 == 1) x = c.progRank size p x := by
  unfold progStep keptWeight keepsNothing progRank
  by_cases hx : x ≥ c.count
  · simp [hx]
  · by_cases hp : p ≥ size
    · simp [hx, hp]
    · by_cases hk : Measure.prefixLength p = 0
      · simp [hx, hp, hk]
      · by_cases hodd : p % 2 = 0
        · simp [hx, hp, hk, hodd]
        · have h1 : p % 2 = 1 := by omega
          simp [hx, hp, hk, h1]

end Scale

theorem digitWeights_length (bs : List Nat) : (digitWeights bs).length = bs.length := by
  induction bs with
  | nil => rfl
  | cons b bs ih => simp [digitWeights, ih]

theorem rank_top (c : Scale) (m : Measure) (h : m.top = true) : c.rank m = c.count := by
  simp [Scale.rank, h]

end ParityGames
