import ParityGames.Proofs.Locking

/-!
# Regions where Even keeps the least fixpoint finite

Jurdziński's bound on small progress measures, on numbers: take a set of
vertices closed under a choice of moves, with one move at least for every
Even vertex and every move for every other vertex. If no cycle of these moves
returns to a vertex of odd priority through priorities at least its own, then
the least fixpoint of lifting is below the count (`⊤`) on the whole set.

The witness is a pre-fixpoint built from walks: its digit for priority `2j+1`
at a vertex counts the vertices of that priority a walk from it can leave
through priorities at least `2j+1`. Without odd cycles a walk leaves each such
vertex once, so the count stays below the histogram bound of the digit.

Odd cycles are ruled out by numbers that the moves never raise: along a walk
the digits an odd priority keeps never rise, and they fall at that priority.
-/

namespace ParityGames

namespace Scale

variable {M : Maximum}

/-- The last digit a priority keeps weighs a divisor of the weight of the
last digit any smaller priority keeps. -/
theorem keptWeight_dvd (shape : M.bounds.size = M.size / 2) {k p : Nat}
    (keeps : 0 < Measure.prefixLength k) (le : k ≤ p) (inside : p < M.size) :
    (ofMaximum M).keptWeight p ∣ (ofMaximum M).keptWeight k := by
  have kWithin := Solver.prefixLength_le_bounds shape (Nat.lt_of_le_of_lt le inside)
  have pWithin := Solver.prefixLength_le_bounds shape inside
  have longer : Measure.prefixLength k ≤ Measure.prefixLength p := Nat.div_le_div_right (by omega)
  rw [keptWeight, keptWeight, getD_weights M keeps kWithin, getD_weights M (by omega) pWithin,
    ← List.take_append_drop (Measure.prefixLength p - Measure.prefixLength k)
      (M.bounds.toList.drop (Measure.prefixLength k)), List.drop_drop,
    show Measure.prefixLength k + (Measure.prefixLength p - Measure.prefixLength k) =
      Measure.prefixLength p by omega, Radix.radixProduct_append]
  exact Dvd.intro_left _ rfl

theorem keptWeight_pos (shape : M.bounds.size = M.size / 2) {p : Nat}
    (keeps : 0 < Measure.prefixLength p) (inside : p < M.size) :
    0 < (ofMaximum M).keptWeight p := by
  rw [keptWeight, getD_weights M keeps (Solver.prefixLength_le_bounds shape inside)]
  exact Radix.radixProduct_pos _

/-- Through a priority `p` at least an odd `k`, the digits `k` keeps do not
fall, and they rise by one when `p = k`, unless the number reaches the count. -/
theorem div_add_le_progRank_div (shape : M.bounds.size = M.size / 2) {k p x : Nat}
    (odd : k % 2 = 1) (le : k ≤ p) (inside : p < M.size)
    (finite : (ofMaximum M).progRank M.size p x < (ofMaximum M).count) :
    x / (ofMaximum M).keptWeight k + (if p = k then 1 else 0) ≤
      (ofMaximum M).progRank M.size p x / (ofMaximum M).keptWeight k := by
  have xFinite : x < (ofMaximum M).count := by
    by_contra reached
    rw [progRank, if_pos (Nat.le_of_not_lt reached)] at finite
    exact Nat.lt_irrefl _ finite
  have kKeeps : 0 < Measure.prefixLength k := by unfold Measure.prefixLength; omega
  have pKeeps : 0 < Measure.prefixLength p := by unfold Measure.prefixLength; omega
  have positive := keptWeight_pos shape pKeeps inside
  obtain ⟨m, weights⟩ := keptWeight_dvd shape kKeeps le inside
  have split : (ofMaximum M).progRank M.size p x =
      if p % 2 = 0 then x / (ofMaximum M).keptWeight p * (ofMaximum M).keptWeight p
      else min (x / (ofMaximum M).keptWeight p * (ofMaximum M).keptWeight p +
        (ofMaximum M).keptWeight p) (ofMaximum M).count :=
    progRank_of_split (ofMaximum M) xFinite inside pKeeps rfl
      (Nat.div_add_mod' x ((ofMaximum M).keptWeight p)).symm (Nat.mod_lt x positive)
  have quotient : x / (ofMaximum M).keptWeight k = x / (ofMaximum M).keptWeight p / m := by
    rw [weights, Nat.div_div_eq_div_mul]
  rw [split] at finite ⊢
  rw [quotient, weights, Nat.mul_comm _ m]
  by_cases even : p % 2 = 0
  · have other : p ≠ k := by omega
    rw [if_pos even, if_neg other, Nat.mul_div_mul_right _ _ positive]
    omega
  · rw [if_neg even] at finite
    have raised := (min_lt_iff.1 finite).resolve_right (Nat.lt_irrefl _)
    rw [if_neg even, min_eq_left raised.le, ← Nat.succ_mul, Nat.mul_div_mul_right _ _ positive]
    by_cases same : p = k
    · have single : m = 1 := by
        subst same
        exact (Nat.mul_eq_left positive.ne').1 weights.symm
      rw [if_pos same, single, Nat.div_one, Nat.div_one]
    · rw [if_neg same, Nat.add_zero]
      exact Nat.div_le_div_right (Nat.le_succ _)

/-- The first `n` digits of a list that are all below those of another. -/
theorem forall₂_take_of_digits {ds es : List Nat} (length : ds.length = es.length) (n : Nat)
    (digits : ∀ j < n, ds[j]?.getD 0 ≤ es[j]?.getD 0) :
    List.Forall₂ (· ≤ ·) (ds.take n) (es.take n) := by
  apply Measure.forall₂_of_digits (by simp [length])
  intro t
  rw [List.getElem?_take, List.getElem?_take]
  split
  · next before => exact digits t before
  · exact Nat.le_refl _

theorem take_succ_eq {ds : List Nat} {n : Nat} (inside : n < ds.length) :
    ds.take (n + 1) = ds.take n ++ [ds[n]?.getD 0] := by
  rw [List.take_add_one, List.getElem?_eq_getElem inside, Option.toList_some, Option.getD_some]

/-- A number whose digits up to those a priority `p` keeps lie below those of
another, the last of them strictly when `p` is odd, is taken by `p` to at most
the other. -/
theorem progRank_le_of_digits (shape : M.bounds.size = M.size / 2) {p : Nat} (inside : p < M.size)
    {ds es : List Nat} (dsFit : List.Forall₂ (· ≤ ·) ds M.bounds.toList)
    (esFit : List.Forall₂ (· ≤ ·) es M.bounds.toList)
    (digits : ∀ j < Measure.prefixLength p,
      ds[j]?.getD 0 + (if p = 2 * j + 1 then 1 else 0) ≤ es[j]?.getD 0) :
    (ofMaximum M).progRank M.size p (Radix.value ds M.bounds.toList) ≤
      Radix.value es M.bounds.toList := by
  have finite : Radix.value ds M.bounds.toList < (ofMaximum M).count := by
    rw [count_ofMaximum]
    exact Radix.value_lt dsFit
  by_cases keeps : Measure.prefixLength p = 0
  · simp [progRank, Nat.not_le.2 finite, Nat.not_le.2 inside, keeps]
  have within := Solver.prefixLength_le_bounds shape inside
  have dsLength := dsFit.length_eq
  have esLength := esFit.length_eq
  -- both numbers split after the digits `p` keeps
  have weight : (ofMaximum M).weights.getD (Measure.prefixLength p - 1) 1 =
      Radix.radixProduct (M.bounds.toList.drop (Measure.prefixLength p)) :=
    getD_weights M (Nat.pos_of_ne_zero keeps) within
  rw [progRank_of_split (ofMaximum M) finite inside (Nat.pos_of_ne_zero keeps) weight
    (Radix.value_take_drop (Measure.prefixLength p) dsLength)
    (Radix.value_lt (List.forall₂_drop _ dsFit)),
    Radix.value_take_drop (Measure.prefixLength p) esLength]
  have prefixes := forall₂_take_of_digits (dsLength.trans esLength.symm) (Measure.prefixLength p)
    fun j before => Nat.le_trans (Nat.le_add_right _ _) (digits j before)
  have lower := Radix.value_le_value prefixes (M.bounds.toList.take (Measure.prefixLength p))
  split
  · exact Nat.le_trans (Nat.mul_le_mul_right _ lower) (Nat.le_add_right _ _)
  · next odd =>
    -- an odd priority raises the last digit it keeps
    obtain ⟨last, lastEq⟩ : ∃ last, Measure.prefixLength p = last + 1 :=
      Nat.exists_eq_succ_of_ne_zero keeps
    have atLast := digits last (by omega)
    rw [if_pos (by unfold Measure.prefixLength at lastEq; omega)] at atLast
    rw [lastEq] at within ⊢
    have bsLength : M.bounds.toList.length = M.bounds.size := Array.length_toList
    have rising : Radix.value (ds.take last ++ [ds[last]?.getD 0])
          (M.bounds.toList.take last ++ [M.bounds.toList[last]?.getD 0]) <
        Radix.value (es.take last ++ [es[last]?.getD 0])
          (M.bounds.toList.take last ++ [M.bounds.toList[last]?.getD 0]) :=
      Radix.value_lt_value_of_last _
        (forall₂_take_of_digits (dsLength.trans esLength.symm) last
          fun j before => Nat.le_trans (Nat.le_add_right _ _) (digits j (by omega)))
        (Nat.lt_of_succ_le atLast) (by simp [dsLength])
    rw [← take_succ_eq (by omega), ← take_succ_eq (by omega), ← take_succ_eq (by omega)]
      at rising
    calc min (_ * Radix.radixProduct _ + Radix.radixProduct _) (ofMaximum M).count
        ≤ _ * Radix.radixProduct _ + Radix.radixProduct _ := min_le_left _ _
      _ = (_ + 1) * Radix.radixProduct _ := by rw [Nat.succ_mul]
      _ ≤ _ * Radix.radixProduct _ := Nat.mul_le_mul_right _ rising
      _ ≤ _ := Nat.le_add_right _ _

end Scale

namespace Arena

variable {a : Arena}

section Walks

/-- A walk along `moves` from `x` to `z` through vertices of priority at least
`k`: `l` lists the vertices it leaves, in order, so its end is not in it. -/
inductive Walk (a : Arena) (moves : Nat → Nat → Prop) (k : Nat) : Nat → Nat → List Nat → Prop
  | nil (x : Nat) : Walk a moves k x x []
  | cons {x y z : Nat} {rest : List Nat} : k ≤ (a.vertex x).priority → moves x y →
      Walk a moves k y z rest → Walk a moves k x z (x :: rest)

variable {moves : Nat → Nat → Prop} {k : Nat}

theorem Walk.start {x z u : Nat} {l : List Nat} (walk : a.Walk moves k x z (u :: l)) : x = u := by
  cases walk
  rfl

theorem Walk.start_mem {x z : Nat} {l : List Nat} (walk : a.Walk moves k x z l) : x ∈ l ∨ x = z := by
  cases walk with
  | nil => exact Or.inr rfl
  | cons => exact Or.inl List.mem_cons_self

theorem Walk.split {x z : Nat} {l₁ l₂ : List Nat} (walk : a.Walk moves k x z (l₁ ++ l₂)) :
    ∃ m, a.Walk moves k x m l₁ ∧ a.Walk moves k m z l₂ := by
  induction l₁ generalizing x with
  | nil => exact ⟨x, .nil x, walk⟩
  | cons u l₁ ih =>
    cases walk with
    | cons prio move tail =>
      obtain ⟨m, first, second⟩ := ih tail
      exact ⟨m, .cons prio move first, second⟩

/-- Every vertex a walk leaves has what each move from a vertex of priority at
least `k` gives its source. -/
theorem Walk.forall_mem {Q : Nat → Prop} (source : ∀ u v, k ≤ (a.vertex u).priority → moves u v → Q u)
    {x z : Nat} {l : List Nat} (walk : a.Walk moves k x z l) : ∀ u ∈ l, Q u := by
  induction walk with
  | nil x => exact fun u mem => absurd mem List.not_mem_nil
  | @cons x y z rest prio move _ ih =>
    intro u mem
    rcases List.mem_cons.1 mem with rfl | later
    · exact source u y prio move
    · exact ih u later

/-- A walk that starts in a set closed under the moves stays in it. -/
theorem Walk.stays {P : Nat → Prop} (closed : ∀ u v, P u → moves u v → P v) {x z : Nat}
    {l : List Nat} (walk : a.Walk moves k x z l) (start : P x) : (∀ u ∈ l, P u) ∧ P z := by
  induction walk with
  | nil x => exact ⟨fun u mem => absurd mem List.not_mem_nil, start⟩
  | @cons x y z rest _ move _ ih =>
    obtain ⟨inRest, last⟩ := ih (closed x y start move)
    refine ⟨fun u mem => ?_, last⟩
    rcases List.mem_cons.1 mem with rfl | later
    · exact start
    · exact inRest u later

/-- A walk through a set is a walk along the moves inside it. -/
theorem Walk.restrict {P : Nat → Prop} {x z : Nat} {l : List Nat} (walk : a.Walk moves k x z l)
    (all : ∀ u ∈ l, P u) (last : P z) : a.Walk (fun u v => P u ∧ P v ∧ moves u v) k x z l := by
  induction walk with
  | nil x => exact .nil x
  | @cons x y z rest prio move tail ih =>
    have inRest : ∀ u ∈ rest, P u := fun u mem => all u (List.mem_cons_of_mem x mem)
    have next : P y := by
      rcases tail.start_mem with mem | rfl
      · exact inRest y mem
      · exact last
    exact .cons prio ⟨all x List.mem_cons_self, next, move⟩ (ih inRest last)

theorem Walk.append {x m z : Nat} {l₁ l₂ : List Nat} (first : a.Walk moves k x m l₁)
    (second : a.Walk moves k m z l₂) : a.Walk moves k x z (l₁ ++ l₂) := by
  induction first with
  | nil x => exact second
  | cons prio move _ ih => exact .cons prio move (ih second)

theorem Walk.imp {moves' : Nat → Nat → Prop} (imp : ∀ u v, moves u v → moves' u v) {x z : Nat}
    {l : List Nat} (walk : a.Walk moves k x z l) : a.Walk moves' k x z l := by
  induction walk with
  | nil x => exact .nil x
  | cons prio move _ ih => exact .cons prio (imp _ _ move) ih

/-- A cycle may start at any of its vertices. -/
theorem Walk.rotate {v x : Nat} {l : List Nat} (walk : a.Walk moves k v v (v :: l))
    (mem : x ∈ v :: l) : ∃ l', a.Walk moves k x x (x :: l') := by
  obtain ⟨pre, post, parts⟩ := List.append_of_mem mem
  obtain ⟨m, first, second⟩ := (parts ▸ walk).split
  rw [second.start] at first second
  exact ⟨post ++ pre, second.append first⟩

/-- A cycle with a vertex in a set closed under the moves lies in that set. -/
theorem Walk.cycle_stays {P : Nat → Prop} (closed : ∀ u v, P u → moves u v → P v) {v x : Nat}
    {l : List Nat} (walk : a.Walk moves k v v (v :: l)) (mem : x ∈ v :: l) (start : P x) :
    ∀ u ∈ v :: l, P u := by
  obtain ⟨pre, post, parts⟩ := List.append_of_mem mem
  obtain ⟨m, first, second⟩ := (parts ▸ walk).split
  rw [second.start] at first second
  obtain ⟨inPost, atV⟩ := second.stays closed start
  obtain ⟨inPre, _⟩ := first.stays closed atV
  intro u member
  rw [parts] at member
  rcases List.mem_append.1 member with early | late
  · exact inPre u early
  · exact inPost u late

/-- Along a walk of moves that never lift `ρ` above itself below the count, the
digits of `ρ` that an odd priority `k` keeps fall by one at every vertex of
priority `k` the walk leaves. -/
theorem Walk.descent (consistent : a.Consistent) {ρ : Nat → Nat} (odd : k % 2 = 1)
    (progress : ∀ u v, moves u v → ρ u < a.scale.count ∧ a.offer ρ u v ≤ ρ u)
    {x z : Nat} {l : List Nat} (walk : a.Walk moves k x z l) :
    ρ z / a.scale.keptWeight k + l.countP (fun v => (a.vertex v).priority == k) ≤
      ρ x / a.scale.keptWeight k := by
  induction walk with
  | nil x => simp
  | @cons x y z rest prio move _ ih =>
    obtain ⟨finite, offered⟩ := progress x y move
    have step : ρ y / a.scale.keptWeight k + (if (a.vertex x).priority = k then 1 else 0) ≤
        a.offer ρ x y / a.scale.keptWeight k :=
      Scale.div_add_le_progRank_div (maximumOf_shape a) odd prio (consistent.priority_lt x)
        (Nat.lt_of_le_of_lt offered finite)
    have falls : a.offer ρ x y / a.scale.keptWeight k ≤ ρ x / a.scale.keptWeight k :=
      Nat.div_le_div_right offered
    rw [List.countP_cons]
    simp only [beq_iff_eq] at step ⊢
    omega

/-- No walk of moves that never lift `ρ` above itself below the count returns
to a vertex of odd priority through priorities at least its own. -/
theorem Walk.not_return (consistent : a.Consistent) {ρ : Nat → Nat}
    (progress : ∀ u v, moves u v → ρ u < a.scale.count ∧ a.offer ρ u v ≤ ρ u) {v : Nat}
    {l : List Nat} (odd : (a.vertex v).priority % 2 = 1)
    (walk : a.Walk moves (a.vertex v).priority v v (v :: l)) : False := by
  have falls := walk.descent consistent odd progress
  rw [List.countP_cons, if_pos (beq_self_eq_true _)] at falls
  omega

/-- Cycles in two layers: when `outer` is closed under the moves, a cycle in
`inner ∪ outer` lies in `inner` alone or in `outer` alone, so numbers that the
moves inside each layer never lift rule out odd cycles. -/
theorem not_return_of_layers (consistent : a.Consistent) {inner outer : Nat → Prop}
    {ρ σ : Nat → Nat} (closed : ∀ u v, inner u ∨ outer u → moves u v → inner v ∨ outer v)
    (outerClosed : ∀ u v, outer u → moves u v → outer v)
    (innerProgress : ∀ u v, inner u → inner v → moves u v →
      ρ u < a.scale.count ∧ a.offer ρ u v ≤ ρ u)
    (outerProgress : ∀ u v, outer u → moves u v → σ u < a.scale.count ∧ a.offer σ u v ≤ σ u)
    {v : Nat} {l : List Nat} (start : inner v ∨ outer v) (odd : (a.vertex v).priority % 2 = 1)
    (walk : a.Walk moves (a.vertex v).priority v v (v :: l)) : False := by
  by_cases crosses : ∃ m ∈ v :: l, outer m
  · obtain ⟨m, mem, outerM⟩ := crosses
    have outers := walk.cycle_stays outerClosed mem outerM
    exact (walk.restrict outers (outers v List.mem_cons_self)).not_return consistent
      (fun u w move => outerProgress u w move.1 move.2.2) odd
  · push Not at crosses
    obtain ⟨all, _⟩ := walk.stays closed start
    have inners : ∀ u ∈ v :: l, inner u := fun u mem => (all u mem).resolve_right (crosses u mem)
    exact (walk.restrict inners (inners v List.mem_cons_self)).not_return consistent
      (fun u w move => innerProgress u w move.1 move.2.1 move.2.2) odd

/-- Without returns to a vertex of priority `k`, a walk leaves each such
vertex at most once. -/
theorem Walk.nodup_filter {x z : Nat} {l : List Nat} (walk : a.Walk moves k x z l)
    (noReturn : ∀ v ∈ l, ∀ l', (a.vertex v).priority = k → ¬ a.Walk moves k v v (v :: l')) :
    (l.filter fun v => (a.vertex v).priority == k).Nodup := by
  induction walk with
  | nil x => exact List.nodup_nil
  | @cons x y z rest prio move tail ih =>
    have restNoReturn : ∀ v ∈ rest, ∀ l', (a.vertex v).priority = k →
        ¬ a.Walk moves k v v (v :: l') :=
      fun v mem => noReturn v (List.mem_cons_of_mem x mem)
    rw [List.filter_cons]
    split
    · next atK =>
      refine List.nodup_cons.2 ⟨fun mem => ?_, ih restNoReturn⟩
      -- leaving `x` again closes a cycle back to it
      obtain ⟨pre, post, parts⟩ := List.append_of_mem (List.mem_filter.1 mem).1
      obtain ⟨m, first, second⟩ := (parts ▸ tail).split
      rw [second.start] at first
      exact noReturn x List.mem_cons_self pre (by simpa using atK) (.cons prio move first)
    · exact ih restNoReturn

/-- Without returns, a walk through vertices of the arena leaves at most as
many vertices of priority `k` as the arena has. -/
theorem Walk.countP_le {x z : Nat} {l : List Nat} (walk : a.Walk moves k x z l)
    (noReturn : ∀ v ∈ l, ∀ l', (a.vertex v).priority = k → ¬ a.Walk moves k v v (v :: l'))
    (inside : ∀ u ∈ l, u < a.size) :
    l.countP (fun v => (a.vertex v).priority == k) ≤
      (List.range a.size).countP fun v => (a.vertex v).priority == k := by
  rw [List.countP_eq_length_filter, List.countP_eq_length_filter]
  apply ((walk.nodup_filter noReturn).subperm fun u mem => ?_).length_le
  obtain ⟨inL, atK⟩ := List.mem_filter.1 mem
  exact List.mem_filter.2 ⟨List.mem_range.2 (inside u inL), atK⟩

end Walks

section Counting

/-- The priority histogram counts the vertices of each priority. -/
theorem getElem?_priorityHistogram (a : Arena) {p : Nat} (inside : p ≤ a.maxPriority) :
    a.priorityHistogram[p]? =
      some ((List.range a.size).countP fun v => (a.vertex v).priority == p) := by
  have counts : ∀ (vs : List Vertex) (h : Array Nat), p < h.size →
      (vs.foldl (fun h v => h.modify v.priority (· + 1)) h)[p]? =
        some (h[p]?.getD 0 + vs.countP fun v => v.priority == p) := by
    intro vs
    induction vs with
    | nil => intro h within; simp [Array.getElem?_eq_getElem within]
    | cons v vs ih =>
      intro h within
      rw [List.foldl_cons, ih _ (by simpa using within), List.countP_cons, Array.getElem?_modify]
      by_cases same : v.priority = p
      · simp [same, Array.getElem?_eq_getElem within]
        omega
      · simp [same]
  rw [priorityHistogram, ← Array.foldl_toList, counts _ _ (by simp; omega), ← map_vertex_range,
    List.countP_map]
  simp [Nat.lt_succ_of_le inside]
  rfl

/-- The bound of digit `j` is the number of vertices of priority `2j+1`. -/
theorem getElem?_bounds (a : Arena) {j : Nat} (inside : j < (Solver.maximumOf a).bounds.size) :
    (Solver.maximumOf a).bounds.toList[j]? =
      some ((List.range a.size).countP fun v => (a.vertex v).priority == 2 * j + 1) := by
  have sized : j < a.priorityHistogram.size / 2 := by
    simpa [Solver.maximumOf, Maximum.ofBounds] using inside
  have within : 2 * j + 1 ≤ a.maxPriority := by
    rw [size_priorityHistogram] at sized
    omega
  simp only [Solver.maximumOf, Maximum.ofBounds, Array.getElem?_toList, Array.getElem?_map,
    Array.size_map, Array.getElem?_range, sized, if_true, Option.map_some]
  rw [getElem?_priorityHistogram a within]
  rfl

end Counting

section Visits

variable {moves : Nat → Nat → Prop}

open Classical

/-- The most vertices of priority `k` that a walk along `moves` from `x`
leaves through priorities at least `k`, up to `bound`. -/
noncomputable def visits (a : Arena) (moves : Nat → Nat → Prop) (k bound x : Nat) : Nat :=
  Nat.findGreatest (fun c => ∃ z l, a.Walk moves k x z l ∧
    l.countP (fun v => (a.vertex v).priority == k) = c) bound

theorem visits_le (k bound x : Nat) : a.visits moves k bound x ≤ bound := Nat.findGreatest_le _

/-- Some walk leaves as many vertices as `visits` counts. -/
theorem exists_walk_visits (a : Arena) (moves : Nat → Nat → Prop) (k bound x : Nat) :
    ∃ z l, a.Walk moves k x z l ∧
      l.countP (fun v => (a.vertex v).priority == k) = a.visits moves k bound x :=
  Nat.findGreatest_spec (P := fun c => ∃ z l, a.Walk moves k x z l ∧
    l.countP (fun v => (a.vertex v).priority == k) = c) (Nat.zero_le bound) ⟨x, [], .nil x, rfl⟩

theorem le_visits {k bound x z : Nat} {l : List Nat} (walk : a.Walk moves k x z l)
    (bounded : l.countP (fun v => (a.vertex v).priority == k) ≤ bound) :
    l.countP (fun v => (a.vertex v).priority == k) ≤ a.visits moves k bound x :=
  Nat.le_findGreatest bounded ⟨z, l, walk, rfl⟩

/-- A move from `x` to `y` turns every walk from `y` into one from `x` that
leaves `x` as well. -/
theorem visits_step {k bound x y : Nat} (prio : k ≤ (a.vertex x).priority) (move : moves x y)
    (bounded : ∀ z l, a.Walk moves k x z l →
      l.countP (fun v => (a.vertex v).priority == k) ≤ bound) :
    a.visits moves k bound y + (if (a.vertex x).priority = k then 1 else 0) ≤
      a.visits moves k bound x := by
  obtain ⟨z, l, walk, counted⟩ := exists_walk_visits a moves k bound y
  have longer : a.Walk moves k x z (x :: l) := .cons prio move walk
  calc a.visits moves k bound y + (if (a.vertex x).priority = k then 1 else 0)
      = (x :: l).countP (fun v => (a.vertex v).priority == k) := by
        rw [List.countP_cons, counted]
        simp
    _ ≤ a.visits moves k bound x := le_visits longer (bounded z _ longer)

/-- The digits of `visitRank`: digit `j` counts the visits of priority `2j+1`. -/
noncomputable def visitDigits (a : Arena) (moves : Nat → Nat → Prop) (x : Nat) : List Nat :=
  (Solver.maximumOf a).bounds.toList.mapIdx fun j b => a.visits moves (2 * j + 1) b x

/-- The number of the most visits of each odd priority. -/
noncomputable def visitRank (a : Arena) (moves : Nat → Nat → Prop) (x : Nat) : Nat :=
  Radix.value (a.visitDigits moves x) (Solver.maximumOf a).bounds.toList

theorem getD_visitDigits (x j : Nat) :
    (a.visitDigits moves x)[j]?.getD 0 =
      ((Solver.maximumOf a).bounds.toList[j]?.map fun b => a.visits moves (2 * j + 1) b x).getD 0 := by
  simp [visitDigits, List.getElem?_mapIdx]

theorem visitDigits_fit (x : Nat) :
    List.Forall₂ (· ≤ ·) (a.visitDigits moves x) (Solver.maximumOf a).bounds.toList := by
  apply Measure.forall₂_of_digits (by simp [visitDigits])
  intro t
  rw [getD_visitDigits]
  cases (Solver.maximumOf a).bounds.toList[t]? with
  | none => exact Nat.le_refl _
  | some b => exact visits_le _ _ _

theorem visitRank_lt_count (x : Nat) : a.visitRank moves x < a.scale.count := by
  rw [scale, Scale.count_ofMaximum]
  exact Radix.value_lt (visitDigits_fit x)

/-- Inside a region closed under the moves and without odd returns, a move
never lifts `visitRank` above itself: the walks from its target, one move
longer, are walks from its source. -/
theorem Consistent.offer_visitRank_le (consistent : a.Consistent) {D : Nat → Prop}
    (inside : ∀ u, D u → u < a.size) (closed : ∀ u v, D u → moves u v → D v)
    (noReturn : ∀ v l, D v → (a.vertex v).priority % 2 = 1 →
      ¬ a.Walk moves (a.vertex v).priority v v (v :: l))
    {x y : Nat} (start : D x) (move : moves x y) :
    a.offer (a.visitRank moves) x y ≤ a.visitRank moves x := by
  have priorityInside := consistent.priority_lt x
  apply Scale.progRank_le_of_digits (maximumOf_shape a) priorityInside (visitDigits_fit y)
    (visitDigits_fit x)
  intro j before
  have within : j < (Solver.maximumOf a).bounds.size := Nat.lt_of_lt_of_le before
    (Solver.prefixLength_le_bounds (maximumOf_shape a) priorityInside)
  rw [getD_visitDigits, getD_visitDigits, getElem?_bounds a within, Option.map_some,
    Option.map_some, Option.getD_some, Option.getD_some]
  apply visits_step (by unfold Measure.prefixLength at before; omega) move
  intro z l walk
  obtain ⟨all, _⟩ := walk.stays closed start
  refine walk.countP_le (fun v mem l' same => ?_) (fun u mem => inside u (all u mem))
  rw [← same]
  exact noReturn v l' (all v mem) (by omega)

end Visits

/-- Any owner but Even takes at most a bound that every edge's offer stays
below. -/
theorem liftRank_le_of_offers {r : Nat → Nat} {v bound : Nat}
    (other : (a.vertex v).owner.isEven = false)
    (each : ∀ w ∈ (a.vertex v).outgoing, a.offer r v w ≤ bound) : a.liftRank r v ≤ bound := by
  unfold liftRank
  dsimp only
  rw [other]
  apply foldl_prefer_le _ _ (by simp)
  intro o mem
  obtain ⟨w, wMem, rfl⟩ := List.mem_map.1 mem
  exact each w (Array.mem_toList_iff.1 wMem)

open Classical in
/-- Jurdziński's bound on numbers: in a region closed under a choice of moves
that gives every Even vertex a move and every other vertex all its edges, with
no odd returns, the least fixpoint stays below the count. The numbers of the
most visits, with the count outside the region, form a pre-fixpoint. -/
theorem Consistent.fixRank_lt_count_of_moves (consistent : a.Consistent) {D : Nat → Prop}
    {moves : Nat → Nat → Prop} (inside : ∀ x, D x → x < a.size)
    (closed : ∀ x y, D x → moves x y → D y)
    (edge : ∀ x y, D x → moves x y → y ∈ (a.vertex x).outgoing)
    (evenMove : ∀ x, D x → (a.vertex x).owner.isEven = true → ∃ y, moves x y)
    (otherMoves : ∀ x, D x → (a.vertex x).owner.isEven = false →
      ∀ y ∈ (a.vertex x).outgoing, moves x y)
    (noReturn : ∀ v l, D v → (a.vertex v).priority % 2 = 1 →
      ¬ a.Walk moves (a.vertex v).priority v v (v :: l)) :
    ∀ x, D x → a.fixRank x < a.scale.count := by
  let r : Nat → Nat := fun u => if D u then a.visitRank moves u else a.scale.count
  have offered : ∀ x y, D x → moves x y → a.offer r x y ≤ r x := by
    intro x y start move
    have atX : r x = a.visitRank moves x := if_pos start
    have atY : r y = a.visitRank moves y := if_pos (closed x y start move)
    rw [offer, atX, atY]
    exact consistent.offer_visitRank_le inside closed noReturn start move
  have pre : ∀ u < a.size, a.liftRank r u ≤ r u := by
    intro u _
    by_cases start : D u
    · cases even : (a.vertex u).owner.isEven
      · exact liftRank_le_of_offers even fun w mem =>
          offered u w start (otherMoves u start even w mem)
      · obtain ⟨y, move⟩ := evenMove u start even
        exact (liftRank_le_offer even (edge u y start move)).trans (offered u y start move)
    · calc a.liftRank r u ≤ a.scale.count := a.liftRank_le_count r u
        _ = r u := (if_neg start).symm
  intro x start
  calc a.fixRank x ≤ r x := consistent.fixRank_le pre x (inside x start)
    _ = a.visitRank moves x := if_pos start
    _ < a.scale.count := visitRank_lt_count x


section Escape

theorem foldl_prefer_even_mem (l : List Nat) (x : Nat) :
    l.foldl (prefer true) x = x ∨ l.foldl (prefer true) x ∈ l := by
  induction l generalizing x with
  | nil => exact Or.inl rfl
  | cons y ys ih =>
    rw [List.foldl_cons]
    rcases ih (prefer true x y) with same | later
    · rw [same]
      show min x y = x ∨ min x y ∈ y :: ys
      rcases min_choice x y with first | second
      · exact Or.inl first
      · right
        rw [second]
        exact List.mem_cons_self
    · exact Or.inr (List.mem_cons_of_mem y later)

/-- An even owner below the count takes what one of its edges offers. -/
theorem exists_offer_eq_liftRank {r : Nat → Nat} {v : Nat}
    (even : (a.vertex v).owner.isEven = true) (below : a.liftRank r v < a.scale.count) :
    ∃ w ∈ (a.vertex v).outgoing, a.offer r v w = a.liftRank r v := by
  unfold liftRank at below ⊢
  dsimp only at below ⊢
  rw [even, if_pos rfl] at below ⊢
  rcases foldl_prefer_even_mem ((a.vertex v).outgoing.toList.map fun w =>
      a.scale.progRank (Solver.maximumOf a).size (a.vertex v).priority (r w)) a.scale.count with
    start | mem
  · rw [start] at below
    exact absurd below (Nat.lt_irrefl _)
  · obtain ⟨w, wMem, atW⟩ := List.mem_map.1 mem
    exact ⟨w, Array.mem_toList_iff.1 wMem, atW⟩

/-- An offer below the count comes from a number below the count. -/
theorem lt_count_of_offer_lt {r : Nat → Nat} {v w : Nat} (below : a.offer r v w < a.scale.count) :
    r w < a.scale.count := by
  by_contra reached
  rw [offer, Scale.progRank, if_pos (Nat.le_of_not_lt reached)] at below
  exact Nat.lt_irrefl _ below

/-- A move from `x` to `y` that reaches a vertex where the least fixpoint is
finite, or stays in `I` without lifting `ρ` above itself below the count. -/
def Holds (a : Arena) (I : Nat → Prop) (ρ : Nat → Nat) (x y : Nat) : Prop :=
  a.fixRank y < a.scale.count ∨ I y ∧ ρ x < a.scale.count ∧ a.offer ρ x y ≤ ρ x

/-- A region that its vertices' owners can hold, by moves that keep a number
below the count or that reach where the least fixpoint is finite, lies where
the least fixpoint is finite. The region and the finite part of the least
fixpoint, each with its own moves, make the two layers of the counting
argument: no move leaves the finite part, and each layer has its numbers. -/
theorem Consistent.fixRank_lt_of_holds (consistent : a.Consistent) {I : Nat → Prop}
    {ρ : Nat → Nat} (inside : ∀ x, I x → x < a.size)
    (evenHolds : ∀ x, I x → (a.vertex x).owner.isEven = true →
      ∃ y ∈ (a.vertex x).outgoing, a.Holds I ρ x y)
    (otherHolds : ∀ x, I x → (a.vertex x).owner.isEven = false →
      ∀ y ∈ (a.vertex x).outgoing, a.Holds I ρ x y) :
    ∀ x, I x → a.fixRank x < a.scale.count := by
  let F : Nat → Prop := fun x => x < a.size ∧ a.fixRank x < a.scale.count
  let moves : Nat → Nat → Prop := fun x y => y ∈ (a.vertex x).outgoing ∧
    (F x ∧ a.offer a.fixRank x y ≤ a.fixRank x ∨ ¬ F x ∧ I x ∧ a.Holds I ρ x y)
  have entering : ∀ x y, x < a.size → y ∈ (a.vertex x).outgoing →
      a.fixRank y < a.scale.count → F y :=
    fun x y within edge finite => ⟨consistent.target_lt x within y edge, finite⟩
  have outerClosed : ∀ x y, F x → moves x y → F y := by
    rintro x y finite ⟨edge, ⟨_, offered⟩ | ⟨notFinite, _⟩⟩
    · exact entering x y finite.1 edge (lt_count_of_offer_lt (Nat.lt_of_le_of_lt offered finite.2))
    · exact absurd finite notFinite
  have closed : ∀ x y, I x ∨ F x → moves x y → I y ∨ F y := by
    rintro x y start ⟨edge, ⟨finite, offered⟩ | ⟨_, held, holds⟩⟩
    · exact Or.inr (outerClosed x y finite ⟨edge, Or.inl ⟨finite, offered⟩⟩)
    · rcases holds with finite | ⟨heldY, _, _⟩
      · exact Or.inr (entering x y (inside x held) edge finite)
      · exact Or.inl heldY
  have layered : ∀ x, I x ∨ F x → (I x ∧ ¬ F x) ∨ F x := by
    intro x start
    by_cases finite : F x
    · exact Or.inr finite
    · exact Or.inl ⟨start.resolve_right finite, finite⟩
  have noReturn : ∀ v l, I v ∨ F v → (a.vertex v).priority % 2 = 1 →
      ¬ a.Walk moves (a.vertex v).priority v v (v :: l) := by
    intro v l start odd walk
    refine not_return_of_layers (ρ := ρ) (σ := a.fixRank) consistent
      (fun x y start move => layered y (closed x y ?_ move))
      outerClosed (fun x y inner innerY move => ?_)
      (fun x y finite move => ?_) (layered v start) odd walk
    · rcases start with inner | finite
      · exact Or.inl inner.1
      · exact Or.inr finite
    · -- inside the region the moves keep `ρ`
      obtain ⟨edge, ⟨finite, _⟩ | ⟨_, _, holds⟩⟩ := move
      · exact absurd finite inner.2
      · rcases holds with finiteY | ⟨_, below, offered⟩
        · exact absurd (entering x y (inside x inner.1) edge finiteY) innerY.2
        · exact ⟨below, offered⟩
    · obtain ⟨_, ⟨_, offered⟩ | ⟨notFinite, _⟩⟩ := move
      · exact ⟨finite.2, offered⟩
      · exact absurd finite notFinite
  have evenMove : ∀ x, I x ∨ F x → (a.vertex x).owner.isEven = true → ∃ y, moves x y := by
    intro x start even
    by_cases finite : F x
    · have fixed := consistent.liftRank_fixRank x finite.1
      obtain ⟨y, edge, offered⟩ := exists_offer_eq_liftRank even (fixed ▸ finite.2)
      exact ⟨y, edge, Or.inl ⟨finite, (offered.trans fixed).le⟩⟩
    · obtain ⟨y, edge, holds⟩ := evenHolds x (start.resolve_right finite) even
      exact ⟨y, edge, Or.inr ⟨finite, start.resolve_right finite, holds⟩⟩
  have otherMoves : ∀ x, I x ∨ F x → (a.vertex x).owner.isEven = false →
      ∀ y ∈ (a.vertex x).outgoing, moves x y := by
    intro x start other y edge
    by_cases finite : F x
    · exact ⟨edge, Or.inl ⟨finite,
        (offer_le_liftRank other edge).trans (consistent.liftRank_fixRank x finite.1).le⟩⟩
    · exact ⟨edge, Or.inr ⟨finite, start.resolve_right finite,
        otherHolds x (start.resolve_right finite) other y edge⟩⟩
  have insideAll : ∀ x, I x ∨ F x → x < a.size := by
    rintro x (held | finite)
    · exact inside x held
    · exact finite.1
  have edges : ∀ x y, I x ∨ F x → moves x y → y ∈ (a.vertex x).outgoing :=
    fun _ _ _ move => move.1
  exact fun x held => consistent.fixRank_lt_count_of_moves insideAll closed edges evenMove
    otherMoves noReturn x (Or.inl held)

/-- A vertex whose owner can move to where the least fixpoint is finite (Even
by one edge, any other owner by every edge) has a finite least fixpoint. -/
theorem Consistent.fixRank_lt_of_step (consistent : a.Consistent) {u : Nat} (inside : u < a.size)
    (even : (a.vertex u).owner.isEven = true →
      ∃ v ∈ (a.vertex u).outgoing, a.fixRank v < a.scale.count)
    (other : (a.vertex u).owner.isEven = false →
      ∀ v ∈ (a.vertex u).outgoing, a.fixRank v < a.scale.count) :
    a.fixRank u < a.scale.count := by
  refine consistent.fixRank_lt_of_holds (I := (· = u)) (ρ := fun _ => 0) (fun x held => held ▸ inside)
    (fun x held isEven => ?_) (fun x held isOther y edge => ?_) u rfl
  · subst held
    obtain ⟨v, edge, finite⟩ := even isEven
    exact ⟨v, edge, Or.inl finite⟩
  · subst held
    exact Or.inl (other isOther y edge)

end Escape

end Arena

end ParityGames
