import ParityGames.Proofs.MeasureOrder
import ParityGames.Proofs.ArenaInvariant
import ParityGames.Solver.Lift

/-!
# Lifting on numbers

On the numbers of the measures (`Scale.rank`) the lifting operator is plain
arithmetic: the number an edge offers is `Scale.progRank` of the number of
its target, an even owner takes the least offer and every other owner the
greatest.  `Arena.liftRank` is that operator.

The solver keeps a number beside every measure, and it is `Coherent` when
the two agree and every measure fits the maximum of its arena.  The main
statements here are that `liftValue` has the number `liftRank` gives
(`rank_liftValue`), and that `lift` sets exactly that number at the lifted
vertex, keeps every other measure, reports a change exactly when the number
moves, and keeps the state coherent (`lift_rank`, `lift_changed`,
`Coherent.lift`).
-/

namespace ParityGames

open ParityGames.Measure

namespace Scale

/-- The offer of an edge never passes the count. -/
theorem progRank_le_count (c : Scale) (size p x : Nat) : c.progRank size p x ≤ c.count := by
  unfold progRank
  split
  · exact Nat.le_refl _
  · split
    · exact Nat.zero_le _
    · dsimp only
      split
      · exact Nat.zero_le _
      · split
        · omega
        · exact Nat.min_le_right _ _

/-- Rounding down to a multiple of `w` is monotone, also for `w = 0`, where
it gives zero. -/
theorem sub_mod_le_sub_mod {x y : Nat} (w : Nat) (le : x ≤ y) : x - x % w ≤ y - y % w := by
  have xSplit := Nat.mod_add_div x w
  have ySplit := Nat.mod_add_div y w
  have quotients : w * (x / w) ≤ w * (y / w) := Nat.mul_le_mul_left w (Nat.div_le_div_right le)
  omega

/-- The offer of an edge grows with the number of its target. -/
theorem progRank_mono (c : Scale) (size p : Nat) {x y : Nat} (le : x ≤ y) :
    c.progRank size p x ≤ c.progRank size p y := by
  by_cases yTop : y ≥ c.count
  · have atCount : c.progRank size p y = c.count := by rw [progRank, if_pos yTop]
    rw [atCount]
    exact progRank_le_count c size p x
  have xFinite : ¬ x ≥ c.count := by omega
  unfold progRank
  rw [if_neg xFinite, if_neg yTop]
  split
  · exact Nat.le_refl _
  · dsimp only
    split
    · exact Nat.le_refl _
    · have rounded := sub_mod_le_sub_mod (c.weights.getD (prefixLength p - 1) 1) le
      split
      · exact rounded
      · exact min_le_min_right _ (Nat.add_le_add_right rounded _)

end Scale

namespace Arena

/-- The scale of the measures of an arena. -/
def scale (a : Arena) : Scale := Scale.ofMaximum (Solver.maximumOf a)

/-- The better of two numbers for an owner: the lesser for an even owner,
the greater for any other. -/
def prefer (even : Bool) (best offer : Nat) : Nat := if even then min best offer else max best offer

/-- The lifting operator on numbers: the best number the edges of `v` offer
when the measures have numbers `r`, starting from the count (`⊤`) for an even
owner and from zero for any other. -/
def liftRank (a : Arena) (r : Nat → Nat) (v : Nat) : Nat :=
  let vert := a.vertex v
  let even := vert.owner.isEven
  (vert.outgoing.toList.map fun w =>
      a.scale.progRank (Solver.maximumOf a).size vert.priority (r w)).foldl
    (prefer even) (if even then a.scale.count else 0)

theorem size_priorityHistogram (a : Arena) : a.priorityHistogram.size = a.maxPriority + 1 := by
  rw [priorityHistogram, ← Array.foldl_toList]
  have keeps : ∀ (l : List Vertex) (h : Array Nat),
      (l.foldl (fun h v => h.modify v.priority (· + 1)) h).size = h.size := by
    intro l
    induction l with
    | nil => simp
    | cons v vs ih => intro h; rw [List.foldl_cons, ih, Array.size_modify]
  rw [keeps, Array.size_replicate]

theorem size_maximumOf (a : Arena) : (Solver.maximumOf a).size = a.maxPriority + 1 := by
  simp [Solver.maximumOf, Maximum.ofBounds, size_priorityHistogram]

/-- The maximum of an arena has one bound for every odd priority below its size. -/
theorem maximumOf_shape (a : Arena) :
    (Solver.maximumOf a).bounds.size = (Solver.maximumOf a).size / 2 := by
  simp [Solver.maximumOf, Maximum.ofBounds]

/-- In a consistent arena every priority, also the default one of an id
outside it, lies inside the maximum. -/
theorem Consistent.priority_lt {a : Arena} (consistent : a.Consistent) (v : Nat) :
    (a.vertex v).priority < (Solver.maximumOf a).size := by
  rw [size_maximumOf]
  by_cases inside : v < a.size
  · exact Nat.lt_succ_of_le (consistent.priority_le v inside)
  · rw [vertex_of_size_le (Nat.le_of_not_lt inside)]
    exact Nat.succ_pos _

theorem prefer_mono (even : Bool) {x x' y y' : Nat} (first : x ≤ x') (second : y ≤ y') :
    prefer even x y ≤ prefer even x' y' := by
  cases even
  · exact max_le_max first second
  · exact min_le_min first second

theorem prefer_le {even : Bool} {x y bound : Nat} (first : x ≤ bound) (second : y ≤ bound) :
    prefer even x y ≤ bound := by
  cases even
  · exact max_le first second
  · exact le_trans (min_le_left x y) first

/-- Folding `prefer` over offers that grow pointwise, from a larger start,
gives a larger number. -/
theorem foldl_prefer_mono (even : Bool) {g g' : Nat → Nat} (l : List Nat)
    (le : ∀ w ∈ l, g w ≤ g' w) {x x' : Nat} (start : x ≤ x') :
    (l.map g).foldl (prefer even) x ≤ (l.map g').foldl (prefer even) x' := by
  induction l generalizing x x' with
  | nil => exact start
  | cons w ws ih =>
    simp only [List.map_cons, List.foldl_cons]
    exact ih (fun u mem => le u (List.mem_cons_of_mem w mem))
      (prefer_mono even start (le w List.mem_cons_self))

theorem foldl_prefer_le (even : Bool) {bound x : Nat} (l : List Nat) (start : x ≤ bound)
    (each : ∀ y ∈ l, y ≤ bound) : l.foldl (prefer even) x ≤ bound := by
  induction l generalizing x with
  | nil => exact start
  | cons y ys ih =>
    rw [List.foldl_cons]
    exact ih (prefer_le start (each y List.mem_cons_self))
      (fun z mem => each z (List.mem_cons_of_mem y mem))

/-- Lifting is monotone: larger numbers at the successors give a larger
number. -/
theorem liftRank_mono (a : Arena) {r r' : Nat → Nat} {v : Nat}
    (le : ∀ w ∈ (a.vertex v).outgoing, r w ≤ r' w) : a.liftRank r v ≤ a.liftRank r' v := by
  apply foldl_prefer_mono _ _ _ (Nat.le_refl _)
  intro w mem
  exact Scale.progRank_mono _ _ _ (le w (Array.mem_toList_iff.1 mem))

theorem liftRank_le_count (a : Arena) (r : Nat → Nat) (v : Nat) :
    a.liftRank r v ≤ a.scale.count := by
  apply foldl_prefer_le
  · split
    · exact Nat.le_refl _
    · exact Nat.zero_le _
  · intro y mem
    obtain ⟨w, _, rfl⟩ := List.mem_map.1 mem
    exact Scale.progRank_le_count _ _ _ _

end Arena

namespace Solver

/-- A solver state is coherent when its maximum and scale are those of its
arena, it has one measure and one number per vertex, every measure fits the
maximum, and every number is the rank of its measure. -/
structure Coherent (s : Solver) : Prop where
  maximum_eq : s.maximum = maximumOf s.arena
  scale_eq : s.scale = s.arena.scale
  measures_size : s.measures.size = s.size
  ranks_size : s.ranks.size = s.size
  fits : ∀ v, (s.measure v).Fits s.maximum
  rank_eq : ∀ v, s.rank v = s.scale.rank (s.measure v)

theorem Coherent.scale_eq_ofMaximum {s : Solver} (coherent : s.Coherent) :
    s.scale = Scale.ofMaximum s.maximum := by
  rw [coherent.scale_eq, Arena.scale, coherent.maximum_eq]

theorem Coherent.shape {s : Solver} (coherent : s.Coherent) :
    s.maximum.bounds.size = s.maximum.size / 2 := by
  rw [coherent.maximum_eq]
  exact Arena.maximumOf_shape s.arena

theorem Coherent.priority_lt {s : Solver} (coherent : s.Coherent)
    (consistent : s.arena.Consistent) (v : Nat) :
    (s.arena.vertex v).priority < s.maximum.size := by
  rw [coherent.maximum_eq]
  exact consistent.priority_lt v

section Better

variable {M : Maximum}

theorem fits_better {best cand : Measure} (bestFits : best.Fits M) (candFits : cand.Fits M)
    (even : Bool) : (better even best cand).Fits M := by
  unfold better
  split
  · exact candFits
  · exact bestFits

/-- On numbers, keeping the better of two measures is `Arena.prefer`. -/
theorem rank_better {best cand : Measure} (bestFits : best.Fits M) (candFits : cand.Fits M)
    (even : Bool) :
    (Scale.ofMaximum M).rank (better even best cand) =
      Arena.prefer even ((Scale.ofMaximum M).rank best) ((Scale.ofMaximum M).rank cand) := by
  unfold better Arena.prefer
  rw [less_eq_decide candFits bestFits, greater_eq_decide candFits bestFits]
  cases even
  · by_cases up : (Scale.ofMaximum M).rank best < (Scale.ofMaximum M).rank cand
    · simp [up, Nat.max_eq_right (Nat.le_of_lt up)]
    · simp [up, Nat.max_eq_left (Nat.le_of_not_lt up)]
  · by_cases down : (Scale.ofMaximum M).rank cand < (Scale.ofMaximum M).rank best
    · simp [down, Nat.min_eq_right (Nat.le_of_lt down)]
    · simp [down, Nat.min_eq_left (Nat.le_of_not_lt down)]

/-- Folding `better` over the offers of a list of successors is folding
`prefer` over their numbers. -/
theorem foldl_better (shape : M.bounds.size = M.size / 2) {p : Nat} (inside : p < M.size)
    (μ : Nat → Measure) (fitsμ : ∀ w, (μ w).Fits M) (even : Bool) (l : List Nat)
    {best : Measure} (bestFits : best.Fits M) :
    (l.foldl (fun b w => better even b (progOf M p (μ w))) best).Fits M ∧
      (Scale.ofMaximum M).rank (l.foldl (fun b w => better even b (progOf M p (μ w))) best) =
        (l.map fun w => (Scale.ofMaximum M).progRank M.size p
          ((Scale.ofMaximum M).rank (μ w))).foldl (Arena.prefer even)
          ((Scale.ofMaximum M).rank best) := by
  induction l generalizing best with
  | nil => exact ⟨bestFits, rfl⟩
  | cons w ws ih =>
    have offerFits := fits_progOf shape inside (fitsμ w)
    simp only [List.foldl_cons, List.map_cons]
    rw [← rank_progOf shape inside (fitsμ w), ← rank_better bestFits offerFits]
    exact ih (fits_better bestFits offerFits even)

end Better

/-- The value lifting gives a vertex fits the maximum, and its number is what
`Arena.liftRank` gives for the numbers of the measures.  Only the measures
are read, so this holds of any fitting measures, not only coherent states. -/
theorem rank_liftValue_of_fits {s : Solver} (maximum_eq : s.maximum = maximumOf s.arena)
    (fits : ∀ w, (s.measure w).Fits s.maximum) (consistent : s.arena.Consistent) (v : Nat) :
    (s.liftValue v).Fits s.maximum ∧
      (Scale.ofMaximum s.maximum).rank (s.liftValue v) =
        s.arena.liftRank (fun w => (Scale.ofMaximum s.maximum).rank (s.measure w)) v := by
  have startFits : (if (s.arena.vertex v).owner.isEven then topOf s.maximum
      else zero s.maximum).Fits s.maximum := by
    split
    · exact fits_topOf _
    · exact fits_zero _
  have inside : (s.arena.vertex v).priority < s.maximum.size := by
    rw [maximum_eq]
    exact consistent.priority_lt v
  obtain ⟨fitting, ranked⟩ := foldl_better (maximum_eq ▸ Arena.maximumOf_shape s.arena) inside
    s.measure fits (s.arena.vertex v).owner.isEven (s.arena.vertex v).outgoing.toList startFits
  refine ⟨by simpa [liftValue] using fitting, ?_⟩
  have startRank : (Scale.ofMaximum s.maximum).rank (if (s.arena.vertex v).owner.isEven then
      topOf s.maximum else zero s.maximum) =
        if (s.arena.vertex v).owner.isEven then (Scale.ofMaximum s.maximum).count else 0 := by
    split
    · exact rank_top _ _ rfl
    · exact rank_zero _
  rw [liftValue, Arena.liftRank, Arena.scale, ← maximum_eq, ← Array.foldl_toList, ranked,
    startRank]

/-- In a coherent state the number of the value lifting gives is
`Arena.liftRank` of the numbers the solver keeps. -/
theorem rank_liftValue {s : Solver} (coherent : s.Coherent) (consistent : s.arena.Consistent)
    (v : Nat) : (s.liftValue v).Fits s.maximum ∧
      s.scale.rank (s.liftValue v) = s.arena.liftRank s.rank v := by
  have ranks : s.rank = fun w => (Scale.ofMaximum s.maximum).rank (s.measure w) := by
    funext w
    rw [coherent.rank_eq, coherent.scale_eq_ofMaximum]
  rw [coherent.scale_eq_ofMaximum, ranks]
  exact rank_liftValue_of_fits coherent.maximum_eq coherent.fits consistent v

section Choice

theorem prefer_of_better {even : Bool} {best o : Nat}
    (better : (even && decide (o < best) || !even && decide (o > best)) = true) :
    Arena.prefer even best o = o := by
  cases even <;> simp_all [Arena.prefer] <;> omega

theorem prefer_of_not_better {even : Bool} {best o : Nat}
    (worse : ¬ (even && decide (o < best) || !even && decide (o > best)) = true) :
    Arena.prefer even best o = best := by
  cases even <;> simp_all [Arena.prefer]

theorem drop_toList_of_lt {ws : Array Nat} {i : Nat} (inside : i < ws.size) :
    ws.toList.drop i = ws[i] :: ws.toList.drop (i + 1) := by
  rw [List.drop_eq_getElem_cons (by simpa using inside), Array.getElem_toList]

variable (c : Scale) (ranks : Array Nat) (weight : Nat) (nothing raising : Bool) (ws : Array Nat)
  (start : Nat)

/-- The number at a position `bestFrom` may return: the offer of the edge
there, or the starting value for the position past the last edge. -/
def offerAt (pos : Nat) : Nat :=
  if h : pos < ws.size then offer c ranks weight nothing raising ws[pos] else start

/-- `bestFrom` returns a position whose number is the best of the remaining
offers and the best so far. -/
theorem offerAt_bestFrom (even : Bool) (i best pos : Nat)
    (atBest : offerAt c ranks weight nothing raising ws start pos = best) :
    offerAt c ranks weight nothing raising ws start
        (bestFrom c ranks even weight nothing raising ws i best pos) =
      ((ws.toList.drop i).map (offer c ranks weight nothing raising)).foldl
        (Arena.prefer even) best := by
  fun_induction bestFrom c ranks even weight nothing raising ws i best pos with
  | case1 i best pos inside o better ih =>
    rw [drop_toList_of_lt inside, List.map_cons, List.foldl_cons, prefer_of_better better]
    exact ih (dif_pos inside)
  | case2 i best pos inside o worse ih =>
    rw [drop_toList_of_lt inside, List.map_cons, List.foldl_cons, prefer_of_not_better worse]
    exact ih atBest
  | case3 i best pos outside =>
    rw [List.drop_eq_nil_of_le (by simpa using Nat.le_of_not_lt outside)]
    exact atBest

end Choice

section Lift

variable {s : Solver}

/-- The offer `lift` computes for an edge is `Scale.progRank` of the number
of its target. -/
theorem offer_eq (s : Solver) (p : Nat) :
    offer s.scale s.ranks (s.scale.keptWeight p) (Scale.keepsNothing s.maximum.size p)
      (p % 2 == 1) = fun w => s.scale.progRank s.maximum.size p (s.rank w) := by
  funext w
  rw [offer, Scale.progStep_eq]
  rfl

theorem Coherent.liftRank_eq (coherent : s.Coherent) (r : Nat → Nat) (v : Nat) :
    s.arena.liftRank r v =
      ((s.arena.vertex v).outgoing.toList.map fun w =>
          s.scale.progRank s.maximum.size (s.arena.vertex v).priority (r w)).foldl
        (Arena.prefer (s.arena.vertex v).owner.isEven)
        (if (s.arena.vertex v).owner.isEven then s.scale.count else 0) := by
  rw [Arena.liftRank, coherent.scale_eq, coherent.maximum_eq]

/-- What one lift does: with `L` the number `Arena.liftRank` gives the
vertex, a lift that finds `L` already in place only counts itself; any other
lift stores `L` and a fitting measure of that number at the vertex, and
reports a change. -/
theorem lift_cases (coherent : s.Coherent) (consistent : s.arena.Consistent) (v : Nat) :
    ∃ stored : Measure, stored.Fits s.maximum ∧ s.scale.rank stored = s.arena.liftRank s.rank v ∧
      s.lift v = if s.arena.liftRank s.rank v = s.rank v ∧ v < s.size then
          (false, { s with stats := { s.stats with lifts := s.stats.lifts + 1 } })
        else (true, { s with
          measures := s.measures.set! v stored
          ranks := s.ranks.set! v (s.arena.liftRank s.rank v)
          stats := { s.stats with lifts := s.stats.lifts + 1 } }) := by
  have chosen := offerAt_bestFrom s.scale s.ranks (s.scale.keptWeight (s.arena.vertex v).priority)
    (Scale.keepsNothing s.maximum.size (s.arena.vertex v).priority)
    ((s.arena.vertex v).priority % 2 == 1) (s.arena.vertex v).outgoing
    (if (s.arena.vertex v).owner.isEven then s.scale.count else 0)
    (s.arena.vertex v).owner.isEven 0 _ _ (dif_neg (Nat.lt_irrefl _))
  rw [List.drop_zero, offer_eq, ← coherent.liftRank_eq] at chosen
  unfold lift
  dsimp only
  generalize bestFrom _ _ _ _ _ _ _ _ _ _ = pos at chosen ⊢
  unfold offerAt at chosen
  rw [chosen]
  refine ⟨?stored, ?fits, ?rank, ?eq⟩
  case eq =>
    simp only [Bool.and_eq_true, beq_iff_eq, decide_eq_true_eq, coherent.ranks_size]
    rfl
  case fits =>
    have inside := coherent.priority_lt consistent v
    split
    · exact fits_progOf coherent.shape inside (coherent.fits _)
    · split
      · exact fits_topOf _
      · exact fits_zero _
  case rank =>
    rw [← chosen, offer_eq]
    split
    · dsimp only
      rw [coherent.rank_eq, coherent.scale_eq_ofMaximum,
        rank_progOf coherent.shape (coherent.priority_lt consistent v) (coherent.fits _)]
    · split
      · exact rank_top _ _ rfl
      · rw [coherent.scale_eq_ofMaximum]
        exact rank_zero _

@[simp]
theorem arena_lift (s : Solver) (v : Nat) : (s.lift v).2.arena = s.arena := by
  unfold lift
  dsimp only
  generalize (_ && _) = unchanged
  cases unchanged <;> rfl

@[simp]
theorem maximum_lift (s : Solver) (v : Nat) : (s.lift v).2.maximum = s.maximum := by
  unfold lift
  dsimp only
  generalize (_ && _) = unchanged
  cases unchanged <;> rfl

@[simp]
theorem scale_lift (s : Solver) (v : Nat) : (s.lift v).2.scale = s.scale := by
  unfold lift
  dsimp only
  generalize (_ && _) = unchanged
  cases unchanged <;> rfl

@[simp]
theorem locked_lift (s : Solver) (v : Nat) : (s.lift v).2.locked = s.locked := by
  unfold lift
  dsimp only
  generalize (_ && _) = unchanged
  cases unchanged <;> rfl

@[simp]
theorem policy_lift (s : Solver) (v : Nat) : (s.lift v).2.policy = s.policy := by
  unfold lift
  dsimp only
  generalize (_ && _) = unchanged
  cases unchanged <;> rfl

@[simp]
theorem size_lift (s : Solver) (v : Nat) : (s.lift v).2.size = s.size := by
  rw [size, arena_lift]
  rfl

theorem getD_set! {α : Type} (xs : Array α) (i j : Nat) (x d : α) :
    (xs.set! i x).getD j d = if j = i ∧ i < xs.size then x else xs.getD j d := by
  simp only [Array.set!_eq_setIfInBounds, Array.getD_eq_getD_getElem?,
    Array.getElem?_setIfInBounds]
  by_cases atI : j = i
  · subst atI
    by_cases inside : j < xs.size <;> simp [inside]
  · simp [atI, Ne.symm atI]

theorem measure_eq_getD (s : Solver) (u : Nat) :
    s.measure u = s.measures.getD u (zero s.maximum) := rfl

theorem rank_eq_getD (s : Solver) (u : Nat) : s.rank u = s.ranks.getD u 0 := rfl

/-- Lifting `v` sets the number of `v` to `Arena.liftRank` and keeps every
other number. -/
theorem lift_rank (coherent : s.Coherent) (consistent : s.arena.Consistent) (u v : Nat) :
    (s.lift v).2.rank u = if u = v ∧ v < s.size then s.arena.liftRank s.rank v else s.rank u := by
  obtain ⟨stored, _, _, lifted⟩ := lift_cases coherent consistent v
  rw [lifted]
  split
  · rename_i same
    by_cases atV : u = v
    · subst atV
      rw [if_pos ⟨rfl, same.2⟩, same.1]
      rfl
    · rw [if_neg (fun h => atV h.1)]
      rfl
  · rw [rank_eq_getD, getD_set!, coherent.ranks_size]
    rfl

/-- Lifting `v` keeps the measure of every other vertex. -/
theorem lift_measure_of_ne (coherent : s.Coherent) (consistent : s.arena.Consistent)
    {u v : Nat} (other : u ≠ v) : (s.lift v).2.measure u = s.measure u := by
  obtain ⟨stored, _, _, lifted⟩ := lift_cases coherent consistent v
  rw [lifted]
  split
  · rfl
  · rw [measure_eq_getD, getD_set!, if_neg (fun h => other h.1)]
    rfl

/-- A lift of a vertex reports a change exactly when its number moves. -/
theorem lift_changed (coherent : s.Coherent) (consistent : s.arena.Consistent) {v : Nat}
    (inside : v < s.size) : (s.lift v).1 = true ↔ s.arena.liftRank s.rank v ≠ s.rank v := by
  obtain ⟨stored, _, _, lifted⟩ := lift_cases coherent consistent v
  rw [lifted]
  split
  · rename_i same
    simp [same.1]
  · rename_i moved
    simp only [true_iff]
    exact fun same => moved ⟨same, inside⟩

/-- Storing a fitting measure at a vertex, with its number, keeps a state
coherent, whatever the counters become. -/
theorem Coherent.store (coherent : s.Coherent) {v : Nat} {m : Measure} (fits : m.Fits s.maximum)
    {r : Nat} (rank : s.scale.rank m = r) (stats : Stats) :
    { s with measures := s.measures.set! v m, ranks := s.ranks.set! v r, stats := stats }.Coherent := by
  refine ⟨coherent.maximum_eq, coherent.scale_eq, ?_, ?_, ?_, ?_⟩
  · change (s.measures.set! v m).size = s.size
    simpa using coherent.measures_size
  · change (s.ranks.set! v r).size = s.size
    simpa using coherent.ranks_size
  · intro u
    change ((s.measures.set! v m).getD u (zero s.maximum)).Fits s.maximum
    rw [getD_set!]
    split
    · exact fits
    · exact coherent.fits u
  · intro u
    change (s.ranks.set! v r).getD u 0 = s.scale.rank ((s.measures.set! v m).getD u _)
    rw [getD_set!, getD_set!, coherent.ranks_size, coherent.measures_size]
    split
    · exact rank.symm
    · exact coherent.rank_eq u

theorem Coherent.lift (coherent : s.Coherent) (consistent : s.arena.Consistent) (v : Nat) :
    (s.lift v).2.Coherent := by
  obtain ⟨stored, storedFits, storedRank, lifted⟩ := lift_cases coherent consistent v
  rw [lifted]
  split
  · exact { coherent with }
  · exact coherent.store storedFits storedRank _

/-- A lift given from outside is the lift of its vertex, or, for an id
outside the arena, counts itself and changes nothing else. -/
theorem liftChecked_fst (s : Solver) (v : Int) :
    (s.liftChecked v).1 = if 0 ≤ v ∧ v < s.size then (s.lift v.toNat).2
      else { s with stats := { s.stats with lifts := s.stats.lifts + 1 } } := by
  unfold liftChecked
  by_cases inside : 0 ≤ v ∧ v < s.size
  · have notOutside : ¬ (v < 0 || v ≥ s.size) = true := by simp; omega
    rw [if_neg notOutside, if_pos inside]
  · have outside : (v < 0 || v ≥ s.size) = true := by simp; omega
    rw [if_pos outside, if_neg inside]

end Lift

section Start

theorem reset_of_fits {M : Maximum} {m : Measure} (fits : m.Fits M) : m.reset = zero M := by
  have length := fits.length
  obtain ⟨boundEq, sizeEq, _⟩ := fits
  cases m
  simp_all [Measure.reset, zero]

theorem getD_replicate {α : Type} (n i : Nat) (x : α) : (Array.replicate n x).getD i x = x := by
  simp only [Array.getD_eq_getD_getElem?, Array.getElem?_replicate]
  split <;> rfl

/-- A fresh solver is coherent, with every measure zero. -/
theorem coherent_new (a : Arena) (g : Random.Generator) (policy : LockPolicy) :
    (new a g policy).Coherent := by
  have measureZero : ∀ v, (new a g policy).measure v = zero (maximumOf a) := fun v =>
    getD_replicate a.size v _
  refine ⟨rfl, rfl, by simp [new, size], by simp [new, size], ?_, ?_⟩
  · intro v
    rw [measureZero]
    exact fits_zero _
  · intro v
    rw [measureZero, rank_eq_getD]
    exact (getD_replicate a.size v 0).trans (rank_zero _).symm

theorem measure_reset {s : Solver} (coherent : s.Coherent) (v : Nat) :
    s.reset.measure v = zero s.maximum := by
  rw [measure_eq_getD]
  change (s.measures.map Measure.reset).getD v (zero s.maximum) = zero s.maximum
  simp only [Array.getD_eq_getD_getElem?, Array.getElem?_map]
  cases found : s.measures[v]? with
  | none => rfl
  | some m =>
    have atV : s.measure v = m := by
      rw [measure_eq_getD, Array.getD_eq_getD_getElem?, found]
      rfl
    exact reset_of_fits (atV ▸ coherent.fits v)

theorem rank_reset (s : Solver) (v : Nat) : s.reset.rank v = 0 := by
  rw [rank_eq_getD]
  change (s.ranks.map fun _ => 0).getD v 0 = 0
  simp only [Array.getD_eq_getD_getElem?, Array.getElem?_map]
  cases s.ranks[v]? <;> rfl

/-- Resetting keeps a state coherent, with every measure zero. -/
theorem Coherent.reset {s : Solver} (coherent : s.Coherent) : s.reset.Coherent := by
  refine ⟨coherent.maximum_eq, coherent.scale_eq, ?_, ?_, ?_, ?_⟩
  · change (s.measures.map Measure.reset).size = s.size
    simpa using coherent.measures_size
  · change (s.ranks.map fun _ => 0).size = s.size
    simpa using coherent.ranks_size
  · intro v
    rw [measure_reset coherent]
    exact fits_zero _
  · intro v
    rw [measure_reset coherent, rank_reset]
    change 0 = s.scale.rank (zero s.maximum)
    rw [coherent.scale_eq_ofMaximum, rank_zero]

end Start

end Solver

end ParityGames
