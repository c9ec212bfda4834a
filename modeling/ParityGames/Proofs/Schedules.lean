import ParityGames.Proofs.Fixpoint
import ParityGames.Solver.Run

/-!
# Lifting schedules

A schedule of lifts reaches the least fixpoint once every vertex is settled,
that is once lifting no longer moves its number (`Sound.equal_leastFixpoint`).
The strategies stop exactly when a pass, or a run of draws, has lifted every
vertex without a change, so what remains is to see that their fuel never runs
out first.  Every lift that changes something raises the sum of the numbers,
the `potential`, which is bounded; the `room` left below the bound counts the
changes still possible, and each loop carries "room, scaled by its pass, is
below the fuel".

`Pass` records what a pass over a list of vertices does; a single lift is a
pass over one vertex, and passes compose.
-/

namespace ParityGames

open ParityGames.Measure

namespace Random.Generator

theorem below_lt (g : Generator) {n : Nat} (positive : 0 < n) : (g.below n).1 < n := by
  unfold below
  split
  · rename_i empty
    simp at empty
    omega
  · split
    · exact Nat.lt_of_le_of_lt Nat.and_le_right (by omega)
    · exact Nat.mod_lt _ positive

/-- A shuffle of `0 … n-1` after its first `k` places: those hold exactly the
ids below `k`, and the places after them still hold zero. -/
structure Shuffled (n k : Nat) (m : Array Nat) : Prop where
  size_eq : m.size = n
  below : ∀ p < k, ∀ x, m[p]? = some x → x < k
  zero : ∀ p, k ≤ p → p < n → m[p]? = some 0
  covers : ∀ v < k, ∃ p < k, m[p]? = some v

theorem shuffled_zero (n : Nat) : Shuffled n 0 (Array.replicate n 0) :=
  ⟨by simp, fun p below => absurd below (Nat.not_lt_zero p), fun p _ inside => by simp [inside],
    fun v below => absurd below (Nat.not_lt_zero v)⟩

/-- Placing `k`: the entry at a drawn place `j ≤ k` moves to `k`, and `k` takes
its place. -/
theorem Shuffled.step {n k : Nat} {m : Array Nat} (shuffled : Shuffled n k m) (within : k < n)
    {j : Nat} (le : j ≤ k) : Shuffled n (k + 1) ((m.set! k m[j]!).set! j k) := by
  have size := shuffled.size_eq
  obtain ⟨x, atJ⟩ : ∃ x, m[j]? = some x := Option.isSome_iff_exists.1 (by simp; omega)
  have moved : m[j]! = x := by
    rw [getElem!_def, atJ]
  have entry : ∀ p, ((m.set! k m[j]!).set! j k)[p]? =
      if p = j then some k else if p = k then some x else m[p]? := by
    intro p
    simp only [Array.set!_eq_setIfInBounds, Array.getElem?_setIfInBounds, Array.size_setIfInBounds,
      moved]
    grind
  refine ⟨by simp [size], fun p below y atP => ?_, fun p above inside => ?_, fun v below => ?_⟩
  · rw [entry] at atP
    split at atP
    · cases atP
      omega
    · split at atP
      · cases atP
        exact Nat.lt_succ_of_lt (shuffled.below j (by omega) x atJ)
      · exact Nat.lt_succ_of_lt (shuffled.below p (by omega) y atP)
  · rw [entry, if_neg (by omega), if_neg (by omega)]
    exact shuffled.zero p (by omega) inside
  · rcases Nat.lt_succ_iff_lt_or_eq.1 below with earlier | last
    · obtain ⟨p, before, atP⟩ := shuffled.covers v earlier
      by_cases atPlace : p = j
      · subst atPlace
        refine ⟨k, Nat.lt_succ_self k, ?_⟩
        rw [entry, if_neg (by omega), if_pos rfl]
        rw [atJ] at atP
        exact atP
      · exact ⟨p, by omega, by rw [entry, if_neg atPlace, if_neg (by omega)]; exact atP⟩
    · exact ⟨j, by omega, by rw [entry, if_pos rfl, last]⟩

theorem shuffled_foldl (n : Nat) (g : Generator) : ∀ k ≤ n, Shuffled n k
    ((List.range k).foldl (fun (m, g) i =>
      let (j, g) := g.below (i + 1)
      let m := m.set! i (m[j]!)
      (m.set! j i, g)) (Array.replicate n 0, g)).1 := by
  intro k
  induction k with
  | zero => intro _; exact shuffled_zero n
  | succ k ih =>
    intro within
    rw [List.range_succ, List.foldl_append, List.foldl_cons, List.foldl_nil]
    generalize List.foldl _ (Array.replicate n 0, g) (List.range k) = acc at ih ⊢
    obtain ⟨m, g'⟩ := acc
    exact (ih (by omega)).step within (Nat.le_of_lt_succ (g'.below_lt (Nat.succ_pos k)))

/-- A drawn permutation holds exactly the ids below `n`. -/
theorem mem_permutation (g : Generator) (n v : Nat) : v ∈ (g.permutation n).1 ↔ v < n := by
  have shuffled := shuffled_foldl n g n le_rfl
  rw [← permutation] at shuffled
  rw [Array.mem_iff_getElem?]
  constructor
  · rintro ⟨p, atP⟩
    have inside : p < n := by
      rw [← shuffled.size_eq]
      exact (Array.getElem?_eq_some_iff.1 atP).1
    exact shuffled.below p inside v atP
  · intro below
    obtain ⟨p, _, atP⟩ := shuffled.covers v below
    exact ⟨p, atP⟩

end Random.Generator

namespace Solver

variable {s t u : Solver}

/-- Lifting no longer moves the number of `v`. -/
def Settled (s : Solver) (v : Nat) : Prop := s.arena.liftRank s.rank v = s.rank v

/-- The sum of the numbers of the vertices. -/
def potential (s : Solver) : Nat := s.arena.potential s.rank

/-- How far the potential can still grow. -/
def room (s : Solver) : Nat := s.size * s.arena.scale.count - s.potential

/-- Two states that differ at most in their counters and their generator. -/
def Agrees (s t : Solver) : Prop := ∃ stats rng, t = { s with stats, rng }

/-- What every schedule keeps of a state: the arena, the locks and the
policy, with no number lower. -/
structure Keeps (s t : Solver) : Prop where
  arena_eq : t.arena = s.arena
  locked_eq : t.locked = s.locked
  policy_eq : t.policy = s.policy
  rank_le : ∀ v < s.size, s.rank v ≤ t.rank v

section Agrees

theorem Agrees.refl (s : Solver) : Agrees s s := ⟨s.stats, s.rng, rfl⟩

theorem Agrees.trans (first : Agrees s t) (second : Agrees t u) : Agrees s u := by
  obtain ⟨_, _, rfl⟩ := first
  obtain ⟨stats, rng, rfl⟩ := second
  exact ⟨stats, rng, rfl⟩

theorem Agrees.rank (agrees : Agrees s t) : t.rank = s.rank := by
  obtain ⟨_, _, rfl⟩ := agrees
  rfl

theorem Agrees.arena (agrees : Agrees s t) : t.arena = s.arena := by
  obtain ⟨_, _, rfl⟩ := agrees
  rfl

theorem Agrees.measure (agrees : Agrees s t) : t.measure = s.measure := by
  obtain ⟨_, _, rfl⟩ := agrees
  rfl

theorem Agrees.locked (agrees : Agrees s t) : t.locked = s.locked := by
  obtain ⟨_, _, rfl⟩ := agrees
  rfl

theorem Agrees.policy (agrees : Agrees s t) : t.policy = s.policy := by
  obtain ⟨_, _, rfl⟩ := agrees
  rfl

theorem Agrees.potential (agrees : Agrees s t) : t.potential = s.potential := by
  rw [Solver.potential, agrees.rank, agrees.arena]
  rfl

theorem Agrees.settled (agrees : Agrees s t) {v : Nat} : t.Settled v ↔ s.Settled v := by
  rw [Settled, Settled, agrees.rank, agrees.arena]

theorem Agrees.room (agrees : Agrees s t) : t.room = s.room := by
  rw [Solver.room, Solver.room, size, size, agrees.potential, agrees.arena]

theorem Agrees.keeps (agrees : Agrees s t) : Keeps s t :=
  ⟨agrees.arena, agrees.locked, agrees.policy, fun _ _ => by rw [agrees.rank]⟩

theorem Sound.agrees (sound : s.Sound) (agrees : Agrees s t) : t.Sound := by
  obtain ⟨_, _, rfl⟩ := agrees
  exact ⟨⟨sound.coherent.maximum_eq, sound.coherent.scale_eq, sound.coherent.measures_size,
    sound.coherent.ranks_size, sound.coherent.fits, sound.coherent.rank_eq⟩, sound.consistent,
    sound.below⟩

end Agrees

section Potential

theorem Sound.potential_le (sound : s.Sound) : s.potential ≤ s.size * s.arena.scale.count :=
  Arena.potential_le s.rank fun _ inside => sound.below.le_count inside

/-- Numbers that rise nowhere give a potential that does not drop. -/
theorem potential_mono (sameArena : t.arena = s.arena)
    (rises : ∀ v < s.size, s.rank v ≤ t.rank v) : s.potential ≤ t.potential := by
  rw [Solver.potential, Solver.potential, Arena.potential, Arena.potential, sameArena]
  exact Finset.sum_le_sum fun v mem => rises v (Finset.mem_range.1 mem)

theorem room_lt (sound : t.Sound) (sameArena : t.arena = s.arena)
    (rises : s.potential < t.potential) : t.room < s.room := by
  have bounded := sound.potential_le
  simp only [room, size, sameArena] at bounded ⊢
  omega

/-- A measure at `⊤` belongs to a vertex of the arena. -/
theorem Coherent.lt_size_of_top (coherent : s.Coherent) {v : Nat}
    (top : (s.measure v).top = true) : v < s.size := by
  by_contra outside
  have zeroAt : s.measure v = zero s.maximum := by
    rw [measure_eq_getD, Array.getD_eq_getD_getElem?,
      Array.getElem?_eq_none (by rw [coherent.measures_size]; exact Nat.le_of_not_lt outside)]
    rfl
  rw [zeroAt] at top
  exact Bool.false_ne_true top

theorem Coherent.rank_of_top (coherent : s.Coherent) {v : Nat} (top : (s.measure v).top = true) :
    s.rank v = s.arena.scale.count := by
  rw [coherent.rank_eq, rank_top _ _ top, coherent.scale_eq]

/-- A vertex at `⊤` is settled: lifting can give it nothing more. -/
theorem Sound.settled_of_top (sound : s.Sound) {v : Nat} (top : (s.measure v).top = true) :
    s.Settled v := by
  have atCount := sound.coherent.rank_of_top top
  have bounded := s.arena.liftRank_le_count s.rank v
  have below := sound.below.le_liftRank v (sound.coherent.lt_size_of_top top)
  unfold Settled
  omega

/-- A lift raises no number: the lifted one rises to what lifting gives it. -/
theorem Sound.rank_le_lift_rank (sound : s.Sound) (v : Nat) :
    ∀ u < s.size, s.rank u ≤ (s.lift v).2.rank u := by
  intro u _
  rw [lift_rank sound.coherent sound.consistent]
  split
  · rename_i atV
    rw [atV.1]
    exact sound.below.le_liftRank v atV.2
  · exact le_rfl

end Potential

section Keeps

theorem Keeps.refl (s : Solver) : Keeps s s := ⟨rfl, rfl, rfl, fun _ _ => le_rfl⟩

theorem Keeps.size_eq (keeps : Keeps s t) : t.size = s.size := by
  rw [size, keeps.arena_eq]
  rfl

theorem Keeps.trans (first : Keeps s t) (second : Keeps t u) : Keeps s u :=
  ⟨second.arena_eq.trans first.arena_eq, second.locked_eq.trans first.locked_eq,
    second.policy_eq.trans first.policy_eq,
    fun v inside => le_trans (first.rank_le v inside) (second.rank_le v (first.size_eq ▸ inside))⟩

theorem Keeps.potential_le (keeps : Keeps s t) : s.potential ≤ t.potential :=
  potential_mono keeps.arena_eq keeps.rank_le

theorem lift_keeps (sound : s.Sound) (v : Nat) : Keeps s (s.lift v).2 :=
  ⟨arena_lift s v, locked_lift s v, policy_lift s v, sound.rank_le_lift_rank v⟩

end Keeps

section Pass

/-- What a pass over `order` does to a sound state `s`, given whether a change
was seen `before` it and reporting whether one was seen by its end: the result
`t` keeps what `s` has and is sound; a reported change was seen before or
raised the potential; no reported change means none before, numbers as they
were, and every vertex of the pass settled. -/
structure Pass (s : Solver) (order : List Nat) (before changed : Bool) (t : Solver) : Prop
    extends Keeps s t where
  sound : t.Sound
  rises : changed = true → before = true ∨ s.potential < t.potential
  stays : changed = false → before = false ∧ Agrees s t ∧ ∀ v ∈ order, s.Settled v

/-- A pass over nothing changes nothing. -/
theorem Pass.nil (sound : s.Sound) (before : Bool) : Pass s [] before before s :=
  ⟨Keeps.refl s, sound, fun changed => Or.inl changed,
    fun unchanged => ⟨unchanged, Agrees.refl s, fun _ mem => absurd mem List.not_mem_nil⟩⟩

/-- Passes compose: a pass over `first`, then one over `second` from what the
first reported. -/
theorem Pass.append {first second : List Nat} {before middle changed : Bool}
    (one : Pass s first before middle t) (two : Pass t second middle changed u) :
    Pass s (first ++ second) before changed u := by
  refine ⟨one.toKeeps.trans two.toKeeps, two.sound, fun reported => ?_, fun quiet => ?_⟩
  · rcases two.rises reported with seen | rose
    · rcases one.rises seen with earlier | rose
      · exact Or.inl earlier
      · exact Or.inr (Nat.lt_of_lt_of_le rose two.potential_le)
    · exact Or.inr (Nat.lt_of_le_of_lt one.potential_le rose)
  · obtain ⟨quietMiddle, agreesTwo, settledTwo⟩ := two.stays quiet
    obtain ⟨quietBefore, agreesOne, settledOne⟩ := one.stays quietMiddle
    refine ⟨quietBefore, agreesOne.trans agreesTwo, fun v mem => ?_⟩
    rcases List.mem_append.1 mem with inFirst | inSecond
    · exact settledOne v inFirst
    · exact agreesOne.settled.1 (settledTwo v inSecond)

/-- A quiet step that keeps the numbers and settles `v` is a pass over `v`. -/
theorem Pass.of_agrees (sound : s.Sound) (agrees : Agrees s t) {v : Nat} (settled : s.Settled v) :
    Pass s [v] false false t :=
  ⟨agrees.keeps, sound.agrees agrees, (fun reported => nomatch reported),
    fun _ => ⟨rfl, agrees, fun w mem => by rw [List.mem_singleton.1 mem]; exact settled⟩⟩

/-- One lift of a vertex of the arena is a pass over it. -/
theorem Sound.lift_pass (sound : s.Sound) {v : Nat} (inside : v < s.size) :
    Pass s [v] false (s.lift v).1 (s.lift v).2 := by
  have keeps := lift_keeps sound v
  obtain ⟨stored, _, _, lifted⟩ := lift_cases sound.coherent sound.consistent v
  split at lifted
  · rename_i same
    rw [lifted]
    exact Pass.of_agrees sound ⟨_, s.rng, rfl⟩ same.1
  · rename_i moved
    refine ⟨keeps, sound.lift v, fun _ => Or.inr ?_,
      fun quiet => by rw [lifted] at quiet; exact nomatch quiet⟩
    apply Nat.lt_of_le_of_ne keeps.potential_le
    intro same
    -- the lift changed the number of `v`, so the sums cannot be equal
    have higher : s.rank v < (s.lift v).2.rank v := by
      rw [lift_rank sound.coherent sound.consistent, if_pos ⟨rfl, inside⟩]
      exact Nat.lt_of_le_of_ne (sound.below.le_liftRank v inside)
        (fun h => moved ⟨h.symm, inside⟩)
    apply absurd same
    rw [Solver.potential, Solver.potential, arena_lift]
    exact Nat.ne_of_lt (Arena.potential_lt keeps.rank_le ⟨v, inside, Nat.ne_of_lt higher⟩)

/-- Lifting a live vertex, one that is not `⊤`, is a pass over it. -/
theorem Sound.liftLive_pass (sound : s.Sound) {v : Nat} (inside : v < s.size) :
    Pass s [v] false (s.liftLive v).1 (s.liftLive v).2 := by
  unfold liftLive
  split
  · rename_i top
    exact Pass.of_agrees sound (Agrees.refl s) (sound.settled_of_top top)
  · exact sound.lift_pass inside

/-- A pass that starts from a reported change carries it. -/
theorem Pass.from {order : List Nat} {changed : Bool} (pass : Pass s order false changed t)
    (before : Bool) : Pass s order before (before || changed) t := by
  refine ⟨pass.toKeeps, pass.sound, fun reported => ?_, fun quiet => ?_⟩
  · cases before
    · rcases pass.rises (by simpa using reported) with impossible | rose
      · exact nomatch impossible
      · exact Or.inr rose
    · exact Or.inl rfl
  · obtain ⟨quietBefore, quietPass⟩ := Bool.or_eq_false_iff.1 quiet
    obtain ⟨_, agrees, settled⟩ := pass.stays quietPass
    exact ⟨quietBefore, agrees, settled⟩

/-- A pass that saw no change before it and reports one raised the potential. -/
theorem Pass.rose {order : List Nat} (pass : Pass s order false true t) : s.potential < t.potential := by
  rcases pass.rises rfl with impossible | rose
  · exact nomatch impossible
  · exact rose

/-- `sweepFrom` is a pass over its list. -/
theorem Sound.sweepFrom_pass (sound : s.Sound) (order : List Nat) (inside : ∀ v ∈ order, v < s.size)
    (before : Bool) : Pass s order before (sweepFrom order before s).1 (sweepFrom order before s).2 := by
  induction order generalizing before s with
  | nil => exact Pass.nil sound before
  | cons v vs ih =>
    have first := (sound.liftLive_pass (inside v List.mem_cons_self)).from before
    have rest := ih first.sound (fun w mem => first.size_eq ▸ inside w (List.mem_cons_of_mem v mem))
      (before || (s.liftLive v).1)
    exact first.append rest

end Pass

section Orders

theorem mem_inputOrder {v : Nat} : v ∈ s.inputOrder ↔ v < s.size := List.mem_range

theorem mem_priorityOrder {v : Nat} : v ∈ s.priorityOrder ↔ v < s.size :=
  (List.mergeSort_perm _ _).mem_iff.trans mem_inputOrder

theorem mem_incomingOrder {v : Nat} : v ∈ s.incomingOrder ↔ v < s.size :=
  (List.mergeSort_perm _ _).mem_iff.trans mem_inputOrder

theorem length_inputOrder : s.inputOrder.length = s.size := List.length_range

theorem length_priorityOrder : s.priorityOrder.length = s.size :=
  (List.length_mergeSort _).trans length_inputOrder

theorem length_incomingOrder : s.incomingOrder.length = s.size :=
  (List.length_mergeSort _).trans length_inputOrder

end Orders

section Budget

/-- The fuel the strategies are given exceeds the room of any sound state. -/
theorem Sound.room_lt_budget (sound : s.Sound) : s.room < s.budget := by
  have spread : s.size * s.arena.scale.count ≤ (s.size + 1) * (s.size + 1) * (s.arena.scale.count + 2) :=
    calc s.size * s.arena.scale.count
        ≤ (s.size + 1) * (s.arena.scale.count + 2) := Nat.mul_le_mul (by omega) (by omega)
      _ ≤ (s.size + 1) * (s.size + 1) * (s.arena.scale.count + 2) := by
        rw [Nat.mul_assoc]
        exact Nat.le_mul_of_pos_left _ (Nat.succ_pos _)
  rw [room, budget, sound.coherent.measureCount_eq]
  omega

/-- The fuel of a returning sweep, the budget once per place of the pass,
exceeds its room scaled by the pass. -/
theorem Sound.sweep_fuel (sound : s.Sound) (n : Nat) :
    s.room * (n + 1) + (n - 0) < s.budget * (n + 1) := by
  have scaled : (s.room + 1) * (n + 1) ≤ s.budget * (n + 1) :=
    Nat.mul_le_mul_right _ sound.room_lt_budget
  rw [Nat.add_mul, Nat.one_mul] at scaled
  omega

end Budget

section Sweeps

/-- A run from `s` that ends in `t`, keeping what `s` has and sound, with
every vertex of `order` settled. -/
structure Settles (s : Solver) (order : List Nat) (t : Solver) : Prop extends Keeps s t where
  sound : t.Sound
  settled : ∀ v ∈ order, t.Settled v

/-- A run whose last pass was quiet settles that pass's vertices. -/
theorem Pass.settles {order : List Nat} (pass : Pass s order false false t) : Settles s order t := by
  obtain ⟨_, agrees, settled⟩ := pass.stays rfl
  exact ⟨pass.toKeeps, pass.sound, fun v mem => agrees.settled.2 (settled v mem)⟩

theorem Settles.after {order : List Nat} (keeps : Keeps s t) (rest : Settles t order u) :
    Settles s order u :=
  ⟨keeps.trans rest.toKeeps, rest.sound, rest.settled⟩

theorem Settles.mono {order smaller : List Nat} (settles : Settles s order t)
    (sub : ∀ v ∈ smaller, v ∈ order) : Settles s smaller t :=
  ⟨settles.toKeeps, settles.sound, fun v mem => settles.settled v (sub v mem)⟩

/-- Passes over `order` repeated until one is quiet settle `order`, as long as
the fuel exceeds the room. -/
theorem Sound.sweepNonReturning_settles (order : List Nat) :
    ∀ (fuel : Nat) (s : Solver), s.Sound → (∀ v ∈ order, v < s.size) → s.room < fuel →
      Settles s order (sweepNonReturning order fuel s) := by
  intro fuel
  induction fuel with
  | zero => intro s _ _ roomy; omega
  | succ fuel ih =>
    intro s sound inside roomy
    have pass := sound.sweepFrom_pass order inside false
    rw [sweepNonReturning, sweepOnce]
    generalize sweepFrom order false s = result at pass
    obtain ⟨changed, t⟩ := result
    cases changed
    · exact pass.settles
    · exact Settles.after pass.toKeeps (ih t pass.sound
        (fun v mem => pass.size_eq ▸ inside v mem)
        (Nat.lt_of_lt_of_le (room_lt pass.sound pass.arena_eq pass.rose) (Nat.le_of_lt_succ roomy)))

/-- The returning sweep over `order`, at position `i` with every earlier
vertex settled, settles `order`, as long as the fuel exceeds the room scaled
by the length of a pass, plus what is left of the current pass. -/
theorem Sound.sweepReturning_settles (order : Array Nat) :
    ∀ (fuel i : Nat) (s : Solver), s.Sound → (∀ v ∈ order, v < s.size) →
      (∀ j v, j < i → order[j]? = some v → s.Settled v) →
      s.room * (order.size + 1) + (order.size - i) < fuel →
      Settles s order.toList (sweepReturning order fuel i s) := by
  intro fuel
  induction fuel with
  | zero => intro i s _ _ _ roomy; omega
  | succ fuel ih =>
    intro i s sound inside earlier roomy
    rw [sweepReturning]
    cases found : order[i]? with
    | none =>
      -- the pass is complete: every vertex of `order` was settled on the way
      have past : order.size ≤ i := Array.getElem?_eq_none_iff.1 found
      refine ⟨Keeps.refl s, sound, fun v mem => ?_⟩
      obtain ⟨j, atJ⟩ := List.mem_iff_getElem?.1 mem
      rw [Array.getElem?_toList] at atJ
      have before : j < order.size := (Array.getElem?_eq_some_iff.1 atJ).1
      exact earlier j v (by omega) atJ
    | some v =>
      dsimp only
      have atI : i < order.size := (Array.getElem?_eq_some_iff.1 found).1
      have pass := sound.liftLive_pass (inside v (Array.mem_of_getElem? found))
      generalize s.liftLive v = result at pass
      obtain ⟨changed, t⟩ := result
      have insideT : ∀ w ∈ order, w < t.size := fun w mem => pass.size_eq ▸ inside w mem
      cases changed
      · -- a quiet lift: one more settled vertex, the same room
        obtain ⟨_, agrees, settledV⟩ := pass.stays rfl
        show Settles s order.toList (sweepReturning order fuel (i + 1) t)
        refine Settles.after pass.toKeeps
          (ih (i + 1) t pass.sound insideT (fun j w below atJ => ?_) ?_)
        · rw [agrees.settled]
          by_cases last : j = i
          · subst last
            rw [found] at atJ
            cases atJ
            exact settledV _ (List.mem_singleton_self _)
          · exact earlier j w (by omega) atJ
        · rw [agrees.room]
          omega
      · -- a change: the room drops, and the pass starts over
        have smaller := room_lt pass.sound pass.arena_eq pass.rose
        have scaled : (t.room + 1) * (order.size + 1) ≤ s.room * (order.size + 1) :=
          Nat.mul_le_mul_right _ smaller
        rw [Nat.add_mul, Nat.one_mul] at scaled
        show Settles s order.toList (sweepReturning order fuel 0 t)
        exact Settles.after pass.toKeeps (ih 0 t pass.sound insideT
          (fun j _ below _ => absurd below (Nat.not_lt_zero j)) (by omega))

end Sweeps

section Random

theorem draw_agrees {α : Type} (s : Solver) (f : Random.Generator → α × Random.Generator) :
    Agrees s (s.draw f).2 :=
  ⟨s.stats, (f s.rng).2, rfl⟩

/-- Passes over fresh permutations settle every vertex, as long as the fuel
exceeds the room. -/
theorem Sound.liftRandomNonReturning_settles :
    ∀ (fuel : Nat) (s : Solver), s.Sound → s.room < fuel →
      Settles s (List.range s.size) (liftRandomNonReturning fuel s) := by
  intro fuel
  induction fuel with
  | zero => intro s _ roomy; omega
  | succ fuel ih =>
    intro s sound roomy
    rw [liftRandomNonReturning]
    split
    · rename_i empty
      refine ⟨Keeps.refl s, sound, fun v mem => ?_⟩
      rw [Nat.beq_eq_true_eq, List.mem_range] at *
      omega
    · dsimp only
      have drawn := draw_agrees s (·.permutation s.size)
      have covers : ∀ v, v ∈ (s.draw (·.permutation s.size)).1 ↔ v < s.size :=
        fun v => s.rng.mem_permutation s.size v
      generalize s.draw (·.permutation s.size) = result at drawn covers ⊢
      obtain ⟨order, drawnState⟩ := result
      dsimp only at drawn covers ⊢
      have pass := (sound.agrees drawn).sweepFrom_pass order.toList
        (fun v mem => by rw [size, drawn.arena]; exact (covers v).1 (Array.mem_toList_iff.1 mem))
        false
      rw [sweepOnce]
      generalize sweepFrom order.toList false drawnState = swept at pass ⊢
      obtain ⟨changed, t⟩ := swept
      dsimp only at pass
      cases changed
      · refine Settles.after drawn.keeps (pass.settles.mono fun v mem => ?_)
        exact Array.mem_toList_iff.2 ((covers v).2 (List.mem_range.1 mem))
      · have sameSize : t.size = s.size := by rw [pass.size_eq, size, drawn.arena]; rfl
        have sameRoom := drawn.room
        have smaller := room_lt pass.sound pass.arena_eq pass.rose
        have rest := ih t pass.sound (by omega)
        rw [sameSize] at rest
        exact Settles.after (drawn.keeps.trans pass.toKeeps) rest

/-- Whether the random loop stops by its own test, every vertex finished,
before its fuel runs out. -/
def randomLoopStops (n : Nat) : Nat → Array Bool → Nat → Solver → Bool
  | 0, _, _, _ => false
  | fuel + 1, finished, remaining, s =>
    remaining == 0 ||
      let (v, s) := s.draw (·.below n)
      let (changed, s) := s.liftLive v
      if changed then randomLoopStops n fuel (Array.replicate n false) n s
      else if finished[v]?.getD true then randomLoopStops n fuel finished remaining s
      else randomLoopStops n fuel (finished.set! v true) (remaining - 1) s

/-- Whether the random strategy stops by its own test before its fuel runs out. -/
def randomStops (fuel : Nat) (s : Solver) : Bool :=
  s.size == 0 || randomLoopStops s.size fuel (Array.replicate s.size false) s.size s

theorem count_set_false {finished : Array Bool} {v : Nat} (unfinished : finished[v]? = some false) :
    (finished.set! v true).count false = finished.count false - 1 := by
  obtain ⟨inside, atV⟩ := Array.getElem?_eq_some_iff.1 unfinished
  rw [Array.set!_eq_setIfInBounds, Array.setIfInBounds, dif_pos inside, Array.count_set, atV]
  rfl

/-- The random loop keeps every finished vertex settled and counts the
unfinished ones in `remaining`; when it stops by its own test, every vertex
is settled. -/
theorem Sound.liftRandomLoop_settles (n : Nat) :
    ∀ (fuel : Nat) (finished : Array Bool) (remaining : Nat) (s : Solver), s.Sound → s.size = n →
      finished.size = n → finished.count false = remaining →
      (∀ v, finished[v]? = some true → s.Settled v) →
      randomLoopStops n fuel finished remaining s = true →
      Settles s (List.range n) (liftRandomLoop n fuel finished remaining s) := by
  intro fuel
  induction fuel with
  | zero => intro finished remaining s _ _ _ _ _ stops; exact nomatch stops
  | succ fuel ih =>
    intro finished remaining s sound sized finishedSize counted settled stops
    rw [liftRandomLoop]
    rw [randomLoopStops] at stops
    by_cases done : remaining = 0
    · -- nothing is unfinished, so every vertex is settled
      rw [if_pos (by rw [done]; rfl)]
      refine ⟨Keeps.refl s, sound, fun v mem => settled v ?_⟩
      have inside : v < finished.size := finishedSize ▸ List.mem_range.1 mem
      have noFalse : false ∉ finished := Array.count_eq_zero.1 (counted.trans done)
      cases atV : finished[v] with
      | true => rw [Array.getElem?_eq_getElem inside, atV]
      | false => exact absurd (atV ▸ Array.getElem_mem inside) noFalse
    · rw [if_neg (by simpa using done)]
      rw [show (remaining == 0) = false by simpa using done, Bool.false_or] at stops
      have positive : 0 < n := by
        have : finished.count false ≤ finished.size := Array.count_le_size
        omega
      have drawn := draw_agrees s (·.below n)
      have below : (s.draw (·.below n)).1 < n := s.rng.below_lt positive
      generalize s.draw (·.below n) = result at drawn below stops
      obtain ⟨v, drawnState⟩ := result
      have drawnSound := sound.agrees drawn
      dsimp only at drawn below drawnSound stops ⊢
      have insideV : v < drawnState.size := by
        rw [size, drawn.arena]
        rw [← sized] at below
        exact below
      have pass := drawnSound.liftLive_pass insideV
      generalize drawnState.liftLive v = lifted at pass stops ⊢
      obtain ⟨changed, t⟩ := lifted
      dsimp only at pass stops ⊢
      have sameSize : t.size = n := by rw [pass.size_eq, size, drawn.arena]; exact sized
      cases changed
      · -- a quiet lift: `v` is settled, the numbers are as they were
        obtain ⟨_, agrees, settledV⟩ := pass.stays rfl
        have keep : ∀ u, s.Settled u → t.Settled u :=
          fun u settledU => agrees.settled.2 (drawn.settled.2 settledU)
        have vSettled : t.Settled v := agrees.settled.2 (settledV v (List.mem_singleton_self v))
        rw [if_neg Bool.false_ne_true] at stops ⊢
        refine Settles.after (drawn.keeps.trans pass.toKeeps) ?_
        split
        · rw [if_pos (by assumption)] at stops
          exact ih finished remaining t pass.sound sameSize finishedSize counted
            (fun u atU => keep u (settled u atU)) stops
        · rename_i unfinishedV
          rw [if_neg unfinishedV] at stops
          have atV : finished[v]? = some false := by
            rw [Array.getElem?_eq_getElem (finishedSize ▸ below)] at unfinishedV ⊢
            simpa using unfinishedV
          refine ih (finished.set! v true) (remaining - 1) t pass.sound sameSize
            (by simp [finishedSize]) (by rw [count_set_false atV, counted]) (fun u atU => ?_) stops
          by_cases same : u = v
          · rw [same]
            exact vSettled
          · rw [Array.set!_eq_setIfInBounds, Array.getElem?_setIfInBounds, if_neg (Ne.symm same)] at atU
            exact keep u (settled u atU)
      · -- a change: every mark is cleared
        rw [if_pos rfl] at stops ⊢
        exact Settles.after (drawn.keeps.trans pass.toKeeps)
          (ih (Array.replicate n false) n t pass.sound sameSize (by simp)
            (by rw [Array.count_replicate]; rfl) (fun u atU => by rw [Array.getElem?_replicate] at atU; split at atU <;> cases atU) stops)

/-- The random strategy, when it stops by its own test, settles every vertex. -/
theorem Sound.liftRandom_settles (sound : s.Sound) {fuel : Nat} (stops : randomStops fuel s = true) :
    Settles s (List.range s.size) (liftRandom fuel s) := by
  unfold liftRandom
  dsimp only
  split
  · rename_i empty
    refine ⟨Keeps.refl s, sound, fun v mem => ?_⟩
    rw [Nat.beq_eq_true_eq, List.mem_range] at *
    omega
  · rename_i nonempty
    rw [randomStops, Bool.or_eq_true] at stops
    exact sound.liftRandomLoop_settles s.size fuel _ _ s rfl (by simp)
      (by rw [Array.count_replicate]; rfl) (fun u atU => by rw [Array.getElem?_replicate] at atU; split at atU <;> cases atU) (stops.resolve_left nonempty)

end Random

end Solver

end ParityGames
