import ParityGames.Proofs.Schedules

/-!
# Exact locks

The propagation strategies lock vertices and never lift them again, so a lock
is only sound when the locked number is already that of the least fixpoint.
`LockExact` says so of every locked vertex; it survives every lift, since a
number only rises and never passes the least fixpoint, and each of the lock
rules keeps it:

* a self-loop decides a vertex alone when it is its only edge, or when its
  owner may stay on a priority of its own parity: an even priority then pins
  the least fixpoint to zero, an odd one drives it to `⊤`;
* under the safe policy a settled predecessor of an exact vertex is exact when
  that vertex is its only successor, when every successor is locked, or when
  Odd owns it and the vertex is at `⊤`.
-/

namespace ParityGames


namespace Scale

theorem progRank_count (c : Scale) (size p : Nat) : c.progRank size p c.count = c.count := by
  rw [progRank, if_pos (Nat.le_refl _)]

/-- An even priority keeps the zero number at zero. -/
theorem progRank_zero_of_even (c : Scale) (size : Nat) {p : Nat} (even : p % 2 = 0) :
    c.progRank size p 0 = 0 := by
  unfold progRank
  split
  · omega
  · simp [even]

/-- An odd priority raises every number below the count, given a positive
weight for the last digit it keeps. -/
theorem lt_progRank_of_odd (c : Scale) {size p x : Nat} (odd : p % 2 = 1) (inside : p < size)
    (keeps : 0 < Measure.prefixLength p)
    (positive : 0 < c.weights.getD (Measure.prefixLength p - 1) 1) (below : x < c.count) :
    x < c.progRank size p x := by
  have remainder := Nat.mod_lt x positive
  have split := Nat.mod_add_div x (c.weights.getD (Measure.prefixLength p - 1) 1)
  unfold progRank
  rw [if_neg (Nat.not_le_of_lt below), if_neg (Nat.not_le_of_lt inside),
    if_neg (by simpa using Nat.pos_iff_ne_zero.1 keeps)]
  simp only [odd, Nat.one_ne_zero, beq_iff_eq, if_false]
  omega

end Scale

namespace Arena

variable {a : Arena}

theorem foldl_prefer_even (l : List Nat) (x : Nat) :
    l.foldl (prefer true) x ≤ x ∧ ∀ y ∈ l, l.foldl (prefer true) x ≤ y := by
  induction l generalizing x with
  | nil => exact ⟨Nat.le_refl x, fun y mem => absurd mem List.not_mem_nil⟩
  | cons y ys ih =>
    obtain ⟨first, rest⟩ := ih (prefer true x y)
    have picked : prefer true x y = min x y := rfl
    rw [List.foldl_cons]
    refine ⟨le_trans first (by rw [picked]; exact min_le_left x y), fun z mem => ?_⟩
    rcases List.mem_cons.1 mem with rfl | later
    · exact le_trans first (by rw [picked]; exact min_le_right x z)
    · exact rest z later

theorem foldl_prefer_odd (l : List Nat) (x : Nat) :
    x ≤ l.foldl (prefer false) x ∧ ∀ y ∈ l, y ≤ l.foldl (prefer false) x := by
  induction l generalizing x with
  | nil => exact ⟨Nat.le_refl x, fun y mem => absurd mem List.not_mem_nil⟩
  | cons y ys ih =>
    obtain ⟨first, rest⟩ := ih (prefer false x y)
    have picked : prefer false x y = max x y := rfl
    rw [List.foldl_cons]
    refine ⟨le_trans (by rw [picked]; exact le_max_left x y) first, fun z mem => ?_⟩
    rcases List.mem_cons.1 mem with rfl | later
    · exact le_trans (by rw [picked]; exact le_max_right x z) first
    · exact rest z later

/-- The offer of the edge from `v` to `w` on numbers. -/
abbrev offer (a : Arena) (r : Nat → Nat) (v w : Nat) : Nat :=
  a.scale.progRank (Solver.maximumOf a).size (a.vertex v).priority (r w)

/-- An even owner takes at most what any edge offers. -/
theorem liftRank_le_offer {r : Nat → Nat} {v w : Nat} (even : (a.vertex v).owner.isEven = true)
    (edge : w ∈ (a.vertex v).outgoing) : a.liftRank r v ≤ a.offer r v w := by
  unfold liftRank
  dsimp only
  rw [even]
  exact (foldl_prefer_even _ _).2 _ (List.mem_map.2 ⟨w, Array.mem_toList_iff.2 edge, rfl⟩)

/-- Any other owner takes at least what any edge offers. -/
theorem offer_le_liftRank {r : Nat → Nat} {v w : Nat} (other : (a.vertex v).owner.isEven = false)
    (edge : w ∈ (a.vertex v).outgoing) : a.offer r v w ≤ a.liftRank r v := by
  unfold liftRank
  dsimp only
  rw [other]
  exact (foldl_prefer_odd _ _).2 _ (List.mem_map.2 ⟨w, Array.mem_toList_iff.2 edge, rfl⟩)

/-- A single edge offers what lifting gives, whoever owns the vertex. -/
theorem liftRank_single {r : Nat → Nat} {v w : Nat} (only : (a.vertex v).outgoing = #[w]) :
    a.liftRank r v = a.offer r v w := by
  have bounded := Scale.progRank_le_count a.scale (Solver.maximumOf a).size (a.vertex v).priority (r w)
  unfold liftRank
  dsimp only
  rw [only]
  cases (a.vertex v).owner.isEven
  · exact Nat.zero_max _
  · exact min_eq_right bounded

/-- The only edge of a vertex with at most one edge, one of them `w`. -/
theorem outgoing_eq_single {v w : Nat} (edge : w ∈ (a.vertex v).outgoing)
    (single : (a.vertex v).outgoing.size ≤ 1) : (a.vertex v).outgoing = #[w] := by
  obtain ⟨i, inside, atI⟩ := Array.mem_iff_getElem.1 edge
  apply Array.ext
  · have := Array.size_pos_of_mem edge
    simp only [List.size_toArray, List.length_singleton]
    omega
  · intro j first _
    obtain rfl : j = 0 := by omega
    obtain rfl : i = 0 := by omega
    simp [atI]

/-- A self-loop at even priority that an even owner may take, or that is the
only edge, holds the vertex at zero in the least fixpoint: zero there and the
least fixpoint elsewhere is a pre-fixpoint. -/
theorem Consistent.fixRank_eq_zero_of_loop (consistent : a.Consistent) {v : Nat} (inside : v < a.size)
    (loop : v ∈ (a.vertex v).outgoing) (even : (a.vertex v).priority % 2 = 0)
    (holds : (a.vertex v).owner.isEven = true ∨ (a.vertex v).outgoing = #[v]) :
    a.fixRank v = 0 := by
  let pinned : Nat → Nat := fun u => if u = v then 0 else a.fixRank u
  have lower : ∀ u, pinned u ≤ a.fixRank u := by
    intro u
    by_cases same : u = v
    · simp [pinned, same]
    · simp [pinned, same]
  have atLoop : a.offer pinned v v = 0 := by
    simp only [offer, pinned, if_pos rfl]
    exact Scale.progRank_zero_of_even _ _ even
  have pre : ∀ u < a.size, a.liftRank pinned u ≤ pinned u := by
    intro u within
    by_cases same : u = v
    · subst same
      have offered : a.liftRank pinned u ≤ a.offer pinned u u := by
        rcases holds with evenOwner | only
        · exact liftRank_le_offer evenOwner loop
        · exact (liftRank_single only).le
      calc a.liftRank pinned u ≤ a.offer pinned u u := offered
        _ = 0 := atLoop
        _ ≤ pinned u := Nat.zero_le _
    · calc a.liftRank pinned u ≤ a.liftRank a.fixRank u := a.liftRank_mono fun w _ => lower w
        _ = a.fixRank u := consistent.liftRank_fixRank u within
        _ = pinned u := by simp [pinned, same]
  have least := consistent.fixRank_le pre v inside
  simpa [pinned] using least

/-- A self-loop at odd priority that a non-even owner may take, or that is the
only edge, leaves a number that lifting does not move only at the count. -/
theorem Consistent.eq_count_of_loop (consistent : a.Consistent) {r : Nat → Nat} {v : Nat}
    (loop : v ∈ (a.vertex v).outgoing) (odd : (a.vertex v).priority % 2 = 1)
    (holds : (a.vertex v).owner.isEven = false ∨ (a.vertex v).outgoing = #[v])
    (settled : a.liftRank r v = r v) (bounded : r v ≤ a.scale.count) : r v = a.scale.count := by
  have offered : a.offer r v v ≤ a.liftRank r v := by
    rcases holds with other | only
    · exact offer_le_liftRank other loop
    · exact (liftRank_single only).ge
  have inside := consistent.priority_lt v
  have keeps : 0 < Measure.prefixLength (a.vertex v).priority := by
    unfold Measure.prefixLength
    omega
  have positive : 0 < a.scale.weights.getD (Measure.prefixLength (a.vertex v).priority - 1) 1 := by
    rw [scale, Scale.getD_weights _ keeps (Solver.prefixLength_le_bounds (maximumOf_shape a) inside)]
    exact Radix.radixProduct_pos _
  by_contra short
  have raised := Scale.lt_progRank_of_odd a.scale odd inside keeps positive
    (Nat.lt_of_le_of_ne bounded short)
  simp only [offer] at offered
  omega

end Arena

namespace Solver

variable {s t u : Solver}

/-- The number of `v` is that of the least fixpoint. -/
def Exact (s : Solver) (v : Nat) : Prop := s.rank v = s.arena.fixRank v

/-- Every locked vertex of the arena is exact. -/
def LockExact (s : Solver) : Prop := ∀ v < s.size, s.isLocked v = true → s.Exact v

/-- Every locked vertex is `good`. -/
def LockSound (good : Solver → Nat → Prop) (s : Solver) : Prop :=
  ∀ v < s.size, s.isLocked v = true → good s v

/-- `t` comes from `s` by lifts and locks that keep `good`: it is sound over
the same arena with the same policy, no number is lower, no lock is lost, and
every lock is `good`. -/
structure Grows (good : Solver → Nat → Prop) (s t : Solver) : Prop where
  sound : t.Sound
  lockSound : t.LockSound good
  arena_eq : t.arena = s.arena
  policy_eq : t.policy = s.policy
  rank_le : ∀ v < s.size, s.rank v ≤ t.rank v
  locked_le : ∀ v, s.isLocked v = true → t.isLocked v = true

/-- What the propagation strategies need of a property of locked vertices
under `policy`: it survives rises below the least fixpoint, holds at the
count and where a self-loop decides a settled vertex, and passes from a
vertex `v` of `s` to a settled predecessor that `lockable` accepts in a state
grown from `s`, given the `⊤` flag `v` had in `s`. -/
structure LockRules (good : Solver → Nat → Prop) (policy : LockPolicy) : Prop where
  rises : ∀ {s t : Solver} {v : Nat}, good s v → t.Sound → t.arena = s.arena → v < s.size →
    s.rank v ≤ t.rank v → good t v
  count : ∀ {s : Solver} {v : Nat}, s.Sound → v < s.size → s.rank v = s.arena.scale.count →
    good s v
  selfLoop : ∀ {s : Solver} {v : Nat}, s.Sound → v < s.size → s.Settled v →
    s.settledBySelfLoop v = true → good s v
  lockable : ∀ {s t : Solver} {u v : Nat}, s.Sound → Grows good s t → t.policy = policy →
    v < s.size → good s v → v ∈ (s.arena.vertex u).outgoing → t.Settled u →
    t.lockable u (s.measure v).top = true → good t u

section Grows

variable {good : Solver → Nat → Prop} {policy : LockPolicy}

/-- An exact vertex stays exact while its number rises below the least
fixpoint. -/
theorem Exact.rises {v : Nat} (exact : s.Exact v) (sound : t.Sound) (sameArena : t.arena = s.arena)
    (inside : v < s.size) (le : s.rank v ≤ t.rank v) : t.Exact v := by
  have below := sound.below.le_fixRank v (by rw [sameArena]; exact inside)
  unfold Exact at exact ⊢
  rw [sameArena] at below ⊢
  omega

theorem Grows.refl (sound : s.Sound) (lockSound : s.LockSound good) : Grows good s s :=
  ⟨sound, lockSound, rfl, rfl, fun _ _ => le_rfl, fun _ locked => locked⟩

theorem Grows.size_eq (grows : Grows good s t) : t.size = s.size := by
  rw [size, grows.arena_eq]
  rfl

theorem Grows.trans (first : Grows good s t) (second : Grows good t u) : Grows good s u :=
  ⟨second.sound, second.lockSound, second.arena_eq.trans first.arena_eq,
    second.policy_eq.trans first.policy_eq,
    fun v inside => le_trans (first.rank_le v inside) (second.rank_le v (first.size_eq ▸ inside)),
    fun v locked => second.locked_le v (first.locked_le v locked)⟩

theorem Grows.preserves (rules : LockRules good policy) {v : Nat} (grows : Grows good s t)
    (inside : v < s.size) (holds : good s v) : good t v :=
  rules.rises holds grows.sound grows.arena_eq inside (grows.rank_le v inside)

theorem Grows.potential_le (grows : Grows good s t) : s.potential ≤ t.potential :=
  potential_mono grows.arena_eq grows.rank_le

theorem Grows.room_le (grows : Grows good s t) : t.room ≤ s.room := by
  have rises := grows.potential_le
  simp only [room, size, grows.arena_eq]
  omega

/-- A vertex at `⊤` in `s` is at the count in every state grown from `s`. -/
theorem Grows.rank_of_top (grows : Grows good s t) (sound : s.Sound) {v : Nat} (inside : v < s.size)
    (top : (s.measure v).top = true) : t.rank v = t.arena.scale.count := by
  have atCount := sound.coherent.rank_of_top top
  have rises := grows.rank_le v inside
  have bounded := grows.sound.below.le_count (grows.size_eq ▸ inside)
  rw [grows.arena_eq] at bounded ⊢
  omega

theorem Agrees.isLocked (agrees : Agrees s t) (v : Nat) : t.isLocked v = s.isLocked v := by
  rw [Solver.isLocked, Solver.isLocked, agrees.locked]

/-- What keeps the locks and is sound grows from a state whose locks are good. -/
theorem Keeps.grows (rules : LockRules good policy) (keeps : Keeps s t) (sound : t.Sound)
    (lockSound : s.LockSound good) : Grows good s t := by
  refine ⟨sound, fun v inside locked => ?_, keeps.arena_eq, keeps.policy_eq, keeps.rank_le,
    fun v locked => by rw [isLocked, keeps.locked_eq]; exact locked⟩
  have within : v < s.size := keeps.size_eq ▸ inside
  have lockedBefore : s.isLocked v = true := by rw [isLocked, ← keeps.locked_eq]; exact locked
  exact rules.rises (lockSound v within lockedBefore) sound keeps.arena_eq within
    (keeps.rank_le v within)

theorem Settles.grows (rules : LockRules good policy) {order : List Nat} (settles : Settles s order t)
    (lockSound : s.LockSound good) : Grows good s t :=
  settles.toKeeps.grows rules settles.sound lockSound

/-- Locks and counters do not enter soundness. -/
theorem Sound.setLocks (sound : s.Sound) (locked : Array Bool) (stats : Stats) :
    ({ s with locked, stats } : Solver).Sound :=
  ⟨⟨sound.coherent.maximum_eq, sound.coherent.scale_eq, sound.coherent.measures_size,
    sound.coherent.ranks_size, sound.coherent.fits, sound.coherent.rank_eq⟩, sound.consistent,
    sound.below⟩

theorem isLocked_lock (s : Solver) (v u : Nat) :
    (s.lock v).isLocked u = true ↔ (u = v ∧ v < s.locked.size) ∨ s.isLocked u = true := by
  unfold lock
  split
  · rename_i already
    constructor
    · exact Or.inr
    · rintro (⟨rfl, _⟩ | locked)
      · exact already
      · exact locked
  · simp only [isLocked, Array.set!_eq_setIfInBounds, Array.getElem?_setIfInBounds]
    by_cases same : v = u
    · subst same
      by_cases inside : v < s.locked.size
      · simp [inside]
      · simp [inside]
    · simp [same, Ne.symm same]

/-- Locking a good vertex keeps every lock good. -/
theorem Sound.lock_grows (rules : LockRules good policy) (sound : s.Sound)
    (lockSound : s.LockSound good) {v : Nat} (holds : v < s.size → good s v) :
    Grows good s (s.lock v) := by
  have same : (s.lock v).rank = s.rank ∧ (s.lock v).arena = s.arena ∧
      (s.lock v).policy = s.policy ∧ (s.lock v).Sound := by
    unfold lock
    split
    · exact ⟨rfl, rfl, rfl, sound⟩
    · exact ⟨rfl, rfl, rfl, sound.setLocks _ _⟩
  obtain ⟨sameRank, sameArena, samePolicy, lockedSound⟩ := same
  refine ⟨lockedSound, fun u inside locked => ?_, sameArena, samePolicy,
    fun u _ => by rw [sameRank], fun u locked => (isLocked_lock s v u).2 (Or.inr locked)⟩
  have within : u < s.size := by rw [size, ← sameArena]; exact inside
  have before : good s u := by
    rcases (isLocked_lock s v u).1 locked with ⟨rfl, _⟩ | lockedBefore
    · exact holds within
    · exact lockSound u within lockedBefore
  exact rules.rises before lockedSound sameArena within (by rw [sameRank])

end Grows

section Fixpoint

/-- Lifting one vertex until it no longer changes settles it, as long as the
fuel exceeds the room. -/
theorem Sound.liftToFixpoint_settles {v : Nat} :
    ∀ (fuel : Nat) (s : Solver), s.Sound → v < s.size → s.room < fuel →
      Settles s [v] (liftToFixpoint v fuel s) := by
  intro fuel
  induction fuel with
  | zero => intro s _ _ roomy; omega
  | succ fuel ih =>
    intro s sound inside roomy
    have pass := sound.lift_pass inside
    rw [liftToFixpoint]
    generalize s.lift v = result at pass ⊢
    obtain ⟨changed, t⟩ := result
    dsimp only at pass ⊢
    cases changed
    · exact pass.settles
    · exact Settles.after pass.toKeeps (ih t pass.sound (pass.size_eq ▸ inside)
        (Nat.lt_of_lt_of_le (room_lt pass.sound pass.arena_eq pass.rose) (Nat.le_of_lt_succ roomy)))

/-- A settled vertex whose self-loop decides it is exact. -/
theorem Sound.exact_of_selfLoop (sound : s.Sound) {v : Nat} (inside : v < s.size)
    (settled : s.Settled v) (loop : s.settledBySelfLoop v = true) : s.Exact v := by
  have consistent := sound.consistent
  unfold settledBySelfLoop at loop
  dsimp only at loop
  split at loop
  · exact nomatch loop
  · rename_i decided
    -- the self-loop is an edge: `hasSelfLoop` may search the incoming list
    have edge : v ∈ (s.arena.vertex v).outgoing := by
      unfold Arena.hasSelfLoop at loop
      dsimp only at loop
      split at loop
      · exact consistent.incoming_sound v inside v (Array.contains_iff_mem.1 loop)
      · exact Array.contains_iff_mem.1 loop
    have bounded := sound.below.le_count inside
    have fixBounded := Arena.fixRank_le_count (a := s.arena) v
    rcases Nat.mod_two_eq_zero_or_one (s.arena.vertex v).priority with even | odd
    · have zero := consistent.fixRank_eq_zero_of_loop inside edge even (by
        by_cases single : (s.arena.vertex v).outgoing.size ≤ 1
        · exact Or.inr (Arena.outgoing_eq_single edge single)
        · left
          simp only [Vertex.outDegree, Vertex.ownerEven, Vertex.priorityEven, even] at decided
          simpa [Nat.lt_of_not_le single] using decided)
      have below := sound.below.le_fixRank v inside
      unfold Exact
      omega
    · have holds : (s.arena.vertex v).owner.isEven = false ∨ (s.arena.vertex v).outgoing = #[v] := by
        by_cases single : (s.arena.vertex v).outgoing.size ≤ 1
        · exact Or.inr (Arena.outgoing_eq_single edge single)
        · left
          simp only [Vertex.outDegree, Vertex.ownerEven, Vertex.priorityEven, odd] at decided
          simpa [Nat.lt_of_not_le single] using decided
      have atTop := consistent.eq_count_of_loop edge odd holds settled bounded
      have fixTop := consistent.eq_count_of_loop edge odd holds
        (consistent.liftRank_fixRank v inside) fixBounded
      unfold Exact
      omega

end Fixpoint

section Propagation

/-- A settled vertex whose successors are all exact is exact. -/
theorem Sound.exact_of_successors (sound : s.Sound) {u : Nat} (inside : u < s.size)
    (settled : s.Settled u) (successors : ∀ w ∈ (s.arena.vertex u).outgoing, s.Exact w) :
    s.Exact u := by
  unfold Exact
  calc s.rank u = s.arena.liftRank s.rank u := settled.symm
    _ = s.arena.liftRank s.arena.fixRank u := Arena.liftRank_congr successors
    _ = s.arena.fixRank u := sound.consistent.liftRank_fixRank u inside

/-- A number at the count is exact. -/
theorem Sound.exact_of_count (sound : s.Sound) {v : Nat} (inside : v < s.size)
    (atCount : s.rank v = s.arena.scale.count) : s.Exact v := by
  have below := sound.below.le_fixRank v inside
  have bounded := Arena.fixRank_le_count (a := s.arena) v
  unfold Exact
  omega

/-- Under the safe policy, a settled predecessor `u` of an exact vertex `v`
that `lockable` accepts is exact; `top` tells whether `v` is at `⊤`. -/
theorem Sound.exact_of_lockable (sound : s.Sound) (lockExact : s.LockExact) (safe : s.policy = .safe)
    {u v : Nat} {top : Bool} (inside : u < s.size) (edge : v ∈ (s.arena.vertex u).outgoing)
    (exactV : s.Exact v) (topV : top = true → s.rank v = s.arena.scale.count)
    (settled : s.Settled u) (lockable : s.lockable u top = true) : s.Exact u := by
  unfold Solver.lockable at lockable
  dsimp only at lockable
  split at lockable
  · -- the only successor is `v`
    rename_i single
    have only := Arena.outgoing_eq_single edge (by simp [Vertex.outDegree] at single; omega)
    refine sound.exact_of_successors inside settled fun w mem => ?_
    have atV : w = v := by
      rw [only] at mem
      simpa using mem
    rw [atV]
    exact exactV
  · split at lockable
    · -- Odd owns `u` and `v` is at `⊤`, so `u` reaches `⊤` too
      rename_i oddTop
      obtain ⟨oddOwner, isTop⟩ := Bool.and_eq_true_iff.1 oddTop
      have other : (s.arena.vertex u).owner.isEven = false := by
        simp only [Player.isOdd, beq_iff_eq] at oddOwner
        simp [Player.isEven, oddOwner]
      have offered := Arena.offer_le_liftRank (r := s.rank) other edge
      rw [Arena.offer, topV isTop, Scale.progRank_count] at offered
      have bounded := sound.below.le_count inside
      exact sound.exact_of_count inside (by unfold Settled at settled; omega)
    · rw [safe] at lockable
      refine sound.exact_of_successors inside settled fun w mem => ?_
      have locked := Array.all_eq_true_iff_forall_mem.1 lockable w mem
      exact lockExact w (sound.consistent.target_lt u inside w mem) locked

theorem Keeps.isLocked (keeps : Keeps s t) : t.isLocked = s.isLocked := by
  funext v
  rw [Solver.isLocked, Solver.isLocked, keeps.locked_eq]

theorem Keeps.lockable (keeps : Keeps s t) (u : Nat) (top : Bool) :
    t.lockable u top = s.lockable u top := by
  unfold Solver.lockable
  rw [keeps.arena_eq, keeps.policy_eq, keeps.isLocked]

/-- Exact locks obey the lock rules of the safe policy. -/
theorem exactRules : LockRules Exact .safe where
  rises exact sound sameArena inside le := exact.rises sound sameArena inside le
  count sound inside atCount := sound.exact_of_count inside atCount
  selfLoop sound inside settled loop := sound.exact_of_selfLoop inside settled loop
  lockable {s t u v} sound grows safe insideV exactV edge settled lockable := by
    have insideU : u < t.size := grows.size_eq ▸ Arena.lt_size_of_mem_outgoing edge
    exact grows.sound.exact_of_lockable grows.lockSound safe insideU (grows.arena_eq ▸ edge)
      (exactV.rises grows.sound grows.arena_eq insideV (grows.rank_le v insideV))
      (grows.rank_of_top sound insideV) settled lockable

variable {good : Solver → Nat → Prop} {policy : LockPolicy}

/-- Spreading locks from good queued vertices to their predecessors keeps
every lock good, under the policy of the rules, as long as the fuel exceeds
the room. -/
theorem Sound.propagateLocks_grows (rules : LockRules good policy) (fuel : Nat) :
    ∀ (rounds : Nat) (queue : Array Nat) (i : Nat) (s : Solver), s.Sound → s.LockSound good →
      s.policy = policy → s.room < fuel → (∀ x ∈ queue, x < s.size ∧ good s x) →
      Grows good s (propagateLocks fuel rounds queue i s) := by
  intro rounds
  induction rounds with
  | zero => intro queue i s sound lockSound _ _ _; exact Grows.refl sound lockSound
  | succ rounds ih =>
    intro queue i s sound lockSound samePolicy roomy queued
    rw [propagateLocks]
    cases found : queue[i]? with
    | none => exact Grows.refl sound lockSound
    | some v =>
      dsimp only
      obtain ⟨insideV, goodV⟩ := queued v (Array.mem_of_getElem? found)
      generalize folded : Array.foldl _ (queue, s) (s.arena.vertex v).incoming = result
      -- every predecessor the fold locks is settled first and then good
      have invariant : Grows good s result.2 ∧ ∀ x ∈ result.1, x < s.size ∧ good result.2 x := by
        rw [← folded]
        apply Array.foldl_induction (motive := fun _ (acc : Array Nat × Solver) =>
          Grows good s acc.2 ∧ ∀ x ∈ acc.1, x < s.size ∧ good acc.2 x)
        · exact ⟨Grows.refl sound lockSound, queued⟩
        · rintro j ⟨pending, current⟩ ⟨grows, pendingGood⟩
          dsimp only at grows pendingGood ⊢
          split
          · exact ⟨grows, pendingGood⟩
          · rename_i taken
            have lockable : current.lockable (s.arena.vertex v).incoming[j] (s.measure v).top = true := by
              simp only [Bool.or_eq_true, Bool.not_eq_true', not_or, Bool.not_eq_false] at taken
              exact taken.2
            have edge := sound.consistent.incoming_sound v insideV _ (Array.getElem_mem j.2)
            have insideU : (s.arena.vertex v).incoming[j] < s.size := Arena.lt_size_of_mem_outgoing edge
            have settles := grows.sound.liftToFixpoint_settles fuel current
              (grows.size_eq ▸ insideU) (Nat.lt_of_le_of_lt grows.room_le roomy)
            generalize liftToFixpoint _ fuel current = lifted at settles ⊢
            have first := settles.grows rules grows.lockSound
            have whole := grows.trans first
            have goodU := rules.lockable sound whole (whole.policy_eq.trans samePolicy) insideV goodV
              edge (settles.settled _ (List.mem_singleton_self _))
              (by rw [settles.toKeeps.lockable]; exact lockable)
            have locked := first.sound.lock_grows rules first.lockSound (fun _ => goodU)
            refine ⟨whole.trans locked, fun x mem => ?_⟩
            rcases Array.mem_push.1 mem with earlier | rfl
            · obtain ⟨insideX, goodX⟩ := pendingGood x earlier
              exact ⟨insideX, (first.trans locked).preserves rules (grows.size_eq ▸ insideX) goodX⟩
            · exact ⟨insideU, locked.preserves rules (whole.size_eq ▸ insideU) goodU⟩
      obtain ⟨pending, t⟩ := result
      obtain ⟨grows, pendingGood⟩ := invariant
      exact grows.trans (ih pending (i + 1) t grows.sound grows.lockSound
        (grows.policy_eq.trans samePolicy) (Nat.lt_of_le_of_lt grows.room_le roomy)
        (fun x mem => ⟨grows.size_eq ▸ (pendingGood x mem).1, (pendingGood x mem).2⟩))

end Propagation

end Solver

end ParityGames
