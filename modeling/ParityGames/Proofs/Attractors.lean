import ParityGames.Proofs.Games

/-!
# Attractors

The attractor of `X` for player `b` inside a subgame `R` holds the vertices
from which `b` can force the play into `X`: those of `X`, those of `R` that `b`
owns with an edge to the attractor, and those of `R` the other player owns with
all their edges into `R` leading there. `AttractedIn` counts the moves needed;
the least count is the rank, which the attractor strategy lowers at every move
(`attractor_strategy`, `attractor_forced`), so the moves from the attractor
outside `X` admit no cycle (`not_cycle_attractor`).

What is left of a subgame outside an attractor of `b` is a subgame in which
`b` cannot leave it (`Subgame.sdiff_attractor`, `mem_of_owns_not_attractor`).
-/

namespace ParityGames

namespace Arena

variable {a : Arena} {b : Bool} {R X : Finset Nat}

/-- `x` is attracted to `X` inside `R` by player `b` within `k` moves. -/
inductive AttractedIn (a : Arena) (b : Bool) (R X : Finset Nat) : Nat → Nat → Prop
  | base {k x : Nat} : x ∈ X → AttractedIn a b R X k x
  | own {k x y : Nat} : x ∈ R → a.Owns b x → y ∈ (a.vertex x).outgoing → y ∈ R →
      AttractedIn a b R X k y → AttractedIn a b R X (k + 1) x
  | other {k x : Nat} : x ∈ R → ¬ a.Owns b x →
      (∀ y ∈ (a.vertex x).outgoing, y ∈ R → AttractedIn a b R X k y) →
      AttractedIn a b R X (k + 1) x

theorem AttractedIn.succ {k x : Nat} (attracted : a.AttractedIn b R X k x) :
    a.AttractedIn b R X (k + 1) x := by
  induction attracted with
  | base mem => exact .base mem
  | own inside owned edge inR _ ih => exact .own inside owned edge inR ih
  | other inside other _ ih => exact .other inside other ih

theorem AttractedIn.mono {k m x : Nat} (attracted : a.AttractedIn b R X k x) (le : k ≤ m) :
    a.AttractedIn b R X m x := by
  induction m with
  | zero => exact (Nat.le_zero.1 le) ▸ attracted
  | succ m ih =>
    rcases Nat.lt_or_ge k (m + 1) with lower | higher
    · exact (ih (by omega)).succ
    · exact (Nat.le_antisymm le higher) ▸ attracted

theorem AttractedIn.mem {k x : Nat} (attracted : a.AttractedIn b R X k x) : x ∈ R ∨ x ∈ X := by
  cases attracted with
  | base mem => exact Or.inr mem
  | own inside => exact Or.inl inside
  | other inside => exact Or.inl inside

open Classical in
/-- The vertices from which player `b` forces the play of `R` into `X`. -/
noncomputable def attractor (a : Arena) (b : Bool) (R X : Finset Nat) : Finset Nat :=
  (R ∪ X).filter fun x => ∃ k, a.AttractedIn b R X k x

theorem mem_attractor {x : Nat} : x ∈ a.attractor b R X ↔ ∃ k, a.AttractedIn b R X k x := by
  classical
  unfold attractor
  rw [Finset.mem_filter]
  constructor
  · exact fun mem => mem.2
  · rintro ⟨k, attracted⟩
    exact ⟨Finset.mem_union.2 attracted.mem, k, attracted⟩

theorem subset_attractor : X ⊆ a.attractor b R X :=
  fun _ mem => mem_attractor.2 ⟨0, .base mem⟩

theorem attractor_subset (within : X ⊆ R) : a.attractor b R X ⊆ R := by
  intro x mem
  obtain ⟨k, attracted⟩ := mem_attractor.1 mem
  rcases attracted.mem with inside | inX
  · exact inside
  · exact within inX

theorem sdiff_attractor_ssubset (within : X ⊆ R) (nonempty : X.Nonempty) :
    R \ a.attractor b R X ⊂ R :=
  Finset.sdiff_ssubset (attractor_subset within) (nonempty.mono subset_attractor)

/-- Finitely many attracted vertices are attracted within one bound. -/
theorem exists_bound (l : List Nat) (attracted : ∀ y ∈ l, y ∈ R → y ∈ a.attractor b R X) :
    ∃ K, ∀ y ∈ l, y ∈ R → a.AttractedIn b R X K y := by
  induction l with
  | nil => exact ⟨0, fun y mem => absurd mem List.not_mem_nil⟩
  | cons y ys ih =>
    obtain ⟨K, rest⟩ := ih fun z mem => attracted z (List.mem_cons_of_mem y mem)
    by_cases inside : y ∈ R
    · obtain ⟨k, first⟩ := mem_attractor.1 (attracted y List.mem_cons_self inside)
      refine ⟨max k K, fun z mem within => ?_⟩
      rcases List.mem_cons.1 mem with rfl | later
      · exact first.mono (le_max_left k K)
      · exact (rest z later within).mono (le_max_right k K)
    · refine ⟨K, fun z mem within => ?_⟩
      rcases List.mem_cons.1 mem with rfl | later
      · exact absurd within inside
      · exact rest z later within

theorem attractor_of_owns {x y : Nat} (inside : x ∈ R) (owned : a.Owns b x)
    (edge : y ∈ (a.vertex x).outgoing) (inR : y ∈ R) (attracted : y ∈ a.attractor b R X) :
    x ∈ a.attractor b R X := by
  obtain ⟨k, attractedY⟩ := mem_attractor.1 attracted
  exact mem_attractor.2 ⟨k + 1, .own inside owned edge inR attractedY⟩

/-- A vertex of the other player whose edges into `R` all lead into the
attractor is in it. -/
theorem attractor_of_forced {x : Nat} (inside : x ∈ R) (other : ¬ a.Owns b x)
    (forced : ∀ y ∈ (a.vertex x).outgoing, y ∈ R → y ∈ a.attractor b R X) :
    x ∈ a.attractor b R X := by
  obtain ⟨K, bounded⟩ := exists_bound (a.vertex x).outgoing.toList
    fun y mem => forced y (Array.mem_toList_iff.1 mem)
  exact mem_attractor.2 ⟨K + 1, .other inside other fun y edge inR =>
    bounded y (Array.mem_toList_iff.2 edge) inR⟩

open Classical in
/-- The least number of moves in which `b` forces the play from `x` into `X`. -/
noncomputable def attractRank (a : Arena) (b : Bool) (R X : Finset Nat) (x : Nat) : Nat :=
  if attracted : ∃ k, a.AttractedIn b R X k x then Nat.find attracted else 0

theorem attractedIn_attractRank {x : Nat} (mem : x ∈ a.attractor b R X) :
    a.AttractedIn b R X (a.attractRank b R X x) x := by
  classical
  have attracted := mem_attractor.1 mem
  rw [attractRank, dif_pos attracted]
  exact Nat.find_spec attracted

theorem attractRank_le {k x : Nat} (attracted : a.AttractedIn b R X k x) :
    a.attractRank b R X x ≤ k := by
  classical
  rw [attractRank, dif_pos ⟨k, attracted⟩]
  exact Nat.find_min' _ attracted

open Classical in
/-- The attractor strategy: an edge into `R` to a vertex of lower rank, where
there is one. -/
noncomputable def attractMove (a : Arena) (b : Bool) (R X : Finset Nat) (x : Nat) : Nat :=
  if lower : ∃ y ∈ (a.vertex x).outgoing, y ∈ R ∧
      a.AttractedIn b R X (a.attractRank b R X x - 1) y then Classical.choose lower else x

theorem attractMove_spec {x : Nat} (lower : ∃ y ∈ (a.vertex x).outgoing, y ∈ R ∧
      a.AttractedIn b R X (a.attractRank b R X x - 1) y) :
    a.attractMove b R X x ∈ (a.vertex x).outgoing ∧ a.attractMove b R X x ∈ R ∧
      a.AttractedIn b R X (a.attractRank b R X x - 1) (a.attractMove b R X x) := by
  rw [attractMove, dif_pos lower]
  exact Classical.choose_spec lower

/-- From a vertex of `b` in the attractor outside `X`, the attractor strategy
moves into `R` and lowers the rank. -/
theorem attractor_strategy {x : Nat} (mem : x ∈ a.attractor b R X) (outside : x ∉ X)
    (owned : a.Owns b x) :
    a.attractMove b R X x ∈ (a.vertex x).outgoing ∧ a.attractMove b R X x ∈ R ∧
      a.attractMove b R X x ∈ a.attractor b R X ∧
      a.attractRank b R X (a.attractMove b R X x) < a.attractRank b R X x := by
  have attracted := attractedIn_attractRank mem
  generalize rank : a.attractRank b R X x = k at attracted
  cases attracted with
  | base inX => exact absurd inX outside
  | @own k _ y _ _ edge inR attractedY =>
    have lower : ∃ y ∈ (a.vertex x).outgoing, y ∈ R ∧
        a.AttractedIn b R X (a.attractRank b R X x - 1) y :=
      ⟨y, edge, inR, by rw [rank, Nat.add_sub_cancel]; exact attractedY⟩
    obtain ⟨chosenEdge, chosenR, chosen⟩ := attractMove_spec lower
    rw [rank, Nat.add_sub_cancel] at chosen
    exact ⟨chosenEdge, chosenR, mem_attractor.2 ⟨k, chosen⟩,
      Nat.lt_of_le_of_lt (attractRank_le chosen) (by omega)⟩
  | other _ notOwned => exact absurd owned notOwned

/-- From a vertex of the other player in the attractor outside `X`, every edge
into `R` lowers the rank. -/
theorem attractor_forced {x y : Nat} (mem : x ∈ a.attractor b R X) (outside : x ∉ X)
    (other : ¬ a.Owns b x) (edge : y ∈ (a.vertex x).outgoing) (inR : y ∈ R) :
    y ∈ a.attractor b R X ∧ a.attractRank b R X y < a.attractRank b R X x := by
  have attracted := attractedIn_attractRank mem
  generalize rank : a.attractRank b R X x = k at attracted
  cases attracted with
  | base inX => exact absurd inX outside
  | own _ owned => exact absurd owned other
  | @other k _ _ _ forced =>
    have attractedY := forced y edge inR
    exact ⟨mem_attractor.2 ⟨k, attractedY⟩, Nat.lt_of_le_of_lt (attractRank_le attractedY) (by omega)⟩

/-- The moves that keep to the attractor strategy outside `X`: into `R`, and to
the attractor move where `b` owns the vertex. -/
def AttractorMoves (a : Arena) (b : Bool) (R X : Finset Nat) (moves : Nat → Nat → Prop) : Prop :=
  ∀ u w, moves u w → u ∈ a.attractor b R X → u ∉ X →
    w ∈ (a.vertex u).outgoing ∧ w ∈ R ∧ (a.Owns b u → w = a.attractMove b R X u)

/-- A walk of such moves from the attractor that leaves no vertex of `X` stays in
the attractor and lowers the rank at every move. -/
theorem Walk.attractRank_le {moves : Nat → Nat → Prop} {k x z : Nat} {l : List Nat}
    (walk : a.Walk moves k x z l) (compliant : a.AttractorMoves b R X moves)
    (start : x ∈ a.attractor b R X) (avoids : ∀ u ∈ l, u ∉ X) :
    z ∈ a.attractor b R X ∧ a.attractRank b R X z + l.length ≤ a.attractRank b R X x := by
  induction walk with
  | nil x => exact ⟨start, by simp⟩
  | @cons x y z rest _ move _ ih =>
    have outside := avoids x List.mem_cons_self
    obtain ⟨edge, inR, chosen⟩ := compliant x y move start outside
    have next : y ∈ a.attractor b R X ∧ a.attractRank b R X y < a.attractRank b R X x := by
      by_cases owned : a.Owns b x
      · obtain ⟨_, _, mem, lower⟩ := attractor_strategy start outside owned
        rw [chosen owned]
        exact ⟨mem, lower⟩
      · exact attractor_forced start outside owned edge inR
    obtain ⟨last, fewer⟩ := ih next.1 fun u mem => avoids u (List.mem_cons_of_mem x mem)
    refine ⟨last, ?_⟩
    rw [List.length_cons]
    omega

/-- Moves that keep to the attractor strategy close no cycle through the
attractor that avoids `X`. -/
theorem not_cycle_attractor {moves : Nat → Nat → Prop} {k v : Nat} {l : List Nat}
    (compliant : a.AttractorMoves b R X moves) (walk : a.Walk moves k v v (v :: l))
    (start : v ∈ a.attractor b R X) (avoids : ∀ u ∈ v :: l, u ∉ X) : False := by
  have lowered := (walk.attractRank_le compliant start avoids).2
  rw [List.length_cons] at lowered
  omega

/-- In what is left of `R` outside an attractor of `b`, the vertices of `b`
have all their edges into `R` there. -/
theorem mem_of_owns_not_attractor {x y : Nat} (inside : x ∈ R \ a.attractor b R X)
    (owned : a.Owns b x) (edge : y ∈ (a.vertex x).outgoing) (inR : y ∈ R) :
    y ∈ R \ a.attractor b R X := by
  rw [Finset.mem_sdiff] at inside ⊢
  exact ⟨inR, fun attracted => inside.2 (attractor_of_owns inside.1 owned edge inR attracted)⟩

/-- What is left of a subgame outside an attractor is a subgame. -/
theorem Subgame.sdiff_attractor (subgame : a.Subgame R) : a.Subgame (R \ a.attractor b R X) := by
  intro x inside
  by_cases owned : a.Owns b x
  · obtain ⟨y, edge, inR⟩ := subgame x (Finset.mem_sdiff.1 inside).1
    exact ⟨y, edge, mem_of_owns_not_attractor inside owned edge inR⟩
  · by_contra stuck
    push Not at stuck
    refine (Finset.mem_sdiff.1 inside).2 (attractor_of_forced (Finset.mem_sdiff.1 inside).1 owned
      fun y edge inR => ?_)
    by_contra outside
    exact stuck y edge (Finset.mem_sdiff.2 ⟨inR, outside⟩)

end Arena

end ParityGames
