import Mathlib.Data.Finset.Max
import ParityGames.Proofs.Attractors

/-!
# Positional determinacy

Every subgame splits into a dominion of Even and a dominion of Odd on what is
left (`Subgame.splits`). The proof follows Zielonka's recursion on the least
priority `p` of the subgame, which favours some player `b`:

* the attractor of `b` to the vertices of priority `p` is removed, and what is
  left splits into a dominion of `b` and a dominion of the other player;
* when the other player holds nothing there, `b` holds the whole subgame
  (`dominion_of_attractor_least`): a cycle that enters the attractor cannot
  keep descending it and so meets priority `p`, and one that does not is a
  cycle of the dominion outside;
* otherwise what the other player holds there is its dominion in the whole
  subgame as well, its attractor together with what the other player holds in
  the rest is again a dominion (`Dominion.attractor_union`), and the rest splits.
-/

namespace ParityGames

namespace Arena

variable {a : Arena} {b : Bool} {R D : Finset Nat} {f : Nat → Nat}

section Choices

/-- The choice `f` on `D` and `g` elsewhere. -/
def patch (D : Finset Nat) (f g : Nat → Nat) (x : Nat) : Nat := if x ∈ D then f x else g x

theorem patch_of_mem {g : Nat → Nat} {x : Nat} (mem : x ∈ D) : patch D f g x = f x := if_pos mem

theorem patch_of_not_mem {g : Nat → Nat} {x : Nat} (mem : x ∉ D) : patch D f g x = g x :=
  if_neg mem

open Classical in
/-- An edge of `x` into `R`, where there is one. -/
noncomputable def stayMove (a : Arena) (R : Finset Nat) (x : Nat) : Nat :=
  if inside : ∃ y ∈ (a.vertex x).outgoing, y ∈ R then Classical.choose inside else x

theorem Subgame.stayMove_spec (subgame : a.Subgame R) {x : Nat} (inside : x ∈ R) :
    a.stayMove R x ∈ (a.vertex x).outgoing ∧ a.stayMove R x ∈ R := by
  have stays := subgame x inside
  rw [stayMove, dif_pos stays]
  exact Classical.choose_spec stays

end Choices

section Dominions

theorem dominion_empty (b : Bool) (R : Finset Nat) (f : Nat → Nat) : a.Dominion b R ∅ f where
  subset := Finset.empty_subset R
  stays x mem := absurd mem (Finset.notMem_empty x)
  traps x mem := absurd mem (Finset.notMem_empty x)
  cycles v l _ walk := by
    cases walk with
    | cons _ move _ => exact Finset.notMem_empty v move.1

/-- The least priority of a cycle inside a dominion, along moves that the
dominion allows between its vertices, favours its player. -/
theorem Dominion.favours_of_cycle (dominion : a.Dominion b R D f) {moves : Nat → Nat → Prop}
    {v : Nat} {l : List Nat} (walk : a.Walk moves (a.vertex v).priority v v (v :: l))
    (within : ∀ u ∈ v :: l, u ∈ D)
    (follows : ∀ u w, u ∈ D → w ∈ D → moves u w → a.Follows b R D f u w) :
    Favours b (a.vertex v).priority := by
  by_contra unfavoured
  exact dominion.cycles v l unfavoured ((walk.restrict within (within v List.mem_cons_self)).imp
    fun u w move => follows u w move.1 move.2.1 move.2.2)

/-- A dominion of a subgame stays one in a larger subgame when the other
player's vertices in it have no further edges there. -/
theorem Dominion.widen {R' : Finset Nat} (dominion : a.Dominion b R' D f) (sub : R' ⊆ R)
    (closed : ∀ x ∈ D, ¬ a.Owns b x → ∀ y ∈ (a.vertex x).outgoing, y ∈ R → y ∈ R') :
    a.Dominion b R D f where
  subset := dominion.subset.trans sub
  stays := dominion.stays
  traps x mem other y edge inR := dominion.traps x mem other y edge (closed x mem other y edge inR)
  cycles v l unfavoured walk := by
    refine dominion.cycles v l unfavoured (walk.imp ?_)
    rintro u w ⟨mem, edge, inR, chosen⟩
    refine ⟨mem, edge, ?_, chosen⟩
    by_cases owned : a.Owns b u
    · exact dominion.subset (chosen owned ▸ (dominion.stays u mem owned).2)
    · exact closed u mem owned w edge inR

/-- The attractor of a dominion is closed: from its vertices the player keeps
the play in it, by the dominion's choice on the dominion and the attractor
strategy elsewhere, and the other player cannot leave it inside `R`. -/
theorem Dominion.attractor_closed {X : Finset Nat} {g : Nat → Nat} (held : a.Dominion b R X g)
    {x : Nat} (mem : x ∈ a.attractor b R X) :
    (a.Owns b x → patch X g (a.attractMove b R X) x ∈ (a.vertex x).outgoing ∧
      patch X g (a.attractMove b R X) x ∈ a.attractor b R X) ∧
    (¬ a.Owns b x → ∀ y ∈ (a.vertex x).outgoing, y ∈ R → y ∈ a.attractor b R X) := by
  by_cases target : x ∈ X
  · rw [patch_of_mem target]
    refine ⟨fun owned => ?_, fun other y edge inR => ?_⟩
    · obtain ⟨edge, inX⟩ := held.stays x target owned
      exact ⟨edge, subset_attractor inX⟩
    · exact subset_attractor (held.traps x target other y edge inR)
  · rw [patch_of_not_mem target]
    refine ⟨fun owned => ?_, fun other y edge inR => (attractor_forced mem target other edge inR).1⟩
    obtain ⟨edge, _, attracted, _⟩ := attractor_strategy mem target owned
    exact ⟨edge, attracted⟩

/-- The attractor of a dominion of `b`, with a dominion of `b` in what is left
outside it, is a dominion of `b`. A cycle that enters the attractor stays in
it; there it either meets the first dominion, which it then never leaves, or
descends the attractor forever, which it cannot. -/
theorem Dominion.attractor_union {X E : Finset Nat} {g h : Nat → Nat} (held : a.Dominion b R X g)
    (rest : a.Dominion b (R \ a.attractor b R X) E h) :
    a.Dominion b R (a.attractor b R X ∪ E)
      (patch (R \ a.attractor b R X) h (patch X g (a.attractMove b R X))) := by
  set B := a.attractor b R X
  set G := patch (R \ B) h (patch X g (a.attractMove b R X))
  have outside : ∀ {x}, x ∈ B → G x = patch X g (a.attractMove b R X) x :=
    fun mem => patch_of_not_mem fun inRest => (Finset.mem_sdiff.1 inRest).2 mem
  have inRest : ∀ {x}, x ∈ E → G x = h x := fun mem => patch_of_mem (rest.subset mem)
  -- the moves of the union from a vertex of `B` stay in `B`
  have closedB : ∀ u w, u ∈ B → a.Follows b R (B ∪ E) G u w → w ∈ B := by
    rintro u w mem ⟨_, edge, inR, chosen⟩
    by_cases owned : a.Owns b u
    · rw [chosen owned, outside mem]
      exact ((held.attractor_closed mem).1 owned).2
    · exact (held.attractor_closed mem).2 owned w edge inR
  refine ⟨Finset.union_subset (attractor_subset held.subset)
      (rest.subset.trans Finset.sdiff_subset), fun x mem owned => ?_, fun x mem other y edge inR => ?_,
    fun v l unfavoured walk => ?_⟩
  · rcases Finset.mem_union.1 mem with attracted | inE
    · rw [outside attracted]
      obtain ⟨edge, stays⟩ := (held.attractor_closed attracted).1 owned
      exact ⟨edge, Finset.mem_union_left E stays⟩
    · rw [inRest inE]
      obtain ⟨edge, stays⟩ := rest.stays x inE owned
      exact ⟨edge, Finset.mem_union_right B stays⟩
  · by_cases attractedY : y ∈ B
    · exact Finset.mem_union_left E attractedY
    rcases Finset.mem_union.1 mem with attracted | inE
    · exact absurd ((held.attractor_closed attracted).2 other y edge inR) attractedY
    · exact Finset.mem_union_right B
        (rest.traps x inE other y edge (Finset.mem_sdiff.2 ⟨inR, attractedY⟩))
  have sources : ∀ u ∈ v :: l, u ∈ B ∪ E := walk.forall_mem fun u _ _ move => move.1
  by_cases entersB : ∃ u ∈ v :: l, u ∈ B
  · obtain ⟨u, mem, attracted⟩ := entersB
    have inB := walk.cycle_stays closedB mem attracted
    by_cases entersX : ∃ u ∈ v :: l, u ∈ X
    · -- the cycle lies in the first dominion
      obtain ⟨u, mem, target⟩ := entersX
      have closedX : ∀ u w, u ∈ X → a.Follows b R (B ∪ E) G u w → w ∈ X := by
        rintro u w inX ⟨_, edge, inR, chosen⟩
        by_cases owned : a.Owns b u
        · rw [chosen owned, outside (subset_attractor inX), patch_of_mem inX]
          exact (held.stays u inX owned).2
        · exact held.traps u inX owned w edge inR
      refine unfavoured (held.favours_of_cycle walk (walk.cycle_stays closedX mem target) ?_)
      rintro u w inX _ ⟨_, edge, inR, chosen⟩
      refine ⟨inX, edge, inR, fun owned => ?_⟩
      rw [chosen owned, outside (subset_attractor inX), patch_of_mem inX]
    · -- the cycle keeps to the attractor strategy outside `X`
      push Not at entersX
      have compliant : a.AttractorMoves b R X (a.Follows b R (B ∪ E) G) := by
        rintro u w ⟨_, edge, inR, chosen⟩ attracted target
        refine ⟨edge, inR, fun owned => ?_⟩
        rw [chosen owned, outside attracted, patch_of_not_mem target]
      exact not_cycle_attractor compliant walk (inB v List.mem_cons_self) entersX
  · -- the cycle lies in the second dominion
    push Not at entersB
    have inE : ∀ u ∈ v :: l, u ∈ E :=
      fun u mem => (Finset.mem_union.1 (sources u mem)).resolve_left (entersB u mem)
    refine unfavoured (rest.favours_of_cycle walk inE ?_)
    rintro u w inEU inEW ⟨_, edge, _, chosen⟩
    exact ⟨inEU, edge, rest.subset inEW, fun owned => (chosen owned).trans (inRest inEU)⟩

/-- When `b` holds all that is left of `R` outside its attractor to vertices of
the least priority `p` of `R`, and `p` favours `b`, then `b` holds all of `R`:
every cycle through the attractor has priorities above `p`, so it keeps to the
attractor strategy and cannot descend forever; every other cycle is one of the
dominion outside. -/
theorem dominion_of_attractor_least (subgame : a.Subgame R) {X : Finset Nat} {p : Nat}
    (least : ∀ x ∈ R, p ≤ (a.vertex x).priority) (atLeast : ∀ x ∈ X, (a.vertex x).priority = p)
    (favours : Favours b p)
    (rest : a.Dominion b (R \ a.attractor b R X) (R \ a.attractor b R X) f) :
    a.Dominion b R R
      (patch (R \ a.attractor b R X) f (patch X (a.stayMove R) (a.attractMove b R X))) := by
  set A := a.attractor b R X
  set F := patch (R \ A) f (patch X (a.stayMove R) (a.attractMove b R X))
  have onRest : ∀ {x}, x ∈ R \ A → F x = f x := fun free => patch_of_mem free
  have onAttractor : ∀ {x}, x ∉ R \ A → F x = patch X (a.stayMove R) (a.attractMove b R X) x :=
    fun free => patch_of_not_mem free
  have attracted : ∀ {x}, x ∈ R → x ∉ R \ A → x ∈ A := by
    intro x inside outside
    by_contra free
    exact outside (Finset.mem_sdiff.2 ⟨inside, free⟩)
  refine ⟨Finset.Subset.refl R, fun x inside owned => ?_, fun _ _ _ _ _ inR => inR,
    fun v l unfavoured walk => ?_⟩
  · by_cases free : x ∈ R \ A
    · rw [onRest free]
      obtain ⟨edge, stays⟩ := rest.stays x free owned
      exact ⟨edge, (Finset.mem_sdiff.1 stays).1⟩
    rw [onAttractor free]
    by_cases target : x ∈ X
    · rw [patch_of_mem target]
      exact subgame.stayMove_spec inside
    · rw [patch_of_not_mem target]
      obtain ⟨edge, inR, _, _⟩ := attractor_strategy (attracted inside free) target owned
      exact ⟨edge, inR⟩
  have sources : ∀ u ∈ v :: l, u ∈ R := walk.forall_mem fun u _ _ move => move.1
  have higher : p < (a.vertex v).priority := lt_of_le_of_ne (least v (sources v List.mem_cons_self))
    fun atP => unfavoured (atP ▸ favours)
  -- no walk through priorities at least that of `v` meets `X`
  have avoids : ∀ {x z : Nat} {l' : List Nat},
      a.Walk (a.Follows b R R F) (a.vertex v).priority x z l' → ∀ u ∈ l', u ∉ X := by
    intro x z l' walk'
    refine walk'.forall_mem fun u _ above _ target => ?_
    rw [atLeast u target] at above
    omega
  by_cases entersA : ∃ u ∈ v :: l, u ∈ A
  · obtain ⟨u, mem, attractedU⟩ := entersA
    obtain ⟨l', cycle⟩ := walk.rotate mem
    have compliant : a.AttractorMoves b R X (a.Follows b R R F) := by
      rintro x w ⟨_, edge, inR, chosen⟩ attractedX target
      refine ⟨edge, inR, fun owned => ?_⟩
      rw [chosen owned, onAttractor fun free => (Finset.mem_sdiff.1 free).2 attractedX,
        patch_of_not_mem target]
    exact not_cycle_attractor compliant cycle attractedU (avoids cycle)
  · push Not at entersA
    have within : ∀ u ∈ v :: l, u ∈ R \ A :=
      fun u mem => Finset.mem_sdiff.2 ⟨sources u mem, entersA u mem⟩
    refine unfavoured (rest.favours_of_cycle walk within ?_)
    rintro u w free freeW ⟨_, edge, _, chosen⟩
    exact ⟨free, edge, freeW, fun owned => (chosen owned).trans (onRest free)⟩

end Dominions

section Splitting

/-- The subgame `R` splits into a dominion of `b` and a dominion of the other
player on the rest. -/
def Splits (a : Arena) (b : Bool) (R : Finset Nat) : Prop :=
  ∃ D ⊆ R, (∃ f, a.Dominion b R D f) ∧ ∃ g, a.Dominion (!b) R (R \ D) g

theorem Splits.swap (splits : a.Splits b R) : a.Splits (!b) R := by
  obtain ⟨D, sub, ⟨f, dominion⟩, g, other⟩ := splits
  refine ⟨R \ D, Finset.sdiff_subset, ⟨g, other⟩, f, ?_⟩
  rw [Finset.sdiff_sdiff_eq_self sub, Bool.not_not]
  exact dominion

theorem splits_empty (b : Bool) : a.Splits b ∅ :=
  ⟨∅, Finset.Subset.refl ∅, ⟨id, dominion_empty b ∅ id⟩, id, by
    rw [Finset.sdiff_self]
    exact dominion_empty (!b) ∅ id⟩

theorem sdiff_eq_union {B E : Finset Nat} (within : B ⊆ R) (sub : E ⊆ R \ B) :
    R \ E = B ∪ ((R \ B) \ E) := by
  ext x
  have outside : x ∈ E → x ∉ B := fun mem => (Finset.mem_sdiff.1 (sub mem)).2
  simp only [Finset.mem_sdiff, Finset.mem_union]
  constructor
  · rintro ⟨inside, notE⟩
    by_cases attracted : x ∈ B
    · exact Or.inl attracted
    · exact Or.inr ⟨⟨inside, attracted⟩, notE⟩
  · rintro (attracted | ⟨⟨inside, _⟩, notE⟩)
    · exact ⟨within attracted, fun inE => outside inE attracted⟩
    · exact ⟨inside, notE⟩

/-- One round of the recursion: when `p` is the least priority of `R` and
favours `b`, and every smaller subgame splits, `R` splits. -/
theorem splits_of_least (subgame : a.Subgame R) {p : Nat}
    (least : ∀ x ∈ R, p ≤ (a.vertex x).priority) (reached : ∃ x ∈ R, (a.vertex x).priority = p)
    (favours : Favours b p) (smaller : ∀ S ⊂ R, a.Subgame S → a.Splits b S) : a.Splits b R := by
  set X := R.filter fun x => (a.vertex x).priority = p
  set A := a.attractor b R X
  have atLeast : ∀ x ∈ X, (a.vertex x).priority = p := fun x mem => (Finset.mem_filter.1 mem).2
  have nonempty : X.Nonempty := by
    obtain ⟨x, mem, atP⟩ := reached
    exact ⟨x, Finset.mem_filter.2 ⟨mem, atP⟩⟩
  obtain ⟨D, sub, ⟨f, held⟩, g, other⟩ :=
    smaller (R \ A) (sdiff_attractor_ssubset (Finset.filter_subset _ R) nonempty)
      subgame.sdiff_attractor
  by_cases empty : (R \ A) \ D = ∅
  · -- `b` holds all that is left, hence all of `R`
    have whole : D = R \ A := Finset.Subset.antisymm sub (Finset.sdiff_eq_empty_iff_subset.1 empty)
    rw [whole] at held
    refine ⟨R, Finset.Subset.refl R, ⟨_, dominion_of_attractor_least subgame least atLeast favours held⟩,
      id, ?_⟩
    rw [Finset.sdiff_self]
    exact dominion_empty (!b) R id
  · -- what the other player holds outside `A` is its dominion in `R`
    have heldR : a.Dominion (!b) R ((R \ A) \ D) g :=
      other.widen Finset.sdiff_subset fun x mem owner y edge inR =>
        mem_of_owns_not_attractor (other.subset mem) (Bool.not_not b ▸ owns_not.2 owner) edge inR
    have otherNonempty := Finset.nonempty_iff_ne_empty.2 empty
    obtain ⟨D', sub', ⟨f', held'⟩, g', other'⟩ :=
      smaller (R \ a.attractor (!b) R ((R \ A) \ D))
        (sdiff_attractor_ssubset heldR.subset otherNonempty) subgame.sdiff_attractor
    refine ⟨D', sub'.trans Finset.sdiff_subset, ⟨f', held'.widen Finset.sdiff_subset ?_⟩, ?_⟩
    · intro x mem owner y edge inR
      exact mem_of_owns_not_attractor (sub' mem) (owns_not.2 owner) edge inR
    · rw [sdiff_eq_union (attractor_subset heldR.subset) sub']
      exact ⟨_, heldR.attractor_union other'⟩

/-- Every subgame splits into a dominion of either player and a dominion of the
other player on the rest. -/
theorem Subgame.splits (subgame : a.Subgame R) (b : Bool) : a.Splits b R := by
  induction R using Finset.strongInduction generalizing b with
  | H R ih =>
    rcases R.eq_empty_or_nonempty with rfl | nonempty
    · exact splits_empty b
    -- the least priority of `R` and the player it favours
    have priorities := nonempty.image fun x => (a.vertex x).priority
    have least : ∀ x ∈ R, (R.image fun x => (a.vertex x).priority).min' priorities ≤
        (a.vertex x).priority := fun x mem => Finset.min'_le _ _ (Finset.mem_image_of_mem _ mem)
    have reached := Finset.mem_image.1 (Finset.min'_mem _ priorities)
    have favoured := splits_of_least subgame least reached rfl
      fun S proper sub => ih S proper sub _
    by_cases same : decide ((R.image fun x => (a.vertex x).priority).min' priorities % 2 = 0) = b
    · exact same ▸ favoured
    · exact Bool.eq_not.2 (Ne.symm same) ▸ favoured.swap

end Splitting

end Arena

end ParityGames
