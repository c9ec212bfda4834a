import ParityGames.Proofs.Regions

/-!
# The parity game of an arena

Even owns the vertices whose owner is even and Odd all the others. A play
moves along the edges forever; Even wins it when the least priority it meets
infinitely often is even, Odd when it is odd. A strategy for Odd picks an edge
from every history that ends at a vertex Odd owns, and wins from a vertex when
Odd wins every play from there that follows it (`OddWins`).

Strategies that look only at the current vertex are enough, and a *dominion*
says so for a set of vertices: player `b` keeps the plays of a subgame in it
with a positional choice, and every cycle of those moves has its least priority
favouring `b`. A play of those moves is won by `b` (`Dominion.winsPlay`): the
least priority among the vertices it visits again and again is that of a cycle
the play closes between two late visits.
-/

namespace ParityGames

namespace Arena

variable {a : Arena}

section Plays

/-- Player `b` owns `x`: `true` stands for Even, which owns the vertices whose
owner is even, and `false` for Odd, which owns all the others. -/
def Owns (a : Arena) (b : Bool) (x : Nat) : Prop := (a.vertex x).owner.isEven = b

theorem owns_not {b : Bool} {x : Nat} : a.Owns (!b) x ↔ ¬ a.Owns b x := by
  unfold Owns
  cases b <;> simp

/-- A priority favours Even when it is even and Odd when it is odd. -/
def Favours (b : Bool) (p : Nat) : Prop := decide (p % 2 = 0) = b

theorem favours_not {b : Bool} {p : Nat} (favours : Favours b p) : ¬ Favours (!b) p := by
  unfold Favours at *
  rw [favours]
  cases b <;> decide

theorem favours_true_iff {p : Nat} : Favours true p ↔ p % 2 = 0 := by
  simp [Favours]

/-- Player `b` wins a play when the least priority the play meets at
arbitrarily late steps favours `b`. -/
def WinsPlay (a : Arena) (b : Bool) (π : Nat → Nat) : Prop :=
  ∃ p, Favours b p ∧ (∀ N, ∃ i, N ≤ i ∧ (a.vertex (π i)).priority = p) ∧
    ∃ N, ∀ i, N ≤ i → p ≤ (a.vertex (π i)).priority

/-- No play is won by both players. -/
theorem WinsPlay.not_other {b : Bool} {π : Nat → Nat} (wins : a.WinsPlay b π) :
    ¬ a.WinsPlay (!b) π := by
  rintro ⟨q, favoursQ, oftenQ, N, aboveQ⟩
  obtain ⟨p, favoursP, oftenP, M, aboveP⟩ := wins
  obtain ⟨i, later, atI⟩ := oftenP (max M N)
  obtain ⟨j, later', atJ⟩ := oftenQ (max M N)
  have first : q ≤ p := atI ▸ aboveQ i (le_of_max_le_right later)
  have second : p ≤ q := atJ ▸ aboveP j (le_of_max_le_left later')
  exact favours_not favoursP (Nat.le_antisymm second first ▸ favoursQ)

/-- The vertices of a play up to step `i`. -/
def history (π : Nat → Nat) (i : Nat) : List Nat := (List.range (i + 1)).map π

/-- Odd wins from `v`: some choice of edge for every history that ends at a
vertex Odd owns makes Odd win every play from `v` that follows it. -/
def OddWins (a : Arena) (v : Nat) : Prop :=
  ∃ τ : List Nat → Nat,
    (∀ h x, x < a.size → a.Owns false x → τ (h ++ [x]) ∈ (a.vertex x).outgoing) ∧
    ∀ π : Nat → Nat, π 0 = v → (∀ i, π (i + 1) ∈ (a.vertex (π i)).outgoing) →
      (∀ i, a.Owns false (π i) → π (i + 1) = τ (history π i)) → a.WinsPlay false π

end Plays

section Recurrence

/-- The play visits `x` at arbitrarily late steps. -/
def Recurs (π : Nat → Nat) (x : Nat) : Prop := ∀ N, ∃ i, N ≤ i ∧ π i = x

/-- A play in a finite set visits, from some step on, only vertices it visits
at arbitrarily late steps: the others have a last visit, and there are finitely
many of them. -/
theorem eventually_recurs {R : Finset Nat} {π : Nat → Nat} (inside : ∀ i, π i ∈ R) :
    ∃ N, ∀ i, N ≤ i → Recurs π (π i) := by
  classical
  have last : ∀ x, ¬ Recurs π x → ∃ N, ∀ i, N ≤ i → π i ≠ x := by
    intro x rare
    unfold Recurs at rare
    push Not at rare
    exact rare
  let bound : Nat → Nat := fun x => if rare : Recurs π x then 0 else Classical.choose (last x rare)
  refine ⟨R.sup bound, fun i later => ?_⟩
  by_contra rare
  have beyond := Classical.choose_spec (last (π i) rare)
  have below : bound (π i) ≤ R.sup bound := Finset.le_sup (inside i)
  simp only [bound, dif_neg rare] at below
  exact beyond i (le_trans below later) rfl

/-- The steps of a play from `i` to `i + d` are a walk when each of them is a
move from a vertex of priority at least `k`. -/
theorem walk_of_play {moves : Nat → Nat → Prop} {k : Nat} {π : Nat → Nat} :
    ∀ (d i : Nat), (∀ t, i ≤ t → t < i + d → k ≤ (a.vertex (π t)).priority ∧ moves (π t) (π (t + 1))) →
      a.Walk moves k (π i) (π (i + d)) ((List.range' i d).map π) := by
  intro d
  induction d with
  | zero => intro i _; exact .nil (π i)
  | succ d ih =>
    intro i steps
    obtain ⟨prio, move⟩ := steps i (Nat.le_refl i) (by omega)
    have rest := ih (i + 1) fun t low high => steps t (by omega) (by omega)
    rw [show i + 1 + d = i + (d + 1) by omega] at rest
    rw [List.range'_succ, List.map_cons]
    exact .cons prio move rest

end Recurrence

section Dominions

/-- The moves of a subgame `R` from the vertices of `D` when player `b` follows
`f`: along an edge into `R`, to `f x` where `b` owns `x`. -/
def Follows (a : Arena) (b : Bool) (R D : Finset Nat) (f : Nat → Nat) (x y : Nat) : Prop :=
  x ∈ D ∧ y ∈ (a.vertex x).outgoing ∧ y ∈ R ∧ (a.Owns b x → y = f x)

/-- Every vertex of `R` has an edge into `R`. -/
def Subgame (a : Arena) (R : Finset Nat) : Prop := ∀ x ∈ R, ∃ y ∈ (a.vertex x).outgoing, y ∈ R

/-- A dominion of player `b` in the subgame `R`, held by the positional choice
`f`: `b` keeps the play in `D`, the other player cannot leave it inside `R`,
and every cycle of these moves has its least priority favouring `b`. -/
structure Dominion (a : Arena) (b : Bool) (R D : Finset Nat) (f : Nat → Nat) : Prop where
  subset : D ⊆ R
  stays : ∀ x ∈ D, a.Owns b x → f x ∈ (a.vertex x).outgoing ∧ f x ∈ D
  traps : ∀ x ∈ D, ¬ a.Owns b x → ∀ y ∈ (a.vertex x).outgoing, y ∈ R → y ∈ D
  cycles : ∀ v l, ¬ Favours b (a.vertex v).priority →
    ¬ a.Walk (a.Follows b R D f) (a.vertex v).priority v v (v :: l)

variable {b : Bool} {R D : Finset Nat} {f : Nat → Nat}

theorem Dominion.follows_mem (dominion : a.Dominion b R D f) {x y : Nat}
    (move : a.Follows b R D f x y) : y ∈ D := by
  obtain ⟨inside, edge, inR, chosen⟩ := move
  by_cases owned : a.Owns b x
  · rw [chosen owned]
    exact (dominion.stays x inside owned).2
  · exact dominion.traps x inside owned y edge inR

/-- A play that starts in a dominion and keeps to its moves from wherever it is
in the dominion keeps to them forever. -/
theorem Dominion.follows_always (dominion : a.Dominion b R D f) {π : Nat → Nat} (start : π 0 ∈ D)
    (step : ∀ i, π i ∈ D → a.Follows b R D f (π i) (π (i + 1))) :
    ∀ i, a.Follows b R D f (π i) (π (i + 1)) := by
  have inD : ∀ i, π i ∈ D := by
    intro i
    induction i with
    | zero => exact start
    | succ i ih => exact dominion.follows_mem (step i ih)
  exact fun i => step i (inD i)

/-- Player `b` wins every play of the moves of one of its dominions. Among the
vertices the play visits at arbitrarily late steps take one of least priority:
from some step on the play meets no smaller priority, so two later visits to
that vertex close a cycle whose least priority it has. -/
theorem Dominion.winsPlay (dominion : a.Dominion b R D f) {π : Nat → Nat}
    (follows : ∀ i, a.Follows b R D f (π i) (π (i + 1))) : a.WinsPlay b π := by
  classical
  obtain ⟨N, recurs⟩ := eventually_recurs fun i => dominion.subset (follows i).1
  have recurring : ∃ p, ∃ x, Recurs π x ∧ (a.vertex x).priority = p :=
    ⟨_, π N, recurs N (Nat.le_refl N), rfl⟩
  obtain ⟨x, recursX, atX⟩ := Nat.find_spec recurring
  have least : ∀ i, N ≤ i → Nat.find recurring ≤ (a.vertex (π i)).priority :=
    fun i later => Nat.find_min' recurring ⟨π i, recurs i later, rfl⟩
  -- two visits to `x` after step `N` close a cycle through priorities at least that of `x`
  obtain ⟨i, later, atI⟩ := recursX N
  obtain ⟨j, after, atJ⟩ := recursX (i + 1)
  have walk := walk_of_play (a := a) (k := (a.vertex x).priority) (j - i) i fun t low _ =>
    ⟨atX ▸ least t (by omega), follows t⟩
  rw [show i + (j - i) = j by omega, atJ, atI,
    show j - i = (j - i - 1) + 1 by omega, List.range'_succ, List.map_cons, atI] at walk
  refine ⟨Nat.find recurring, ?_, fun M => ?_, N, least⟩
  · by_contra unfavoured
    exact dominion.cycles x _ (atX ▸ unfavoured) walk
  · obtain ⟨t, later', atT⟩ := recursX M
    exact ⟨t, later', by rw [atT, atX]⟩

end Dominions

end Arena

end ParityGames
