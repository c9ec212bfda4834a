import ParityGames.Proofs.ArenaEdges
import ParityGames.Solver.Run
import ParityGames.Analysis.Summary

/-!
# Self-loops found in either list

`Arena.hasSelfLoop` looks for a vertex in the shorter of its two lists.  In an
intact arena an edge is listed as often at its source as at its target, so a
vertex is its own predecessor exactly when it is its own successor, and the
shortcut answers as the successor list does (`Intact.hasSelfLoop_eq`).  Every
reachable arena is intact, so the solver's test for vertices that a self-loop
settles and the summary's counts of self-loops and of components that can hold
a play all agree with that plain definition (`hasSelfLoop_iff_mem_outgoing`),
whatever graph library finds the components.  A library whose components
partition the nodes gives at most one component per vertex
(`Analysis.summarize_sccs_le`).
-/

namespace ParityGames

namespace Arena

variable {a : Arena}

/-- A vertex lies in its own predecessor list exactly when it lies in its own
successor list: the self-loops are counted alike in both. -/
theorem Intact.mem_incoming_self_iff (intact : a.Intact) (v : Nat) :
    v ∈ (a.vertex v).incoming ↔ v ∈ (a.vertex v).outgoing := by
  rw [← Array.count_pos_iff, ← Array.count_pos_iff, intact.count_eq v v]

/-- Searching the shorter list finds a self-loop exactly when the successor
list has one. -/
theorem Intact.hasSelfLoop_eq (intact : a.Intact) (v : Nat) :
    a.hasSelfLoop v = decide (v ∈ (a.vertex v).outgoing) := by
  unfold hasSelfLoop
  dsimp only
  split
  · rw [Array.contains_eq_mem, decide_eq_decide]
    exact intact.mem_incoming_self_iff v
  · exact Array.contains_eq_mem

end Arena

namespace Solver

variable {s : Solver}

/-- A self-loop settles a vertex when the vertex has one and either no other
edge or an owner who prefers its priority. -/
theorem settledBySelfLoop_iff (intact : s.arena.Intact) (v : Nat) :
    s.settledBySelfLoop v = true ↔ v ∈ (s.arena.vertex v).outgoing ∧
      ((s.arena.vertex v).outDegree ≤ 1 ∨
        (s.arena.vertex v).ownerEven = (s.arena.vertex v).priorityEven) := by
  unfold settledBySelfLoop
  dsimp only
  rw [intact.hasSelfLoop_eq v]
  by_cases several : (s.arena.vertex v).outDegree > 1
  · by_cases agrees : (s.arena.vertex v).ownerEven = (s.arena.vertex v).priorityEven
    · simp [several, agrees]
    · simp [several, agrees]
  · simp [several]
    omega

end Solver

namespace Analysis

variable {a : Arena}

theorem summarize_selfLoops (intact : a.Intact) (lib : Library) (hubs : Nat) :
    (summarize lib a hubs).selfLoops =
      ((List.range a.size).filter fun v => decide (v ∈ (a.vertex v).outgoing)).length := by
  unfold summarize
  split
  · rename_i empty
    simp [empty]
  · simp only [funext intact.hasSelfLoop_eq]

/-- The components that can hold a play are those with more than one vertex
or a vertex on a self-loop. -/
theorem summarize_nontrivialSccs (intact : a.Intact) (lib : Library) (hubs : Nat) :
    (summarize lib a hubs).nontrivialSccs =
      if a.size = 0 then 0
      else ((lib.components (SimpleGraph.ofArena a)).filter fun c =>
        c.length > 1 || c.any fun v => decide (v ∈ (a.vertex v).outgoing)).length := by
  unfold summarize
  split
  · rfl
  · simp only [funext intact.hasSelfLoop_eq]

/-- Adding simple edges keeps one successor list per node. -/
theorem size_foldl_addSimpleEdge (v : Vertex) (ws : List Nat) (succ : Array (Array Nat)) :
    (ws.foldl (fun succ w => if w == v.id then succ else addSimpleEdge succ v.id w) succ).size =
      succ.size := by
  induction ws generalizing succ with
  | nil => rfl
  | cons w ws ih =>
    rw [List.foldl_cons, ih]
    split
    · rfl
    · exact Array.size_modify ..

/-- The simple graph of an arena has a node for every vertex. -/
theorem SimpleGraph.size_ofArena (a : Arena) : (SimpleGraph.ofArena a).size = a.size := by
  have step : ∀ (vs : List Vertex) (succ : Array (Array Nat)),
      (vs.foldl (fun succ v => v.outgoing.toList.foldl (fun succ w =>
        if w == v.id then succ else addSimpleEdge succ v.id w) succ) succ).size = succ.size := by
    intro vs
    induction vs with
    | nil => intro succ; rfl
    | cons v vs ih =>
      intro succ
      rw [List.foldl_cons, ih, size_foldl_addSimpleEdge]
  simp only [SimpleGraph.ofArena, SimpleGraph.size, ← Array.foldl_toList, step,
    Array.size_replicate, Arena.size]

/-- With a library whose components partition the nodes, a summary counts at
most one component per vertex, and the nontrivial ones among them. -/
theorem summarize_sccs_le {lib : Library} (parts : lib.Partitions) (a : Arena) (hubs : Nat) :
    (summarize lib a hubs).nontrivialSccs ≤ (summarize lib a hubs).sccs ∧
      (summarize lib a hubs).sccs ≤ a.size := by
  unfold summarize
  split
  · exact ⟨Nat.le_refl 0, Nat.zero_le _⟩
  · let comps := lib.components (SimpleGraph.ofArena a)
    refine ⟨List.length_filter_le _ _, ?_⟩
    -- every component holds a vertex, and no vertex lies in two
    have each : ∀ n ∈ comps.map List.length, 1 ≤ n := by
      intro n mem
      obtain ⟨c, inside, rfl⟩ := List.mem_map.1 mem
      exact List.length_pos_iff.2 (parts.nonempty _ c inside)
    calc comps.length = (comps.map List.length).length := (List.length_map _).symm
      _ ≤ (comps.map List.length).sum := List.length_le_sum_of_one_le _ each
      _ = comps.flatten.length := List.length_flatten.symm
      _ = (List.range (SimpleGraph.ofArena a).size).length := (parts.perm _).length_eq
      _ = a.size := by rw [List.length_range, SimpleGraph.size_ofArena]

end Analysis

namespace Arena

variable {a : Arena}

/-- In every arena the operations build, a vertex has a self-loop by the test
on the shorter list exactly when it is its own successor; so the solver's test
for vertices a self-loop settles, and the summary's count of self-loops and of
components that can hold a play, read the successor lists alone. -/
theorem hasSelfLoop_iff_mem_outgoing (reachable : a.Reachable) :
    (∀ v, a.hasSelfLoop v = true ↔ v ∈ (a.vertex v).outgoing) ∧
    (∀ s : Solver, s.arena = a → ∀ v, s.settledBySelfLoop v = true ↔
      v ∈ (a.vertex v).outgoing ∧
        ((a.vertex v).outDegree ≤ 1 ∨ (a.vertex v).ownerEven = (a.vertex v).priorityEven)) ∧
    ∀ lib hubs, (Analysis.summarize lib a hubs).selfLoops =
        ((List.range a.size).filter fun v => decide (v ∈ (a.vertex v).outgoing)).length ∧
      (Analysis.summarize lib a hubs).nontrivialSccs =
        if a.size = 0 then 0
        else ((lib.components (Analysis.SimpleGraph.ofArena a)).filter fun c =>
          c.length > 1 || c.any fun v => decide (v ∈ (a.vertex v).outgoing)).length := by
  have intact := reachable.intact
  refine ⟨fun v => ?_, fun s onArena v => ?_, fun lib hubs =>
    ⟨Analysis.summarize_selfLoops intact lib hubs, Analysis.summarize_nontrivialSccs intact lib hubs⟩⟩
  · rw [intact.hasSelfLoop_eq v, decide_eq_true_iff]
  · subst onArena
    exact Solver.settledBySelfLoop_iff intact v

/-- Two vertices, the first with an edge to the second and a self-loop: the
shortcut searches its shorter predecessor list and finds the loop, and finds
none at the second. -/
theorem hasSelfLoop_iff_mem_outgoing_two :
    let a := (((Arena.new 2).addEdge 0 1).toOption.getD {}).addEdge 0 0 |>.toOption.getD {}
    a.Reachable ∧ (a.hasSelfLoop 0 = true ↔ 0 ∈ (a.vertex 0).outgoing) ∧
      (a.hasSelfLoop 1 = true ↔ 1 ∈ (a.vertex 1).outgoing) := by
  intro a
  have first : (Arena.new 2).Reachable := .new 2
  have second := @Reachable.addEdge _ _ 0 1 first rfl
  have reachable : a.Reachable := @Reachable.addEdge _ _ 0 0 second rfl
  exact ⟨reachable, (hasSelfLoop_iff_mem_outgoing reachable).1 0,
    (hasSelfLoop_iff_mem_outgoing reachable).1 1⟩

end Arena

end ParityGames
