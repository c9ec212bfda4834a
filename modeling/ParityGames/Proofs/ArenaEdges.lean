import ParityGames.Proofs.ArenaInvariant
import Mathlib

/-!
# The lists and counters of an arena agree

Every vertex lists its successors and its predecessors, and the arena keeps
its number of edges and its largest priority.  The operations keep all of
them in step (`Arena.Intact`): an edge `u → v` is listed as often among the
successors of `u` as among the predecessors of `v`, every listed id names a
vertex, the edge count counts the listed edges, and the largest priority is
the largest priority of a vertex, `0` when there is none.  A vertex is known
by its position, so vertex `i` has id `i`, and a refused operation returns no
arena, so the caller keeps the one it had.

Clearing a vertex removes exactly the edges at it: its lists are emptied, it
is dropped from its neighbours' lists, and every other edge keeps its
multiplicity (`Intact.clearVertex_count`); the edge count drops by the edges
at it, a self-loop counted once.  On an intact arena `validate` only finds
vertices without a successor, and reports the first (`Intact.validate_eq`).
-/

namespace ParityGames

namespace Arena

section Counting

/-- Counting every id below `n` in a list of such ids counts the list. -/
theorem sum_count_eq_size {xs : Array Nat} {n : Nat} (inside : ∀ x ∈ xs, x < n) :
    ∑ u ∈ Finset.range n, xs.count u = xs.size := by
  rcases xs with ⟨l⟩
  simp only [List.count_toArray, List.size_toArray]
  simp only [List.mem_toArray] at inside
  induction l with
  | nil => simp
  | cons x l ih =>
    have head : x < n := inside x List.mem_cons_self
    simp only [List.count_cons, Finset.sum_add_distrib, List.length_cons, beq_iff_eq]
    rw [ih fun y mem => inside y (List.mem_cons_of_mem x mem), Finset.sum_ite_eq,
      if_pos (Finset.mem_range.2 head)]

/-- Dropping every occurrence of `i` shortens a list by its count of `i`. -/
theorem size_filter_add_count (xs : Array Nat) (i : Nat) :
    (xs.filter (· != i)).size + xs.count i = xs.size := by
  rcases xs with ⟨l⟩
  simp only [List.filter_toArray', List.size_toArray, List.count_toArray,
    List.count_eq_length_filter]
  rw [Nat.add_comm]
  exact (List.length_eq_length_filter_add (· == i)).symm

theorem count_filter_of_ne {xs : Array Nat} {i v : Nat} (other : v ≠ i) :
    (xs.filter (· != i)).count v = xs.count v :=
  Array.count_filter (by simpa using other)

theorem count_filter_self (xs : Array Nat) (i : Nat) : (xs.filter (· != i)).count i = 0 :=
  Array.count_eq_zero.2 (by simp [Array.mem_filter])

/-- A sum over a list of the ids below `n` is the sum over `Finset.range n`. -/
theorem sum_map_range (n : Nat) (f : Nat → Nat) :
    ((List.range n).map f).sum = ∑ i ∈ Finset.range n, f i := by
  induction n with
  | zero => simp
  | succ n ih => rw [List.sum_range_succ, Finset.sum_range_succ, ih]

/-- A sum in which one term is replaced: the term `g i` of an id below `n`
traded for `c`. -/
theorem sum_ite_add {n i : Nat} (inside : i < n) (c : Nat) (g : Nat → Nat) :
    (∑ u ∈ Finset.range n, if u = i then c else g u) + g i = c + ∑ u ∈ Finset.range n, g u := by
  have single : ∀ d : Nat, (∑ u ∈ Finset.range n, if u = i then d else 0) = d := by
    intro d
    rw [Finset.sum_ite_eq' (Finset.range n) i (fun _ => d), if_pos (Finset.mem_range.2 inside)]
  calc (∑ u ∈ Finset.range n, if u = i then c else g u) + g i
      = ∑ u ∈ Finset.range n, ((if u = i then c else g u) + if u = i then g i else 0) := by
        rw [Finset.sum_add_distrib, single]
    _ = ∑ u ∈ Finset.range n, (g u + if u = i then c else 0) := by
        refine Finset.sum_congr rfl fun u _ => ?_
        by_cases atI : u = i
        · subst atI
          simp [Nat.add_comm]
        · simp [atI]
    _ = c + ∑ u ∈ Finset.range n, g u := by
        rw [Finset.sum_add_distrib, single, Nat.add_comm]

end Counting

section Priorities

theorem foldl_max_le {l : List Vertex} {init m : Nat} (atMost : init ≤ m)
    (each : ∀ v ∈ l, v.priority ≤ m) : l.foldl (fun m v => max m v.priority) init ≤ m := by
  induction l generalizing init with
  | nil => exact atMost
  | cons v l ih =>
    rw [List.foldl_cons]
    exact ih (Nat.max_le.2 ⟨atMost, each v List.mem_cons_self⟩)
      fun w mem => each w (List.mem_cons_of_mem v mem)

theorem foldl_max_attained (l : List Vertex) (init : Nat) :
    l.foldl (fun m v => max m v.priority) init = init ∨
      ∃ v ∈ l, v.priority = l.foldl (fun m v => max m v.priority) init := by
  induction l generalizing init with
  | nil => exact .inl rfl
  | cons v l ih =>
    rw [List.foldl_cons]
    rcases ih (max init v.priority) with same | ⟨w, mem, attained⟩
    · rw [same]
      rcases Nat.le_total init v.priority with below | above
      · exact .inr ⟨v, List.mem_cons_self, (Nat.max_eq_right below).symm⟩
      · exact .inl (Nat.max_eq_left above)
    · exact .inr ⟨w, List.mem_cons_of_mem v mem, attained⟩

/-- The scanned maximum is the largest priority of a vertex: a bound that a
vertex attains, or `0`. -/
theorem scanMaxPriority_eq {a : Arena} {m : Nat}
    (each : ∀ v < a.size, (a.vertex v).priority ≤ m)
    (attained : m = 0 ∨ ∃ v < a.size, (a.vertex v).priority = m) :
    scanMaxPriority a.vertices = m := by
  apply Nat.le_antisymm
  · rw [scanMaxPriority, ← Array.foldl_toList, ← map_vertex_range]
    apply foldl_max_le (Nat.zero_le m)
    intro w mem
    obtain ⟨v, inside, rfl⟩ := List.mem_map.1 mem
    exact each v (List.mem_range.1 inside)
  · rcases attained with zero | ⟨v, inside, rfl⟩
    · rw [zero]
      exact Nat.zero_le _
    · exact priority_le_scanMaxPriority a inside

theorem scanMaxPriority_attained (a : Arena) :
    scanMaxPriority a.vertices = 0 ∨
      ∃ v < a.size, (a.vertex v).priority = scanMaxPriority a.vertices := by
  rw [scanMaxPriority, ← Array.foldl_toList, ← map_vertex_range]
  rcases foldl_max_attained ((List.range a.size).map a.vertex) 0 with zero | ⟨w, mem, attained⟩
  · exact .inl zero
  · obtain ⟨v, inside, rfl⟩ := List.mem_map.1 mem
    exact .inr ⟨v, List.mem_range.1 inside, attained⟩

/-- Arenas whose vertices carry the same priorities scan the same maximum,
whatever else changed. -/
theorem scanMaxPriority_congr {a b : Arena} (grows : a.size ≤ b.size)
    (priority : ∀ v, (b.vertex v).priority = (a.vertex v).priority) :
    scanMaxPriority b.vertices = scanMaxPriority a.vertices := by
  apply scanMaxPriority_eq
  · intro v _
    rw [priority]
    by_cases old : v < a.size
    · exact priority_le_scanMaxPriority a old
    · rw [vertex_of_size_le (Nat.le_of_not_lt old)]
      exact Nat.zero_le _
  · rcases scanMaxPriority_attained a with zero | ⟨v, inside, attained⟩
    · exact .inl zero
    · exact .inr ⟨v, Nat.lt_of_lt_of_le inside grows, by rw [priority, attained]⟩

end Priorities

/-- The lists and counters of an arena agree: every successor is a vertex, an
edge is listed as often at its source as at its target, the edge count counts
the listed edges, the largest priority is scanned from the vertices, and
every vertex carries its position as id. -/
structure Intact (a : Arena) : Prop where
  target_lt : ∀ u, ∀ v ∈ (a.vertex u).outgoing, v < a.size
  count_eq : ∀ u v, (a.vertex u).outgoing.count v = (a.vertex v).incoming.count u
  edges_eq : a.edges = ∑ u ∈ Finset.range a.size, (a.vertex u).outgoing.size
  maxPriority_eq : a.maxPriority = scanMaxPriority a.vertices
  numbered : a.Numbered

variable {a b : Arena}

section Views

theorem Intact.mem_outgoing_of_mem_incoming (intact : a.Intact) {u v : Nat}
    (mem : u ∈ (a.vertex v).incoming) : v ∈ (a.vertex u).outgoing := by
  rw [← Array.count_pos_iff, intact.count_eq]
  exact Array.count_pos_iff.2 mem

/-- Every predecessor is a vertex. -/
theorem Intact.source_lt (intact : a.Intact) (v : Nat) : ∀ u ∈ (a.vertex v).incoming, u < a.size :=
  fun _ mem => lt_size_of_mem_outgoing (intact.mem_outgoing_of_mem_incoming mem)

theorem Intact.consistent (intact : a.Intact) : a.Consistent where
  priority_le v inside := by
    rw [intact.maxPriority_eq]
    exact priority_le_scanMaxPriority a inside
  target_lt v _ := intact.target_lt v
  incoming_sound _ _ _ mem := intact.mem_outgoing_of_mem_incoming mem

/-- The edge count counts the predecessor lists as well: each edge is listed
once at its target. -/
theorem Intact.edges_eq_incoming (intact : a.Intact) :
    a.edges = ∑ v ∈ Finset.range a.size, (a.vertex v).incoming.size := by
  calc a.edges = ∑ u ∈ Finset.range a.size, (a.vertex u).outgoing.size := intact.edges_eq
    _ = ∑ u ∈ Finset.range a.size, ∑ v ∈ Finset.range a.size, (a.vertex u).outgoing.count v :=
        Finset.sum_congr rfl fun u _ => (sum_count_eq_size (intact.target_lt u)).symm
    _ = ∑ v ∈ Finset.range a.size, ∑ u ∈ Finset.range a.size, (a.vertex v).incoming.count u := by
        rw [Finset.sum_comm]
        exact Finset.sum_congr rfl fun v _ => Finset.sum_congr rfl fun u _ => intact.count_eq u v
    _ = ∑ v ∈ Finset.range a.size, (a.vertex v).incoming.size :=
        Finset.sum_congr rfl fun v _ => sum_count_eq_size (intact.source_lt v)

/-- The largest priority is a bound of the priorities that a vertex attains,
or `0`. -/
theorem Intact.maxPriority_spec (intact : a.Intact) :
    (∀ v < a.size, (a.vertex v).priority ≤ a.maxPriority) ∧
      (a.maxPriority = 0 ∨ ∃ v < a.size, (a.vertex v).priority = a.maxPriority) := by
  rw [intact.maxPriority_eq]
  exact ⟨fun v inside => priority_le_scanMaxPriority a inside, scanMaxPriority_attained a⟩

end Views

section Operations

/-- An operation that keeps every list, every id and the edge count keeps an
arena intact once its largest priority is scanned again. -/
theorem Intact.of_same_lists (intact : a.Intact) (size : b.size = a.size)
    (outgoing : ∀ v, (b.vertex v).outgoing = (a.vertex v).outgoing)
    (incoming : ∀ v, (b.vertex v).incoming = (a.vertex v).incoming)
    (ids : ∀ v, (b.vertex v).id = (a.vertex v).id)
    (edges : b.edges = a.edges) (maxPriority : b.maxPriority = scanMaxPriority b.vertices) :
    b.Intact where
  target_lt u v mem := by
    rw [outgoing] at mem
    rw [size]
    exact intact.target_lt u v mem
  count_eq u v := by
    rw [outgoing, incoming]
    exact intact.count_eq u v
  edges_eq := by
    rw [edges, size, intact.edges_eq]
    exact Finset.sum_congr rfl fun u _ => by rw [outgoing]
  maxPriority_eq := maxPriority
  numbered v inside := by
    rw [ids]
    exact intact.numbered v (size ▸ inside)

theorem Intact.resize (intact : a.Intact) (n : Int) : (a.resize n).2.Intact := by
  have grows := size_le_size_resize a n
  have counters : (a.resize n).2.edges = a.edges ∧ (a.resize n).2.maxPriority = a.maxPriority := by
    unfold Arena.resize
    split <;> exact ⟨rfl, rfl⟩
  refine ⟨?_, ?_, ?_, ?_, ?_⟩
  · intro u v mem
    rw [outgoing_vertex_resize] at mem
    exact Nat.lt_of_lt_of_le (intact.target_lt u v mem) grows
  · intro u v
    rw [outgoing_vertex_resize, incoming_vertex_resize]
    exact intact.count_eq u v
  · -- the added vertices have no edges
    rw [counters.1, intact.edges_eq]
    simp only [outgoing_vertex_resize]
    apply Finset.sum_subset (Finset.range_subset_range.2 grows)
    intro u _ outside
    rw [vertex_of_size_le (by simpa using outside)]
    rfl
  · rw [counters.2, intact.maxPriority_eq]
    exact (scanMaxPriority_congr grows fun v => priority_vertex_resize a n v).symm
  · -- the old vertices keep their ids and the added ones get their positions
    intro v inside
    rw [vertex_resize]
    split
    · rfl
    · rename_i old
      exact intact.numbered v (by omega)

/-- Changing a field of one vertex other than its lists and its priority
keeps an arena intact. -/
theorem Intact.modify_label (intact : a.Intact) (i : Nat) (f : Vertex → Vertex)
    (outgoing : ∀ w, (f w).outgoing = w.outgoing) (incoming : ∀ w, (f w).incoming = w.incoming)
    (priority : ∀ w, (f w).priority = w.priority) (ids : ∀ w, (f w).id = w.id) :
    (a.modify i f).Intact := by
  have same : ∀ v, (a.modify i f).vertex v = a.vertex v ∨ (a.modify i f).vertex v = f (a.vertex v) := by
    intro v
    rw [vertex_modify]
    split
    · exact .inr rfl
    · exact .inl rfl
  apply intact.of_same_lists (size_modify _ _ _)
  · intro v
    rcases same v with same | same <;> simp [same, outgoing]
  · intro v
    rcases same v with same | same <;> simp [same, incoming]
  · intro v
    rcases same v with same | same <;> simp [same, ids]
  · rfl
  · rw [maxPriority_modify, intact.maxPriority_eq]
    refine (scanMaxPriority_congr (by simp) fun v => ?_).symm
    rcases same v with same | same <;> simp [same, priority]

theorem Intact.setOwner (intact : a.Intact) {id : Int} {p : Player}
    (ok : a.setOwner id p = .ok b) : b.Intact := by
  unfold Arena.setOwner at ok
  split at ok
  · cases ok
    exact intact.modify_label _ _ (fun _ => rfl) (fun _ => rfl) (fun _ => rfl) (fun _ => rfl)
  · cases ok

theorem Intact.setLabel (intact : a.Intact) {id : Int} {l : Label}
    (ok : a.setLabel id l = .ok b) : b.Intact := by
  unfold Arena.setLabel at ok
  split at ok
  · cases ok
    exact intact.modify_label _ _ (fun _ => rfl) (fun _ => rfl) (fun _ => rfl) (fun _ => rfl)
  · cases ok

/-- Setting a priority changes that vertex's priority only; the largest
priority is raised to it, scanned again when the vertex held it and drops
below it, and kept otherwise. -/
theorem setPriority_spec {id p : Int} (ok : a.setPriority id p = .ok b) :
    id.toNat < a.size ∧ b.size = a.size ∧ b.edges = a.edges ∧
      (∀ v, b.vertex v = if v = id.toNat then { a.vertex v with priority := p.toNat }
        else a.vertex v) ∧
      b.maxPriority = if a.maxPriority < p.toNat then p.toNat
        else if (a.vertex id.toNat).priority = a.maxPriority ∧
          p.toNat < (a.vertex id.toNat).priority then scanMaxPriority b.vertices
        else a.maxPriority := by
  unfold Arena.setPriority at ok
  split at ok
  · cases ok
  rename_i known
  split at ok
  · cases ok
  have inside : id.toNat < a.size := by
    have := has_iff.1 (by simpa using known)
    omega
  have vertexAt : ∀ v, (a.modify id.toNat fun v => { v with priority := p.toNat }).vertex v =
      if v = id.toNat then { a.vertex v with priority := p.toNat } else a.vertex v := by
    intro v
    rw [vertex_modify]
    by_cases atId : v = id.toNat
    · subst atId
      simp [inside]
    · simp [atId, Ne.symm atId]
  dsimp only at ok
  simp only [maxPriority_modify, gt_iff_lt] at ok
  split at ok
  · rename_i raised
    cases ok
    exact ⟨inside, size_modify _ _ _, rfl, vertexAt, by simp [raised]⟩
  rename_i notRaised
  simp only [Bool.and_eq_true, beq_iff_eq, decide_eq_true_eq] at ok
  split at ok
  · rename_i lowered
    cases ok
    exact ⟨inside, size_modify _ _ _, rfl, vertexAt, by rw [if_neg notRaised, if_pos lowered]⟩
  · rename_i kept
    cases ok
    exact ⟨inside, size_modify _ _ _, rfl, vertexAt, by rw [if_neg notRaised, if_neg kept]; rfl⟩

theorem Intact.setPriority (intact : a.Intact) {id p : Int} (ok : a.setPriority id p = .ok b) :
    b.Intact := by
  obtain ⟨inside, size, edges, vertexAt, maxPriority⟩ := setPriority_spec ok
  have priorityAt : ∀ v, (b.vertex v).priority =
      if v = id.toNat then p.toNat else (a.vertex v).priority := by
    intro v
    rw [vertexAt]
    split <;> rfl
  obtain ⟨bounded, attained⟩ := intact.maxPriority_spec
  apply intact.of_same_lists size (fun v => by rw [vertexAt]; split <;> rfl)
    (fun v => by rw [vertexAt]; split <;> rfl) (fun v => by rw [vertexAt]; split <;> rfl) edges
  rw [maxPriority]
  split
  · -- the new priority is above every other one
    rename_i raised
    symm
    apply scanMaxPriority_eq
    · intro v inside'
      rw [priorityAt]
      split
      · exact Nat.le_refl _
      · exact Nat.le_of_lt (Nat.lt_of_le_of_lt (bounded v (size ▸ inside')) raised)
    · exact .inr ⟨id.toNat, size ▸ inside, by rw [priorityAt, if_pos rfl]⟩
  split
  · rfl
  · -- the largest priority stays attained: by another vertex, or by this one unchanged
    rename_i notRaised kept
    symm
    apply scanMaxPriority_eq
    · intro v inside'
      rw [priorityAt]
      split
      · omega
      · exact bounded v (size ▸ inside')
    · rcases attained with zero | ⟨w, inside', atW⟩
      · exact .inl zero
      · by_cases atId : w = id.toNat
        · subst atId
          refine .inr ⟨id.toNat, size ▸ inside, ?_⟩
          rw [priorityAt, if_pos rfl]
          have notLowered : ¬ p.toNat < (a.vertex id.toNat).priority := fun lowered => kept ⟨atW, lowered⟩
          omega
        · exact .inr ⟨w, size ▸ inside', by rw [priorityAt, if_neg atId, atW]⟩

theorem edges_addEdge {src dst : Int} (ok : a.addEdge src dst = .ok b) : b.edges = a.edges + 1 := by
  unfold Arena.addEdge at ok
  split at ok
  · cases ok
  split at ok
  · cases ok
  cases ok
  rfl

theorem Intact.addEdge (intact : a.Intact) {src dst : Int} (ok : a.addEdge src dst = .ok b) :
    b.Intact := by
  obtain ⟨size, maxPriority, srcInside, dstInside, vertexAt⟩ := addEdge_spec ok
  have countOut : ∀ u v, (b.vertex u).outgoing.count v =
      (a.vertex u).outgoing.count v + if u = src.toNat ∧ v = dst.toNat then 1 else 0 := by
    intro u v
    rw [(vertexAt u).1]
    by_cases atSource : u = src.toNat
    · rw [if_pos atSource, Array.count_push]
      by_cases atTarget : v = dst.toNat
      · simp [atSource, atTarget]
      · simp [atTarget, Ne.symm atTarget]
    · simp [atSource]
  have countIn : ∀ u v, (b.vertex v).incoming.count u =
      (a.vertex v).incoming.count u + if u = src.toNat ∧ v = dst.toNat then 1 else 0 := by
    intro u v
    rw [(vertexAt v).2.1]
    by_cases atTarget : v = dst.toNat
    · rw [if_pos atTarget, Array.count_push]
      by_cases atSource : u = src.toNat
      · simp [atSource, atTarget]
      · simp [atSource, Ne.symm atSource]
    · simp [atTarget]
  refine ⟨?_, ?_, ?_, ?_, ?_⟩
  · intro u v mem
    rw [(vertexAt u).1] at mem
    rw [size]
    split at mem
    · rcases Array.mem_push.1 mem with old | new
      · exact intact.target_lt u v old
      · exact new ▸ dstInside
    · exact intact.target_lt u v mem
  · intro u v
    rw [countOut, countIn, intact.count_eq]
  · -- the source lists one more successor
    rw [edges_addEdge ok, intact.edges_eq, size]
    have sizeAt : ∀ u, (b.vertex u).outgoing.size =
        (a.vertex u).outgoing.size + if u = src.toNat then 1 else 0 := by
      intro u
      rw [(vertexAt u).1]
      split <;> simp
    rw [Finset.sum_congr rfl fun u _ => sizeAt u, Finset.sum_add_distrib,
      Finset.sum_ite_eq' (Finset.range a.size) src.toNat (fun _ => 1),
      if_pos (Finset.mem_range.2 srcInside)]
  · rw [maxPriority, intact.maxPriority_eq]
    exact (scanMaxPriority_congr (Nat.le_of_eq size.symm) fun v => (vertexAt v).2.2.1).symm
  · intro v inside
    rw [(vertexAt v).2.2.2]
    exact intact.numbered v (size ▸ inside)

theorem edges_foldl_modify (g : Vertex → Vertex) (i : Nat) (ts : List Nat) (a : Arena) :
    (ts.foldl (fun a t => if t == i then a else a.modify t g) a).edges = a.edges := by
  induction ts generalizing a with
  | nil => rfl
  | cons t ts ih =>
    rw [List.foldl_cons, ih]
    split <;> rfl

/-- Clearing a vertex lowers the edge count by the edges at it, a self-loop
counted once. -/
theorem edges_clearVertex {id : Int} (ok : a.clearVertex id = .ok b) :
    b.edges = a.edges - ((a.vertex id.toNat).outgoing.size + (a.vertex id.toNat).incoming.size -
      selfLoops (a.vertex id.toNat)) := by
  unfold Arena.clearVertex at ok
  split at ok
  · cases ok
  cases ok
  simp only [← Array.foldl_toList, edges_foldl_modify]

/-- Clearing a vertex removes exactly the edges at it: an edge between two
other vertices keeps its multiplicity, and none is left at the cleared one. -/
theorem Intact.clearVertex_count (intact : a.Intact) {id : Int} (ok : a.clearVertex id = .ok b)
    (u v : Nat) : (b.vertex u).outgoing.count v =
      if u = id.toNat ∨ v = id.toNat then 0 else (a.vertex u).outgoing.count v := by
  obtain ⟨-, -, -, cleared, vertexAt⟩ := clearVertex_spec ok
  by_cases atId : u = id.toNat
  · rw [atId, cleared, if_pos (.inl rfl)]
    rfl
  rw [(vertexAt u atId).1]
  by_cases toId : v = id.toNat
  · -- every edge into the cleared vertex is dropped; the others were never there
    rw [if_pos (Or.inr toId : u = id.toNat ∨ v = id.toNat), toId]
    split
    · exact count_filter_self _ _
    · rename_i notPredecessor
      rw [intact.count_eq]
      exact Array.count_eq_zero.2 notPredecessor
  · rw [if_neg (not_or.2 ⟨atId, toId⟩ : ¬ (u = id.toNat ∨ v = id.toNat))]
    split
    · exact count_filter_of_ne toId
    · rfl

/-- The predecessor lists after clearing, as `Intact.clearVertex_count` has
the successor lists. -/
theorem Intact.clearVertex_count_incoming (intact : a.Intact) {id : Int}
    (ok : a.clearVertex id = .ok b) (u v : Nat) : (b.vertex v).incoming.count u =
      if u = id.toNat ∨ v = id.toNat then 0 else (a.vertex v).incoming.count u := by
  obtain ⟨-, -, -, cleared, vertexAt⟩ := clearVertex_spec ok
  by_cases atId : v = id.toNat
  · rw [atId, cleared, if_pos (.inr rfl)]
    rfl
  rw [(vertexAt v atId).2.1]
  by_cases fromId : u = id.toNat
  · rw [if_pos (Or.inl fromId : u = id.toNat ∨ v = id.toNat), fromId]
    split
    · exact count_filter_self _ _
    · rename_i notSuccessor
      rw [← intact.count_eq]
      exact Array.count_eq_zero.2 notSuccessor
  · rw [if_neg (not_or.2 ⟨fromId, atId⟩ : ¬ (u = id.toNat ∨ v = id.toNat))]
    split
    · exact count_filter_of_ne fromId
    · rfl

/-- After clearing, a successor list is the old one less the cleared
vertex: its length and the cleared vertex's count add up to the old length,
and the cleared vertex itself keeps no successor. -/
theorem Intact.clearVertex_size (intact : a.Intact) {id : Int} (ok : a.clearVertex id = .ok b)
    (u : Nat) : (b.vertex u).outgoing.size +
      (if u = id.toNat then (a.vertex u).outgoing.size else (a.vertex u).outgoing.count id.toNat) =
        (a.vertex u).outgoing.size := by
  obtain ⟨-, -, -, cleared, vertexAt⟩ := clearVertex_spec ok
  by_cases atId : u = id.toNat
  · rw [if_pos atId, atId, cleared]
    exact Nat.zero_add _
  rw [if_neg atId, (vertexAt u atId).1]
  split
  · exact size_filter_add_count _ _
  · rename_i notPredecessor
    rw [intact.count_eq, Array.count_eq_zero.2 notPredecessor, Nat.add_zero]

theorem Intact.clearVertex (intact : a.Intact) {id : Int} (ok : a.clearVertex id = .ok b) :
    b.Intact := by
  obtain ⟨size, maxPriority, inside, cleared, vertexAt⟩ := clearVertex_spec ok
  have counted := intact.clearVertex_count ok
  refine ⟨?_, ?_, ?_, maxPriority, ?_⟩
  · intro u v mem
    rw [size]
    apply intact.target_lt u v
    rw [← Array.count_pos_iff] at mem ⊢
    rw [counted] at mem
    split at mem
    · exact absurd mem (Nat.lt_irrefl 0)
    · exact mem
  · intro u v
    rw [counted, intact.clearVertex_count_incoming ok, intact.count_eq]
  · -- the edges at the cleared vertex: its successors, and its predecessors but for self-loops
    have atCleared : (∑ u ∈ Finset.range a.size, if u = id.toNat then
        (a.vertex u).outgoing.size else (a.vertex u).outgoing.count id.toNat) +
          selfLoops (a.vertex id.toNat) =
        (a.vertex id.toNat).outgoing.size + (a.vertex id.toNat).incoming.size := by
      have predecessors : ∑ u ∈ Finset.range a.size, (a.vertex u).outgoing.count id.toNat =
          (a.vertex id.toNat).incoming.size := by
        rw [← sum_count_eq_size (intact.source_lt id.toNat)]
        exact Finset.sum_congr rfl fun u _ => intact.count_eq u id.toNat
      rw [selfLoops, intact.numbered id.toNat inside, ← predecessors]
      have traded := sum_ite_add inside (a.vertex id.toNat).outgoing.size
        fun u => (a.vertex u).outgoing.count id.toNat
      rw [← traded]
      refine congrArg (· + _) (Finset.sum_congr rfl fun u _ => ?_)
      split <;> simp_all
    have total : a.edges = (∑ u ∈ Finset.range a.size, (b.vertex u).outgoing.size) +
        ∑ u ∈ Finset.range a.size, if u = id.toNat then (a.vertex u).outgoing.size
          else (a.vertex u).outgoing.count id.toNat := by
      rw [intact.edges_eq, ← Finset.sum_add_distrib]
      exact Finset.sum_congr rfl fun u _ => (intact.clearVertex_size ok u).symm
    rw [edges_clearVertex ok, size]
    omega
  · -- the cleared vertex is reset to its id, the others keep theirs
    intro v inside
    by_cases atId : v = id.toNat
    · rw [atId, cleared]
    · rw [(vertexAt v atId).2.2]
      exact intact.numbered v (size ▸ inside)

end Operations

/-- Every arena the operations build is intact. -/
theorem Reachable.intact {a : Arena} (reachable : a.Reachable) : a.Intact := by
  induction reachable with
  | new n =>
    have empty : ({} : Arena).Intact :=
      ⟨fun _ _ mem => by simp [vertex] at mem, fun _ _ => by simp [vertex],
        by simp [size], by simp [scanMaxPriority], fun _ inside => by simp [size] at inside⟩
    exact empty.resize n
  | resize n _ ih => exact ih.resize n
  | setOwner _ ok ih => exact ih.setOwner ok
  | setPriority _ ok ih => exact ih.setPriority ok
  | setLabel _ ok ih => exact ih.setLabel ok
  | addEdge _ ok ih => exact ih.addEdge ok
  | clearVertex _ ok ih => exact ih.clearVertex ok

section Validation

theorem findSome?_congr {α β : Type} {l : List α} {f g : α → Option β}
    (same : ∀ x ∈ l, f x = g x) : l.findSome? f = l.findSome? g := by
  induction l with
  | nil => rfl
  | cons x l ih =>
    rw [List.findSome?_cons, List.findSome?_cons, same x List.mem_cons_self,
      ih fun y mem => same y (List.mem_cons_of_mem x mem)]

/-- The first id below `n` that passes a test, found by `findSome?`. -/
theorem findSome?_range_eq_some {α : Type} {p : Nat → Bool} {f : Nat → α} (n : Nat) (e : α) :
    (List.range n).findSome? (fun i => if p i then some (f i) else none) = some e ↔
      ∃ i < n, p i ∧ (∀ j < i, p j = false) ∧ e = f i := by
  induction n generalizing e with
  | zero => simp
  | succ n ih =>
    rw [List.range_succ, List.findSome?_append, List.findSome?_singleton]
    cases found : (List.range n).findSome? (fun i => if p i then some (f i) else none) with
    | some e' =>
      obtain ⟨i, inside, holds, before, rfl⟩ := (ih e').1 found
      rw [Option.some_or, Option.some.injEq]
      constructor
      · rintro rfl
        exact ⟨i, by omega, holds, before, rfl⟩
      · -- two first ids that pass are the same id
        rintro ⟨i', _, holds', before', rfl⟩
        rcases Nat.lt_trichotomy i i' with earlier | same | later
        · exact absurd holds (by rw [before' i earlier]; simp)
        · rw [same]
        · exact absurd holds' (by rw [before i' later]; simp)
    | none =>
      have fails : ∀ j < n, p j = false := by
        intro j inside
        have := List.findSome?_eq_none_iff.1 found j (List.mem_range.2 inside)
        simpa using this
      rw [Option.none_or]
      constructor
      · intro last
        split at last
        · rename_i holds
          cases last
          exact ⟨n, by omega, holds, fails, rfl⟩
        · cases last
      · rintro ⟨i, inside, holds, _, rfl⟩
        have atLast : i = n := by
          by_contra other
          rw [fails i (by omega)] at holds
          cases holds
        subst atLast
        simp [holds]

theorem findSome?_range_eq_none {α : Type} {p : Nat → Bool} {f : Nat → α} (n : Nat) :
    (List.range n).findSome? (fun i => if p i then some (f i) else none) = none ↔
      ∀ i < n, p i = false := by
  rw [List.findSome?_eq_none_iff]
  simp

/-- On an intact arena every vertex has its position as id and every listed
successor is a vertex, so the only fault of the successor lists is a vertex
without one. -/
theorem Intact.outgoingFault_eq (intact : a.Intact) :
    a.outgoingFault = (List.range a.size).findSome? fun i =>
      if (a.vertex i).outgoing.isEmpty then some (.noSuccessor i) else none := by
  unfold outgoingFault
  apply findSome?_congr
  intro i mem
  dsimp only
  rw [intact.numbered i (List.mem_range.1 mem), bne_self_eq_false, if_neg Bool.false_ne_true]
  split
  · rfl
  · rw [Option.map_eq_none_iff, List.find?_eq_none]
    intro t mem
    simp only [Bool.not_eq_true', Bool.not_eq_false]
    exact has_iff.2 ⟨Int.natCast_nonneg t, by exact_mod_cast intact.target_lt i t (by simpa using mem)⟩

theorem getElem?_foldl_count (ts : List Nat) (acc : Array Nat) (v : Nat) :
    (ts.foldl (fun acc t => acc.modify t (· + 1)) acc)[v]? = acc[v]?.map (· + ts.count v) := by
  induction ts generalizing acc with
  | nil => simp
  | cons t ts ih =>
    rw [List.foldl_cons, ih, Array.getElem?_modify, List.count_cons]
    by_cases same : t = v
    · subst same
      cases acc[t]? <;> simp [Nat.add_assoc, Nat.add_comm 1]
    · cases acc[v]? <;> simp [same]

/-- The incoming counts that `validate` expects are the counts of each vertex
among the successor lists. -/
theorem getElem?_expectedIncoming (a : Arena) (v : Nat) :
    a.expectedIncoming[v]? = if v < a.size then
      some (∑ u ∈ Finset.range a.size, (a.vertex u).outgoing.count v) else none := by
  have outer : ∀ (vs : List Vertex) (acc : Array Nat),
      (vs.foldl (fun acc w => w.outgoing.toList.foldl (fun acc t => acc.modify t (· + 1)) acc)
        acc)[v]? = acc[v]?.map (· + (vs.map fun w => w.outgoing.count v).sum) := by
    intro vs
    induction vs with
    | nil => intro acc; simp
    | cons w vs ih =>
      intro acc
      rw [List.foldl_cons, ih, getElem?_foldl_count, List.map_cons, List.sum_cons,
        Array.count_toList]
      cases acc[v]? <;> simp [Nat.add_assoc]
  unfold expectedIncoming
  simp only [← Array.foldl_toList]
  rw [outer, ← map_vertex_range, List.map_map, Array.getElem?_replicate]
  split
  · simp only [Option.map_some, Nat.zero_add, Function.comp_def]
    rw [sum_map_range]
  · rfl

/-- On an intact arena the incoming lists match the successor lists. -/
theorem Intact.incomingFault_eq_none (intact : a.Intact) : a.incomingFault = none := by
  unfold incomingFault
  rw [List.findSome?_eq_none_iff]
  intro i mem
  have inside := List.mem_range.1 mem
  have expected : a.expectedIncoming[i]?.getD 0 = (a.vertex i).incoming.size := by
    rw [getElem?_expectedIncoming, if_pos inside, Option.getD_some,
      ← sum_count_eq_size (intact.source_lt i)]
    exact Finset.sum_congr rfl fun u _ => intact.count_eq u i
  dsimp only
  rw [expected, bne_self_eq_false, if_neg Bool.false_ne_true, Option.map_eq_none_iff,
    List.find?_eq_none]
  intro s mem
  simp only [Bool.not_eq_true', Bool.not_eq_false]
  exact has_iff.2 ⟨Int.natCast_nonneg s, by exact_mod_cast intact.source_lt i s (by simpa using mem)⟩

/-- On an intact arena `validate` fails exactly on a vertex without a
successor, and names the first. -/
theorem Intact.validate_eq (intact : a.Intact) :
    a.validate = match (List.range a.size).findSome? (fun i =>
      if (a.vertex i).outgoing.isEmpty then some (ArenaError.noSuccessor i) else none) with
    | some e => .error e
    | none => .ok () := by
  rw [← intact.outgoingFault_eq]
  unfold validate
  cases a.outgoingFault with
  | some e => rfl
  | none => simp only [intact.incomingFault_eq_none]

theorem Intact.validate_eq_ok_iff (intact : a.Intact) :
    a.validate = .ok () ↔ ∀ i < a.size, (a.vertex i).outgoing ≠ #[] := by
  have passes : a.validate = .ok () ↔ (List.range a.size).findSome? (fun i =>
      if (a.vertex i).outgoing.isEmpty then some (ArenaError.noSuccessor i) else none) = none := by
    rw [intact.validate_eq]
    cases (List.range a.size).findSome? fun i =>
      if (a.vertex i).outgoing.isEmpty then some (ArenaError.noSuccessor i) else none <;> simp
  rw [passes, findSome?_range_eq_none]
  simp

theorem Intact.validate_eq_error_iff (intact : a.Intact) (e : ArenaError) :
    a.validate = .error e ↔ ∃ i < a.size, (a.vertex i).outgoing = #[] ∧
      (∀ j < i, (a.vertex j).outgoing ≠ #[]) ∧ e = .noSuccessor i := by
  have fails : a.validate = .error e ↔ (List.range a.size).findSome? (fun i =>
      if (a.vertex i).outgoing.isEmpty then some (ArenaError.noSuccessor i) else none) = some e := by
    rw [intact.validate_eq]
    cases (List.range a.size).findSome? fun i =>
      if (a.vertex i).outgoing.isEmpty then some (ArenaError.noSuccessor i) else none <;> simp
  rw [fails, findSome?_range_eq_some]
  simp

end Validation

/-- Whatever operations built an arena, from any arguments: vertex `i` has id
`i`; every listed id names a vertex; an edge `u → v` is listed as often among
the successors of `u` as among the predecessors of `v`; the edge count is the
length of all successor lists, and of all predecessor lists; the largest
priority is the largest priority of a vertex, `0` when there is none; clearing
a vertex resets it to a blank vertex with its id, leaves it in no list and
keeps every other edge with its multiplicity; and `validate` passes exactly
when every vertex has a successor, and otherwise names the first vertex
without one. -/
theorem reachable_lists_agree {a : Arena} (reachable : a.Reachable) :
    (∀ i < a.size, (a.vertex i).id = i) ∧
    (∀ u, (∀ v ∈ (a.vertex u).outgoing, v < a.size) ∧ ∀ v ∈ (a.vertex u).incoming, v < a.size) ∧
    (∀ u v, (a.vertex u).outgoing.count v = (a.vertex v).incoming.count u) ∧
    a.edges = ∑ u ∈ Finset.range a.size, (a.vertex u).outgoing.size ∧
    a.edges = ∑ v ∈ Finset.range a.size, (a.vertex v).incoming.size ∧
    (∀ v < a.size, (a.vertex v).priority ≤ a.maxPriority) ∧
    (a.maxPriority = 0 ∨ ∃ v < a.size, (a.vertex v).priority = a.maxPriority) ∧
    (∀ (id : Int) (b : Arena), a.clearVertex id = .ok b →
      b.vertex id.toNat = { id := id.toNat } ∧
      (∀ u, id.toNat ∉ (b.vertex u).outgoing ∧ id.toNat ∉ (b.vertex u).incoming) ∧
      ∀ u v, (b.vertex u).outgoing.count v =
        if u = id.toNat ∨ v = id.toNat then 0 else (a.vertex u).outgoing.count v) ∧
    (a.validate = .ok () ↔ ∀ i < a.size, (a.vertex i).outgoing ≠ #[]) ∧
    ∀ e, a.validate = .error e ↔ ∃ i < a.size, (a.vertex i).outgoing = #[] ∧
      (∀ j < i, (a.vertex j).outgoing ≠ #[]) ∧ e = .noSuccessor i := by
  have intact := reachable.intact
  obtain ⟨bounded, attained⟩ := intact.maxPriority_spec
  refine ⟨intact.numbered, fun u => ⟨intact.target_lt u, intact.source_lt u⟩, intact.count_eq,
    intact.edges_eq,
    intact.edges_eq_incoming, bounded, attained, ?_, intact.validate_eq_ok_iff,
    intact.validate_eq_error_iff⟩
  intro id b ok
  have counted := intact.clearVertex_count ok
  refine ⟨(clearVertex_spec ok).2.2.2.1, fun u => ⟨?_, ?_⟩, counted⟩
  · rw [← Array.count_eq_zero, counted, if_pos (.inr rfl)]
  · rw [← Array.count_eq_zero, intact.clearVertex_count_incoming ok, if_pos (.inl rfl)]

/-- Two vertices, an edge `0 → 1` and a self-loop at `1` of priority `3`:
the arena the operations build passes `validate`. -/
theorem reachable_lists_agree_loop :
    Reachable { vertices := #[{ outgoing := #[1] },
                  { id := 1, priority := 3, outgoing := #[1], incoming := #[0, 1] }],
                edges := 2, maxPriority := 3 } ∧
      validate { vertices := #[{ outgoing := #[1] },
                   { id := 1, priority := 3, outgoing := #[1], incoming := #[0, 1] }],
                 edges := 2, maxPriority := 3 } = .ok () := by
  have edge : (Arena.new 2).addEdge 0 1 =
      .ok { vertices := #[{ outgoing := #[1] }, { id := 1, incoming := #[0] }], edges := 1 } := rfl
  have loop : ({ vertices := #[{ outgoing := #[1] }, { id := 1, incoming := #[0] }],
                 edges := 1 } : Arena).addEdge 1 1 =
      .ok { vertices := #[{ outgoing := #[1] }, { id := 1, outgoing := #[1], incoming := #[0, 1] }],
            edges := 2 } := rfl
  have raised : ({ vertices := #[{ outgoing := #[1] },
                     { id := 1, outgoing := #[1], incoming := #[0, 1] }],
                   edges := 2 } : Arena).setPriority 1 3 =
      .ok { vertices := #[{ outgoing := #[1] },
              { id := 1, priority := 3, outgoing := #[1], incoming := #[0, 1] }],
            edges := 2, maxPriority := 3 } := rfl
  have built := (((Reachable.new 2).addEdge edge).addEdge loop).setPriority raised
  exact ⟨built, ((reachable_lists_agree built).2.2.2.2.2.2.2.2.1).2 (by decide)⟩

end Arena

end ParityGames
