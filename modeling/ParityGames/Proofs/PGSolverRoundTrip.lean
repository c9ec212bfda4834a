import ParityGames.Proofs.PGSolverLines
import ParityGames.Proofs.ArenaEdges
import ParityGames.Pipeline.Runner
import Mathlib

/-!
# Reading back a written game

`read_write_restores` says that reading the PGSolver text of an arena gives
back the same game, for every arena the operations build that passes
`validate`, whose owners are Even or Odd, whose lines fit the reader's buffer
and whose numbers fit in 64 signed bits.  The arena read back has the same
size, edge count and largest priority; every vertex has the same owner,
priority, label and successors in the same order, and its predecessors are the
same multiset, sorted by id.  So it is written as the same text, and the game
hash does not change.

The text side is `PGSolverLines`: the written lines scan into the records of
the vertices in id order, and the ids pass their check.  Here the records are
defined one by one into a fresh arena.  `Rebuilt` is what holds after the
first `k` of them, and `Rebuilt.defineLine` is its step.
-/

namespace ParityGames

namespace Arena

/-! ## Operations on a vertex inside the arena -/

section Inside

variable {a b : Arena}

theorem has_of_lt {k : Nat} (inside : k < a.size) : a.has k = true :=
  has_iff.2 ⟨by omega, by omega⟩

theorem setOwner_of_lt {k : Nat} (inside : k < a.size) (p : Player) :
    a.setOwner k p = .ok (a.modify k fun v => { v with owner := p }) := by
  simp [Arena.setOwner, has_iff, inside]

theorem setLabel_of_lt {k : Nat} (inside : k < a.size) (l : Label) :
    a.setLabel k l = .ok (a.modify k fun v => { v with label := l }) := by
  simp [Arena.setLabel, has_iff, inside]

theorem setPriority_of_lt {k : Nat} (inside : k < a.size) (p : Nat) :
    ∃ b, a.setPriority k p = .ok b := by
  unfold Arena.setPriority
  rw [has_of_lt inside, Bool.not_true, if_neg Bool.false_ne_true, if_neg (by omega)]
  dsimp only
  split_ifs <;> exact ⟨_, rfl⟩

theorem addEdge_of_lt {src dst : Nat} (source : src < a.size) (target : dst < a.size) :
    ∃ b, a.addEdge src dst = .ok b := by
  unfold Arena.addEdge
  rw [has_of_lt source, has_of_lt target]
  exact ⟨_, rfl⟩

/-- Adding an edge keeps every owner and label. -/
theorem addEdge_keeps {src dst : Int} (ok : a.addEdge src dst = .ok b) (v : Nat) :
    (b.vertex v).owner = (a.vertex v).owner ∧ (b.vertex v).label = (a.vertex v).label := by
  unfold Arena.addEdge at ok
  split at ok
  · cases ok
  split at ok
  · cases ok
  cases ok
  rw [vertex_setEdges, vertex_modify, vertex_modify]
  split_ifs <;> simp

end Inside

theorem vertex_new (n : Nat) (u : Nat) :
    (Arena.new n).vertex u = { id := if u < n then u else 0 } := by
  have grown : (({} : Arena).resize n).2.size = n := size_new n
  rw [Arena.new, vertex_resize, grown, vertex_of_size_le (by simp [Arena.size])]
  by_cases inside : u < n
  · rw [if_pos ⟨by simp [Arena.size], inside⟩, if_pos inside]
  · rw [if_neg fun within => inside within.2, if_neg inside]

/-! ## Defining a vertex -/

/-- Setting the owner, priority and label of a vertex inside the arena, in
that order, changes these three fields of that vertex and nothing else. -/
theorem setOwner_setPriority_setLabel {a : Arena} (reachable : a.Reachable) {k : Nat} (inside : k < a.size)
    (o : Player) (p : Nat) (l : Label) :
    ∃ a₁ a₂ a₃, a.setOwner k o = .ok a₁ ∧ a₁.setPriority k p = .ok a₂ ∧ a₂.setLabel k l = .ok a₃ ∧
      a₃.Reachable ∧ a₃.size = a.size ∧
      ∀ u, a₃.vertex u = if u = k then { a.vertex u with owner := o, priority := p, label := l } else a.vertex u := by
  have owned := setOwner_of_lt inside o
  obtain ⟨a₂, prioritised⟩ := setPriority_of_lt (a := a.modify k fun v => { v with owner := o })
    (by simpa using inside) p
  obtain ⟨-, size₂, -, vertex₂, -⟩ := setPriority_spec prioritised
  have labelled := setLabel_of_lt (a := a₂) (by simpa [size₂] using inside) l
  refine ⟨_, a₂, _, owned, prioritised, labelled, ((reachable.setOwner owned).setPriority prioritised).setLabel labelled,
    by simp [size₂], fun u => ?_⟩
  rw [vertex_modify, vertex₂, vertex_modify, Int.toNat_natCast]
  by_cases same : u = k
  · subst same
    simp [inside, size₂]
  · simp [same, Ne.symm same]

/-- Adding edges from `src` to targets inside the arena, whatever a step does
with a failure, appends the targets to the successors of `src` and `src` to
the predecessors of each target, once per edge, and changes nothing else. -/
theorem foldlM_addEdge {ε : Type} (step : Arena → Nat → Except ε Arena) (src : Nat)
    (adds : ∀ b t c, b.addEdge src t = .ok c → step b t = .ok c) {b : Arena} (reachable : b.Reachable)
    (inside : src < b.size) (ts : List Nat) (targets : ∀ t ∈ ts, t < b.size) :
    ∃ c, ts.foldlM step b = .ok c ∧ c.Reachable ∧ c.size = b.size ∧
      ∀ u, (c.vertex u).owner = (b.vertex u).owner ∧ (c.vertex u).priority = (b.vertex u).priority ∧
        (c.vertex u).label = (b.vertex u).label ∧
        (c.vertex u).outgoing.toList = (b.vertex u).outgoing.toList ++ (if u = src then ts else []) ∧
        (c.vertex u).incoming.toList = (b.vertex u).incoming.toList ++ List.replicate (ts.count u) src := by
  induction ts generalizing b with
  | nil => exact ⟨b, rfl, reachable, rfl, fun u => by simp⟩
  | cons t ts ih =>
    obtain ⟨b₁, added⟩ := addEdge_of_lt inside (targets t List.mem_cons_self)
    obtain ⟨size₁, -, -, -, vertex₁⟩ := addEdge_spec added
    obtain ⟨c, folded, reachableC, sizeC, vertexC⟩ :=
      ih (reachable.addEdge added) (size₁ ▸ inside) (fun s mem => size₁ ▸ targets s (List.mem_cons_of_mem t mem))
    refine ⟨c, by rw [List.foldlM_cons, adds b t b₁ added]; exact folded, reachableC, sizeC.trans size₁,
      fun u => ?_⟩
    obtain ⟨owner, label⟩ := addEdge_keeps added u
    obtain ⟨outgoing₁, incoming₁, priority₁, -⟩ := vertex₁ u
    obtain ⟨ownerC, priorityC, labelC, outgoingC, incomingC⟩ := vertexC u
    simp only [Int.toNat_natCast] at outgoing₁ incoming₁
    refine ⟨ownerC.trans owner, priorityC.trans priority₁, labelC.trans label, ?_, ?_⟩
    · rw [outgoingC, outgoing₁]
      split <;> simp
    · rw [incomingC, incoming₁]
      split
      next target =>
        subst target
        simp [List.replicate_succ]
      next other =>
        simp [Ne.symm other]

/-- Defining vertex `k`: once its owner, priority and label are set, adding its
edges to targets inside the arena appends them to its successors and `k` to
the predecessors of each target once per edge; every other vertex keeps its
fields. -/
theorem foldlM_addEdge_fields {ε : Type} (step : Arena → Nat → Except ε Arena) {k : Nat}
    (adds : ∀ b t c, b.addEdge k t = .ok c → step b t = .ok c) {a b : Arena} (reachable : b.Reachable)
    (size : b.size = a.size) (inside : k < a.size) {o : Player} {p : Nat} {l : Label}
    (fields : ∀ u, b.vertex u =
      if u = k then { a.vertex u with owner := o, priority := p, label := l } else a.vertex u)
    (ts : List Nat) (targets : ∀ t ∈ ts, t < a.size) :
    ∃ c, ts.foldlM step b = .ok c ∧ c.Reachable ∧ c.size = a.size ∧
      (∀ u, (c.vertex u).incoming.toList = (a.vertex u).incoming.toList ++ List.replicate (ts.count u) k) ∧
      ((c.vertex k).owner = o ∧ (c.vertex k).priority = p ∧ (c.vertex k).label = l ∧
        (c.vertex k).outgoing.toList = (a.vertex k).outgoing.toList ++ ts) ∧
      ∀ u ≠ k, (c.vertex u).owner = (a.vertex u).owner ∧ (c.vertex u).priority = (a.vertex u).priority ∧
        (c.vertex u).label = (a.vertex u).label ∧ (c.vertex u).outgoing = (a.vertex u).outgoing := by
  obtain ⟨c, folded, reachableC, sizeC, vertexC⟩ :=
    foldlM_addEdge step k adds reachable (size ▸ inside) ts (fun t mem => size ▸ targets t mem)
  refine ⟨c, folded, reachableC, sizeC.trans size, fun u => ?_, ?_, fun u other => ?_⟩
  · rw [(vertexC u).2.2.2.2, fields]
    split <;> rfl
  · obtain ⟨owner, priority, label, outgoing, -⟩ := vertexC k
    simp only [fields, if_true] at owner priority label outgoing
    exact ⟨owner, priority, label, by simpa using outgoing⟩
  · obtain ⟨owner, priority, label, outgoing, -⟩ := vertexC u
    simp only [fields, if_neg other] at owner priority label outgoing
    exact ⟨owner, priority, label, by simpa [other] using outgoing⟩

end Arena

namespace PGSolver

open Arena Text

/-! ## Defining one read vertex -/

/-- Adding the edges from the vertex of a read line to successors inside the
arena appends them to its outgoing list and the vertex to each target's
incoming list, once per edge, and changes nothing else. -/
theorem foldlM_addSuccessor (r : VertexLine) {b : Arena} (reachable : b.Reachable) (inside : r.id < b.size)
    (ts : List Nat) (targets : ∀ t ∈ ts, t < b.size) :
    ∃ c, ts.foldlM (addSuccessor r) b = pure c ∧ c.Reachable ∧ c.size = b.size ∧
      ∀ u, (c.vertex u).owner = (b.vertex u).owner ∧ (c.vertex u).priority = (b.vertex u).priority ∧
        (c.vertex u).label = (b.vertex u).label ∧
        (c.vertex u).outgoing.toList = (b.vertex u).outgoing.toList ++ (if u = r.id then ts else []) ∧
        (c.vertex u).incoming.toList = (b.vertex u).incoming.toList ++ List.replicate (ts.count u) r.id :=
  foldlM_addEdge (addSuccessor r) r.id (fun _ _ _ added => by rw [addSuccessor, added]; rfl) reachable inside ts
    targets

/-- Defining a read vertex inside the arena sets its owner, priority and label, and then
adds its edges one by one. -/
theorem defineLine_eq_foldlM {b : Arena} (reachable : b.Reachable) {r : VertexLine} (inside : r.id < b.size) :
    ∃ b₃, b₃.Reachable ∧ b₃.size = b.size ∧
      (∀ u, b₃.vertex u =
        if u = r.id then { b.vertex u with owner := r.owner, priority := r.priority, label := r.label }
        else b.vertex u) ∧
      defineLine b r = r.successors.foldlM (addSuccessor r) b₃ := by
  obtain ⟨b₁, b₂, b₃, owned, prioritised, labelled, reachable₃, size₃, vertex₃⟩ :=
    setOwner_setPriority_setLabel reachable inside r.owner r.priority r.label
  refine ⟨b₃, reachable₃, size₃, vertex₃, ?_⟩
  rw [defineLine]
  simp only [owned, Except.toOption, Option.getD_some]
  simp only [prioritised, Option.getD_some]
  simp only [labelled, Option.getD_some]

/-- Defining a read vertex whose successors are inside the arena sets its fields, appends
its successors, and appends it to the incoming list of each target once per edge; every
other vertex keeps its fields. -/
theorem defineLine_spec {b : Arena} (reachable : b.Reachable) {r : VertexLine} (inside : r.id < b.size)
    (targets : ∀ t ∈ r.successors, t < b.size) :
    ∃ c, defineLine b r = pure c ∧ c.Reachable ∧ c.size = b.size ∧
      (∀ u, (c.vertex u).incoming.toList =
        (b.vertex u).incoming.toList ++ List.replicate (r.successors.count u) r.id) ∧
      ((c.vertex r.id).owner = r.owner ∧ (c.vertex r.id).priority = r.priority ∧
        (c.vertex r.id).label = r.label ∧
        (c.vertex r.id).outgoing.toList = (b.vertex r.id).outgoing.toList ++ r.successors) ∧
      ∀ u ≠ r.id, (c.vertex u).owner = (b.vertex u).owner ∧ (c.vertex u).priority = (b.vertex u).priority ∧
        (c.vertex u).label = (b.vertex u).label ∧ (c.vertex u).outgoing = (b.vertex u).outgoing := by
  obtain ⟨b₃, reachable₃, size₃, vertex₃, defined⟩ := defineLine_eq_foldlM reachable inside
  obtain ⟨c, folded, rest⟩ := foldlM_addEdge_fields (addSuccessor r)
    (fun _ _ _ added => by rw [addSuccessor, added]; rfl) reachable₃ size₃ inside vertex₃ r.successors targets
  exact ⟨c, defined.trans folded, rest⟩

/-- Defining the vertex of a read line inside the arena sets its owner, priority
and label, appends its successors, and appends it to the incoming list of each
target once per edge; every other vertex keeps its fields. -/
theorem defineLine_recordOf {b : Arena} (reachable : b.Reachable) {line k : Nat} {v : Vertex}
    (inside : k < b.size) (targets : ∀ t ∈ v.outgoing, t < b.size) :
    ∃ c, defineLine b (recordOf line k v) = pure c ∧ c.Reachable ∧ c.size = b.size ∧
      (∀ u, (c.vertex u).incoming.toList =
        (b.vertex u).incoming.toList ++ List.replicate (v.outgoing.count u) k) ∧
      ((c.vertex k).owner = v.owner ∧ (c.vertex k).priority = v.priority ∧ (c.vertex k).label = v.label ∧
        (c.vertex k).outgoing.toList = (b.vertex k).outgoing.toList ++ v.outgoing.toList) ∧
      ∀ u ≠ k, (c.vertex u).owner = (b.vertex u).owner ∧ (c.vertex u).priority = (b.vertex u).priority ∧
        (c.vertex u).label = (b.vertex u).label ∧ (c.vertex u).outgoing = (b.vertex u).outgoing := by
  have spec := defineLine_spec reachable (r := recordOf line k v) inside (by simpa [recordOf] using targets)
  simpa [recordOf] using spec

/-! ## The rebuilt arena -/

/-- The arena read back after the lines of the vertices `0 … k-1` of `a`: the
read vertices carry their fields and successors, the others have no
successor yet, and every incoming list holds the read sources in id order,
each once per edge. -/
structure Rebuilt (a : Arena) (k : Nat) (b : Arena) : Prop where
  reachable : b.Reachable
  size_eq : b.size = a.size
  copied : ∀ u < k, (b.vertex u).owner = (a.vertex u).owner ∧
    (b.vertex u).priority = (a.vertex u).priority ∧ (b.vertex u).label = (a.vertex u).label ∧
    (b.vertex u).outgoing = (a.vertex u).outgoing
  unread : ∀ u, k ≤ u → (b.vertex u).outgoing = #[]
  incoming : ∀ v, (b.vertex v).incoming.toList =
    (List.range k).flatMap fun u => List.replicate ((a.vertex u).outgoing.count v) u

theorem rebuilt_new (a : Arena) : Rebuilt a 0 (Arena.new a.size) where
  reachable := .new _
  size_eq := size_new a.size
  copied := fun _ none => absurd none (Nat.not_lt_zero _)
  unread := fun u _ => by rw [vertex_new]
  incoming := fun v => by rw [vertex_new]; rfl

/-- Giving vertex `k` of a rebuilt arena the owner, priority, label and
successors of vertex `k` of `a`, with each target gaining `k` once per edge and
every other vertex kept, extends it by that vertex. -/
theorem Rebuilt.extend {a b c : Arena} {k : Nat} (rebuilt : Rebuilt a k b) (reachable : c.Reachable)
    (size : c.size = b.size)
    (incoming : ∀ u, (c.vertex u).incoming.toList =
      (b.vertex u).incoming.toList ++ List.replicate ((a.vertex k).outgoing.count u) k)
    (defined : (c.vertex k).owner = (a.vertex k).owner ∧ (c.vertex k).priority = (a.vertex k).priority ∧
      (c.vertex k).label = (a.vertex k).label ∧
      (c.vertex k).outgoing.toList = (b.vertex k).outgoing.toList ++ (a.vertex k).outgoing.toList)
    (others : ∀ u ≠ k, (c.vertex u).owner = (b.vertex u).owner ∧ (c.vertex u).priority = (b.vertex u).priority ∧
      (c.vertex u).label = (b.vertex u).label ∧ (c.vertex u).outgoing = (b.vertex u).outgoing) :
    Rebuilt a (k + 1) c := by
  obtain ⟨owner, priority, label, outgoing⟩ := defined
  refine ⟨reachable, size.trans rebuilt.size_eq, fun u lt => ?_, fun u le => ?_, fun v => ?_⟩
  · by_cases same : u = k
    · subst same
      refine ⟨owner, priority, label, ?_⟩
      rw [← Array.toList_inj, outgoing, rebuilt.unread u le_rfl]
      simp
    · obtain ⟨owner', priority', label', outgoing'⟩ := others u same
      obtain ⟨owner'', priority'', label'', outgoing''⟩ := rebuilt.copied u (by omega)
      exact ⟨owner'.trans owner'', priority'.trans priority'', label'.trans label'', outgoing'.trans outgoing''⟩
  · rw [(others u (by omega)).2.2.2, rebuilt.unread u (by omega)]
  · rw [incoming, rebuilt.incoming, List.range_succ, List.flatMap_append]
    simp

/-- Reading the line of vertex `k` extends a rebuilt arena by that vertex. -/
theorem Rebuilt.defineLine {a b : Arena} {k : Nat} (rebuilt : Rebuilt a k b) (intact : a.Intact)
    (inside : k < a.size) (line : Nat) :
    ∃ c, defineLine b (recordOf line k (a.vertex k)) = pure c ∧ Rebuilt a (k + 1) c := by
  obtain ⟨c, defined, reachable, size, incoming, fields, others⟩ :=
    defineLine_recordOf rebuilt.reachable (rebuilt.size_eq ▸ inside)
      (fun t mem => rebuilt.size_eq ▸ intact.target_lt k t mem)
  exact ⟨c, defined, rebuilt.extend reachable size incoming fields others⟩

/-- Reading the lines of the vertices `0 … k-1` into a fresh arena rebuilds them. -/
theorem foldlM_defineLine {a : Arena} (intact : a.Intact) (line : Nat → Nat) {k : Nat} (le : k ≤ a.size) :
    ∃ b, ((List.range k).map fun i => recordOf (line i) i (a.vertex i)).foldlM defineLine
      (Arena.new a.size) = pure b ∧ Rebuilt a k b := by
  induction k with
  | zero => exact ⟨_, rfl, rebuilt_new a⟩
  | succ k ih =>
    obtain ⟨b, folded, rebuilt⟩ := ih (by omega)
    obtain ⟨c, defined, rebuiltC⟩ := rebuilt.defineLine intact (by omega) (line k)
    refine ⟨c, ?_, rebuiltC⟩
    rw [List.range_succ, List.map_append, List.foldlM_append, folded, pure_bind]
    simp [defined]

theorem count_flatMap_replicate (f : Nat → Nat) (n w : Nat) :
    ((List.range n).flatMap fun u => List.replicate (f u) u).count w = if w < n then f w else 0 := by
  induction n with
  | zero => simp
  | succ n ih =>
    rw [List.range_succ, List.flatMap_append, List.count_append, ih]
    rcases Nat.lt_trichotomy w n with below | last | above
    · simp [below, Nat.lt_succ_of_lt below, List.count_replicate, Nat.ne_of_gt below]
    · subst last
      simp
    · simp [Nat.not_lt_of_gt above, Nat.not_lt.2 (Nat.succ_le_of_lt above), List.count_replicate,
        Nat.ne_of_lt above]

theorem pairwise_flatMap_replicate (f : Nat → Nat) (n : Nat) :
    ((List.range n).flatMap fun u => List.replicate (f u) u).Pairwise (· ≤ ·) := by
  induction n with
  | zero => simp
  | succ n ih =>
    rw [List.range_succ, List.flatMap_append, List.pairwise_append]
    refine ⟨ih, by simp [List.pairwise_replicate], ?_⟩
    intro x before y last
    simp only [List.mem_flatMap, List.mem_range, List.mem_replicate] at before
    simp only [List.flatMap_cons, List.flatMap_nil, List.append_nil, List.mem_replicate] at last
    obtain ⟨u, lt, -, rfl⟩ := before
    omega

/-! ## The arena read back -/

/-- Arenas of one size whose vertices agree on what the writer prints are
written alike. -/
theorem write_congr {a b : Arena} (numberedA : a.Numbered) (numberedB : b.Numbered)
    (size : b.size = a.size)
    (same : ∀ i < a.size, (b.vertex i).owner = (a.vertex i).owner ∧
      (b.vertex i).priority = (a.vertex i).priority ∧ (b.vertex i).label = (a.vertex i).label ∧
      (b.vertex i).outgoing = (a.vertex i).outgoing) :
    write b = write a := by
  have vertexLines : (List.range a.size).map (fun i => vertexText i (b.vertex i)) =
      (List.range a.size).map (fun i => vertexText i (a.vertex i)) := by
    apply List.map_congr_left
    intro i mem
    obtain ⟨owner, priority, label, outgoing⟩ := same i (List.mem_range.1 mem)
    simp only [vertexText, owner, priority, label, outgoing]
  rw [write, write, numberedA.map_vertices vertexText, numberedB.map_vertices vertexText]
  simp only [size, vertexLines]


section Complete

variable {a b : Arena} (rebuilt : Rebuilt a a.size b)
include rebuilt

/-- Once every line is read, each vertex has the owner, priority, label and
successors it was written with; outside the arena both have none. -/
theorem Rebuilt.fields (v : Nat) :
    (b.vertex v).owner = (a.vertex v).owner ∧ (b.vertex v).priority = (a.vertex v).priority ∧
      (b.vertex v).label = (a.vertex v).label ∧ (b.vertex v).outgoing = (a.vertex v).outgoing := by
  by_cases inside : v < a.size
  · exact rebuilt.copied v inside
  · have outsideA : a.size ≤ v := by omega
    have outsideB : b.size ≤ v := by rw [rebuilt.size_eq]; omega
    rw [vertex_of_size_le outsideA, vertex_of_size_le outsideB]
    exact ⟨rfl, rfl, rfl, rfl⟩

/-- The rebuilt predecessor list holds each source once per edge, as the
original one does. -/
theorem Rebuilt.incoming_perm (intact : a.Intact) (v : Nat) :
    (b.vertex v).incoming.toList.Perm (a.vertex v).incoming.toList := by
  rw [rebuilt.incoming, List.perm_iff_count]
  intro u
  rw [count_flatMap_replicate, Array.count_toList, ← intact.count_eq]
  split
  · rfl
  · rw [vertex_of_size_le (by omega)]
    simp

theorem Rebuilt.incoming_sorted (v : Nat) : (b.vertex v).incoming.toList.Pairwise (· ≤ ·) := by
  rw [rebuilt.incoming]
  exact pairwise_flatMap_replicate _ _

/-- Both edge counts count the same successor lists. -/
theorem Rebuilt.edges_eq (intact : a.Intact) : b.edges = a.edges := by
  rw [rebuilt.reachable.intact.edges_eq, intact.edges_eq, rebuilt.size_eq]
  exact Finset.sum_congr rfl fun u _ => by rw [(rebuilt.fields u).2.2.2]

theorem Rebuilt.maxPriority_eq (intact : a.Intact) : b.maxPriority = a.maxPriority := by
  rw [rebuilt.reachable.intact.maxPriority_eq, intact.maxPriority_eq]
  exact scanMaxPriority_congr (by rw [rebuilt.size_eq]) fun v => (rebuilt.fields v).2.1

theorem Rebuilt.validate_eq (intact : a.Intact) (valid : a.validate = .ok ()) : b.validate = .ok () := by
  have moves := intact.validate_eq_ok_iff.1 valid
  exact rebuilt.reachable.intact.validate_eq_ok_iff.2 fun i inside =>
    (rebuilt.fields i).2.2.2 ▸ moves i (rebuilt.size_eq ▸ inside)

theorem Rebuilt.write_eq (intact : a.Intact) : write b = write a :=
  write_congr intact.numbered rebuilt.reachable.intact.numbered rebuilt.size_eq fun i _ =>
    rebuilt.fields i

end Complete

/-! ## The round trip -/

/-- A valid arena with owners the format names and numbers that fit writes a
line that reads back for every vertex. -/
theorem writable_of_validate {a : Arena} (intact : a.Intact) (valid : a.validate = .ok ())
    (owners : ∀ v < a.size, (a.vertex v).owner = .even ∨ (a.vertex v).owner = .odd)
    (fits : (a.size : Int) ≤ int64Max ∧ (a.maxPriority : Int) ≤ int64Max) :
    ∀ i < a.size, Writable i (a.vertex i) := fun i inside =>
  { moves := intact.validate_eq_ok_iff.1 valid i inside
    owned := owners i inside
    id_fits := by omega
    priority_fits := by
      have bounded := intact.maxPriority_spec.1 i inside
      omega
    targets_fit := fun t mem => by
      have target := intact.target_lt i t mem
      omega }

/-- Reading the written text runs the line pass, the id check and the
definition of every vertex, and the arena it builds passes `validate`. -/
theorem read_write_rebuilt {a : Arena} (intact : a.Intact) (valid : a.validate = .ok ())
    (good : ∀ i < a.size, Writable i (a.vertex i))
    (short : ∀ line ∈ writtenLines a, line.utf8ByteSize < maxLineBytes) (fits : (a.size : Int) ≤ int64Max) :
    ∃ b, PGSolver.read (write a) = .ok b ∧ Rebuilt a a.size b := by
  have scanned := scanLines_writtenLines a good short fits
  have declared : ∀ d ∈ (if 0 < a.size then some (a.size - 1) else none), d < a.size := by
    intro d mem
    split at mem
    · rw [Option.mem_some_iff] at mem
      omega
    · cases mem
  have checked := checkIds_records a.vertex (· + 2) a.size declared
  obtain ⟨b, folded, rebuilt⟩ := foldlM_defineLine intact (· + 2) (le_refl a.size)
  refine ⟨b, ?_, rebuilt⟩
  rw [PGSolver.read, lines_write intact.numbered, scanned, pure_bind, checked, pure_bind]
  simp only [List.foldlM_toArray]
  simp only [List.size_toArray, List.length_map, List.length_range, folded, pure_bind,
    rebuilt.validate_eq intact valid]
  rfl

/-- Reading the PGSolver text of a valid arena gives back the same game: the
same size, edge count and largest priority, every vertex with the same owner,
priority, label and successors in order, and the same predecessors sorted by
id.  The game is then written as the same text and hashes alike. -/
theorem read_write_restores {a : Arena} (reachable : a.Reachable) (valid : a.validate = .ok ())
    (owners : ∀ v < a.size, (a.vertex v).owner = .even ∨ (a.vertex v).owner = .odd)
    (short : ∀ line ∈ lines (write a), line.utf8ByteSize < maxLineBytes)
    (fits : (a.size : Int) ≤ int64Max ∧ (a.maxPriority : Int) ≤ int64Max) :
    ∃ b, PGSolver.read (write a) = .ok b ∧ b.size = a.size ∧ b.edges = a.edges ∧ b.maxPriority = a.maxPriority ∧
      (∀ v, (b.vertex v).owner = (a.vertex v).owner ∧ (b.vertex v).priority = (a.vertex v).priority ∧
        (b.vertex v).label = (a.vertex v).label ∧ (b.vertex v).outgoing = (a.vertex v).outgoing ∧
        (b.vertex v).incoming.toList.Perm (a.vertex v).incoming.toList ∧
        (b.vertex v).incoming.toList.Pairwise (· ≤ ·)) ∧
      write b = write a ∧ Pipeline.gameHash b = Pipeline.gameHash a := by
  have intact := reachable.intact
  rw [lines_write intact.numbered] at short
  obtain ⟨b, read, rebuilt⟩ :=
    read_write_rebuilt intact valid (writable_of_validate intact valid owners fits) short fits.1
  have written := rebuilt.write_eq intact
  refine ⟨b, read, rebuilt.size_eq, rebuilt.edges_eq intact, rebuilt.maxPriority_eq intact, fun v => ?_,
    written, by rw [Pipeline.gameHash, Pipeline.gameHash, written]⟩
  obtain ⟨owner, priority, label, outgoing⟩ := rebuilt.fields v
  exact ⟨owner, priority, label, outgoing, rebuilt.incoming_perm intact v, rebuilt.incoming_sorted v⟩

/-- Two vertices, the first labelled with a double quote and moving to the
second, the second owned by Odd with priority `3` and a self-loop: the
written text reads back as the same game. -/
theorem read_write_restores_quote :
    let a : Arena :=
      { vertices := #[{ outgoing := #[1], label := [0x22] },
          { id := 1, owner := .odd, priority := 3, outgoing := #[1], incoming := #[0, 1] }],
        edges := 2, maxPriority := 3 }
    a.Reachable ∧ a.validate = .ok () ∧
      (∀ v < a.size, (a.vertex v).owner = .even ∨ (a.vertex v).owner = .odd) ∧
      (∀ line ∈ lines (write a), line.utf8ByteSize < maxLineBytes) ∧
      ((a.size : Int) ≤ int64Max ∧ (a.maxPriority : Int) ≤ int64Max) ∧
      ∃ b, PGSolver.read (write a) = .ok b ∧ write b = write a := by
  intro a
  have edge : (Arena.new 2).addEdge 0 1 =
      .ok { vertices := #[{ outgoing := #[1] }, { id := 1, incoming := #[0] }], edges := 1 } := rfl
  have loop :
      ({ vertices := #[{ outgoing := #[1] }, { id := 1, incoming := #[0] }], edges := 1 } : Arena).addEdge
          1 1 =
        .ok { vertices := #[{ outgoing := #[1] }, { id := 1, outgoing := #[1], incoming := #[0, 1] }],
              edges := 2 } := rfl
  have raised :
      ({ vertices := #[{ outgoing := #[1] }, { id := 1, outgoing := #[1], incoming := #[0, 1] }],
         edges := 2 } : Arena).setPriority 1 3 =
        .ok { vertices := #[{ outgoing := #[1] },
                { id := 1, priority := 3, outgoing := #[1], incoming := #[0, 1] }],
              edges := 2, maxPriority := 3 } := rfl
  have odd :
      ({ vertices := #[{ outgoing := #[1] },
           { id := 1, priority := 3, outgoing := #[1], incoming := #[0, 1] }],
         edges := 2, maxPriority := 3 } : Arena).setOwner 1 .odd =
        .ok { vertices := #[{ outgoing := #[1] },
                { id := 1, owner := .odd, priority := 3, outgoing := #[1], incoming := #[0, 1] }],
              edges := 2, maxPriority := 3 } := rfl
  have quoted :
      ({ vertices := #[{ outgoing := #[1] },
           { id := 1, owner := .odd, priority := 3, outgoing := #[1], incoming := #[0, 1] }],
         edges := 2, maxPriority := 3 } : Arena).setLabel 0 [0x22] = .ok a := rfl
  have built : a.Reachable :=
    ((((Reachable.new 2).addEdge edge).addEdge loop).setPriority raised |>.setOwner odd).setLabel quoted
  have valid : a.validate = .ok () := by decide
  have owners : ∀ v < a.size, (a.vertex v).owner = .even ∨ (a.vertex v).owner = .odd := by decide
  have short : ∀ line ∈ lines (write a), line.utf8ByteSize < maxLineBytes := by decide +kernel
  have fits : (a.size : Int) ≤ int64Max ∧ (a.maxPriority : Int) ≤ int64Max := by decide
  obtain ⟨b, read, -, -, -, -, written, -⟩ := read_write_restores built valid owners short fits
  exact ⟨built, valid, owners, short, fits, b, read, written⟩

end PGSolver

end ParityGames
