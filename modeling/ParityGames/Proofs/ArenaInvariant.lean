import ParityGames.Game.Arena
import Mathlib.Data.List.Basic

/-!
# Arenas built by their operations

An arena can only be built by its operations: `Arena.new`, then any sequence
of `resize`, `setOwner`, `setPriority`, `setLabel`, `addEdge` and
`clearVertex` calls, each failing call leaving it as it was.  `Reachable`
collects these arenas.  Every one of them is `Consistent`: no priority lies
above the recorded largest one, every edge ends at a vertex, and every entry
of an incoming list names a vertex whose outgoing list has the edge back.

A consistent arena that passes `validate` is what the solver needs: every
vertex can move (`exists_edge_of_validate`), so the play never gets stuck.
-/

namespace ParityGames

namespace Arena

/-- The arenas the operations build, starting from `new`. -/
inductive Reachable : Arena → Prop
  | new (n : Int) : Reachable (new n)
  | resize {a : Arena} (n : Int) : Reachable a → Reachable (a.resize n).2
  | setOwner {a b : Arena} {id : Int} {p : Player} :
      Reachable a → a.setOwner id p = .ok b → Reachable b
  | setPriority {a b : Arena} {id p : Int} :
      Reachable a → a.setPriority id p = .ok b → Reachable b
  | setLabel {a b : Arena} {id : Int} {l : Label} :
      Reachable a → a.setLabel id l = .ok b → Reachable b
  | addEdge {a b : Arena} {src dst : Int} :
      Reachable a → a.addEdge src dst = .ok b → Reachable b
  | clearVertex {a b : Arena} {id : Int} :
      Reachable a → a.clearVertex id = .ok b → Reachable b

/-- What every reachable arena satisfies. -/
structure Consistent (a : Arena) : Prop where
  priority_le : ∀ v < a.size, (a.vertex v).priority ≤ a.maxPriority
  target_lt : ∀ v < a.size, ∀ w ∈ (a.vertex v).outgoing, w < a.size
  incoming_sound : ∀ v < a.size, ∀ u ∈ (a.vertex v).incoming, v ∈ (a.vertex u).outgoing

section Vertices

@[simp]
theorem size_modify (a : Arena) (i : Nat) (f : Vertex → Vertex) :
    (a.modify i f).size = a.size := by
  simp [modify, size]

@[simp]
theorem maxPriority_modify (a : Arena) (i : Nat) (f : Vertex → Vertex) :
    (a.modify i f).maxPriority = a.maxPriority := rfl

theorem vertex_modify (a : Arena) (i : Nat) (f : Vertex → Vertex) (v : Nat) :
    (a.modify i f).vertex v = if i = v ∧ v < a.size then f (a.vertex v) else a.vertex v := by
  by_cases inside : v < a.size
  · have inside' : v < a.vertices.size := inside
    simp [vertex, modify, inside', Array.getElem_modify, size]
  · have outside : ¬ v < a.vertices.size := inside
    simp [vertex, modify, outside, size]

@[simp]
theorem vertex_setEdges (a : Arena) (e v : Nat) : { a with edges := e }.vertex v = a.vertex v := rfl

@[simp]
theorem vertex_setCounts (a : Arena) (e m v : Nat) :
    { a with edges := e, maxPriority := m }.vertex v = a.vertex v := rfl

@[simp]
theorem size_setCounts (a : Arena) (e m : Nat) :
    { a with edges := e, maxPriority := m }.size = a.size := rfl

theorem vertex_of_size_le {a : Arena} {v : Nat} (outside : a.size ≤ v) : a.vertex v = {} := by
  have : ¬ v < a.vertices.size := by simp [size] at outside; omega
  simp [vertex, this]

/-- A vertex outside the arena has no edges, so membership in an outgoing list
places the source inside. -/
theorem lt_size_of_mem_outgoing {a : Arena} {u w : Nat} (mem : w ∈ (a.vertex u).outgoing) :
    u < a.size := by
  by_contra outside
  rw [vertex_of_size_le (Nat.le_of_not_lt outside)] at mem
  simp at mem

theorem has_iff {a : Arena} {id : Int} : a.has id = true ↔ 0 ≤ id ∧ id < a.size := by
  simp [has]

/-- The vertices of the arena, listed by id. -/
theorem map_vertex_range (a : Arena) : (List.range a.size).map a.vertex = a.vertices.toList := by
  apply List.ext_getElem (by simp [size])
  intro i first _
  simp only [List.getElem_map, List.getElem_range, Array.getElem_toList]
  simp only [List.length_map, List.length_range, size] at first
  simp [vertex, first]

/-- On a numbered arena, going through the vertices with their ids is going
through the ids with their vertices. -/
theorem Numbered.map_vertices {β : Type} {a : Arena} (numbered : a.Numbered)
    (f : Nat → Vertex → β) :
    a.vertices.toList.map (fun v => f v.id v) = (List.range a.size).map fun i => f i (a.vertex i) := by
  rw [← map_vertex_range, List.map_map]
  apply List.map_congr_left
  intro i mem
  simp only [Function.comp_apply, numbered i (List.mem_range.1 mem)]

theorem le_foldl_max (l : List Vertex) (init : Nat) :
    init ≤ l.foldl (fun m v => max m v.priority) init ∧
      ∀ v ∈ l, v.priority ≤ l.foldl (fun m v => max m v.priority) init := by
  induction l generalizing init with
  | nil => simp
  | cons v vs ih =>
    obtain ⟨atLeastInit, atLeastEach⟩ := ih (max init v.priority)
    refine ⟨by simp only [List.foldl_cons]; omega, ?_⟩
    intro w mem
    rcases List.mem_cons.1 mem with same | later
    · subst same
      simp only [List.foldl_cons]
      omega
    · exact atLeastEach w later

/-- The scanned maximum is at least every priority. -/
theorem priority_le_scanMaxPriority (a : Arena) {v : Nat} (inside : v < a.size) :
    (a.vertex v).priority ≤ scanMaxPriority a.vertices := by
  have inside' : v < a.vertices.size := inside
  rw [scanMaxPriority, ← Array.foldl_toList]
  apply (le_foldl_max a.vertices.toList 0).2
  simp [vertex, inside']

/-- Folding `modify` with an idempotent change over a list of ids, skipping `i`,
changes exactly the listed vertices other than `i`. -/
theorem vertex_foldl_modify (g : Vertex → Vertex) (idem : ∀ w, g (g w) = g w) (i : Nat)
    (ts : List Nat) (a : Arena) (v : Nat) :
    (ts.foldl (fun a t => if t == i then a else a.modify t g) a).vertex v =
      if v ∈ ts ∧ v ≠ i ∧ v < a.size then g (a.vertex v) else a.vertex v := by
  induction ts generalizing a with
  | nil => simp
  | cons t ts ih =>
    rw [List.foldl_cons, ih]
    have listedCons : ∀ b : Arena, v ∈ ts ∧ v ≠ i ∧ v < b.size →
        v ∈ t :: ts ∧ v ≠ i ∧ v < b.size :=
      fun b listed => ⟨List.mem_cons_of_mem t listed.1, listed.2⟩
    by_cases skipped : t = i
    · have step : (if t == i then a else a.modify t g) = a := by simp [skipped]
      rw [step]
      by_cases listed : v ∈ ts ∧ v ≠ i ∧ v < a.size
      · rw [if_pos listed, if_pos (listedCons a listed)]
      · rw [if_neg listed, if_neg]
        rintro ⟨mem, other, inside⟩
        rcases List.mem_cons.1 mem with atT | later
        · exact other (atT.trans skipped)
        · exact listed ⟨later, other, inside⟩
    · have step : (if t == i then a else a.modify t g) = a.modify t g := by simp [skipped]
      rw [step, size_modify, vertex_modify]
      by_cases atT : t = v
      · subst atT
        by_cases inside : t < a.size
        · simp [skipped, inside, idem]
        · simp [inside]
      · simp only [atT, false_and, if_false]
        by_cases listed : v ∈ ts ∧ v ≠ i ∧ v < a.size
        · rw [if_pos listed, if_pos (listedCons a listed)]
        · rw [if_neg listed, if_neg]
          rintro ⟨mem, other, inside⟩
          rcases List.mem_cons.1 mem with isT | later
          · exact atT isT.symm
          · exact listed ⟨later, other, inside⟩

@[simp]
theorem size_foldl_modify (g : Vertex → Vertex) (i : Nat) (ts : List Nat) (a : Arena) :
    (ts.foldl (fun a t => if t == i then a else a.modify t g) a).size = a.size := by
  induction ts generalizing a with
  | nil => rfl
  | cons t ts ih =>
    rw [List.foldl_cons, ih]
    split <;> simp

end Vertices

section Operations

variable {a b : Arena}

theorem vertex_eq_getD (a : Arena) (v : Nat) : a.vertex v = a.vertices[v]?.getD {} := by
  unfold vertex
  split <;> simp_all

/-- Growing an arena keeps its vertices and adds blank ones, each with its
position as id. -/
theorem vertex_resize (a : Arena) (n : Int) (v : Nat) :
    (a.resize n).2.vertex v =
      if a.size ≤ v ∧ v < (a.resize n).2.size then { id := v } else a.vertex v := by
  by_cases small : n ≤ a.size
  · have same : (a.resize n).2 = a := by simp [resize, small]
    rw [same, if_neg (fun added => Nat.lt_irrefl v (Nat.lt_of_lt_of_le added.2 added.1))]
  · have vertices : (a.resize n).2.vertices = a.vertices ++
        Array.ofFn fun (k : Fin (n.toNat - a.size)) => ({ id := a.size + k } : Vertex) := by
      simp [resize, small]
    have grown : (a.resize n).2.size = a.size + (n.toNat - a.size) := by
      simp [size, vertices]
    rw [grown, vertex_eq_getD, vertex_eq_getD, vertices, Array.getElem?_append]
    by_cases inside : v < a.size
    · have inside' : v < a.vertices.size := inside
      rw [if_pos inside', if_neg (fun added => Nat.not_le_of_lt inside added.1)]
    · have outside : ¬ v < a.vertices.size := inside
      rw [if_neg outside, Array.getElem?_ofFn]
      by_cases added : v < a.size + (n.toNat - a.size)
      · rw [dif_pos (by simp only [size] at added ⊢; omega),
          if_pos ⟨Nat.le_of_not_lt inside, added⟩, Option.getD_some]
        simp only [size]
        congr 1
        omega
      · rw [dif_neg (by simp only [size] at added ⊢; omega), if_neg fun within => added within.2,
          Array.getElem?_eq_none (Nat.le_of_not_lt outside)]

/-- Growing an arena changes no field of a vertex but its id. -/
theorem vertex_resize_eq_with (a : Arena) (n : Int) (v : Nat) :
    (a.resize n).2.vertex v = { a.vertex v with id := ((a.resize n).2.vertex v).id } := by
  by_cases added : a.size ≤ v ∧ v < (a.resize n).2.size
  · simp only [vertex_resize, if_pos added, vertex_of_size_le added.1]
  · simp only [vertex_resize, if_neg added]

@[simp]
theorem owner_vertex_resize (a : Arena) (n : Int) (v : Nat) :
    ((a.resize n).2.vertex v).owner = (a.vertex v).owner :=
  by rw [vertex_resize_eq_with]

@[simp]
theorem priority_vertex_resize (a : Arena) (n : Int) (v : Nat) :
    ((a.resize n).2.vertex v).priority = (a.vertex v).priority :=
  by rw [vertex_resize_eq_with]

@[simp]
theorem outgoing_vertex_resize (a : Arena) (n : Int) (v : Nat) :
    ((a.resize n).2.vertex v).outgoing = (a.vertex v).outgoing :=
  by rw [vertex_resize_eq_with]

@[simp]
theorem incoming_vertex_resize (a : Arena) (n : Int) (v : Nat) :
    ((a.resize n).2.vertex v).incoming = (a.vertex v).incoming :=
  by rw [vertex_resize_eq_with]

@[simp]
theorem label_vertex_resize (a : Arena) (n : Int) (v : Nat) :
    ((a.resize n).2.vertex v).label = (a.vertex v).label :=
  by rw [vertex_resize_eq_with]

theorem size_le_size_resize (a : Arena) (n : Int) : a.size ≤ (a.resize n).2.size := by
  unfold resize
  split
  · exact Nat.le_refl _
  · simp [size]

theorem Consistent.resize (consistent : a.Consistent) (n : Int) : (a.resize n).2.Consistent := by
  have grows := size_le_size_resize a n
  have samePriority : (a.resize n).2.maxPriority = a.maxPriority := by
    unfold Arena.resize
    split <;> rfl
  refine ⟨?_, ?_, ?_⟩
  · intro v inside
    rw [priority_vertex_resize, samePriority]
    by_cases old : v < a.size
    · exact consistent.priority_le v old
    · rw [vertex_of_size_le (Nat.le_of_not_lt old)]
      exact Nat.zero_le _
  · intro v _ w mem
    rw [outgoing_vertex_resize] at mem
    exact Nat.lt_of_lt_of_le (consistent.target_lt v (lt_size_of_mem_outgoing mem) w mem) grows
  · intro v _ u mem
    rw [incoming_vertex_resize] at mem
    rw [outgoing_vertex_resize]
    by_cases old : v < a.size
    · exact consistent.incoming_sound v old u mem
    · rw [vertex_of_size_le (Nat.le_of_not_lt old)] at mem
      simp at mem

/-- Operations that keep every edge list keep consistency, once the largest
priority is still an upper bound. -/
theorem Consistent.of_same_edges (consistent : a.Consistent) (size : b.size = a.size)
    (outgoing : ∀ v, (b.vertex v).outgoing = (a.vertex v).outgoing)
    (incoming : ∀ v, (b.vertex v).incoming = (a.vertex v).incoming)
    (priority_le : ∀ v < b.size, (b.vertex v).priority ≤ b.maxPriority) : b.Consistent := by
  refine ⟨priority_le, ?_, ?_⟩
  · intro v inside w mem
    rw [outgoing] at mem
    rw [size]
    exact consistent.target_lt v (size ▸ inside) w mem
  · intro v inside u mem
    rw [incoming] at mem
    rw [outgoing]
    exact consistent.incoming_sound v (size ▸ inside) u mem

/-- Changing one field of one vertex other than its edges and priority keeps
consistency. -/
theorem Consistent.modify_label (consistent : a.Consistent) (i : Nat) (f : Vertex → Vertex)
    (outgoing : ∀ w, (f w).outgoing = w.outgoing) (incoming : ∀ w, (f w).incoming = w.incoming)
    (priority : ∀ w, (f w).priority = w.priority) : (a.modify i f).Consistent := by
  apply consistent.of_same_edges (size_modify _ _ _)
  · intro v
    rw [vertex_modify]
    split <;> simp [outgoing]
  · intro v
    rw [vertex_modify]
    split <;> simp [incoming]
  · intro v inside
    rw [vertex_modify, maxPriority_modify]
    rw [size_modify] at inside
    split <;> simp [priority, consistent.priority_le v inside]

theorem Consistent.setOwner (consistent : a.Consistent) {id : Int} {p : Player}
    (ok : a.setOwner id p = .ok b) : b.Consistent := by
  unfold Arena.setOwner at ok
  split at ok
  · cases ok
    exact consistent.modify_label _ _ (fun _ => rfl) (fun _ => rfl) (fun _ => rfl)
  · cases ok

theorem Consistent.setLabel (consistent : a.Consistent) {id : Int} {l : Label}
    (ok : a.setLabel id l = .ok b) : b.Consistent := by
  unfold Arena.setLabel at ok
  split at ok
  · cases ok
    exact consistent.modify_label _ _ (fun _ => rfl) (fun _ => rfl) (fun _ => rfl)
  · cases ok

theorem Consistent.setPriority (consistent : a.Consistent) {id p : Int}
    (ok : a.setPriority id p = .ok b) : b.Consistent := by
  unfold Arena.setPriority at ok
  split at ok
  · cases ok
  rename_i known
  split at ok
  · cases ok
  have inside : id.toNat < a.size := by
    have := has_iff.1 (by simpa using known)
    omega
  have priorityAt : ∀ v, ((a.modify id.toNat fun v => { v with priority := p.toNat }).vertex
      v).priority = if v = id.toNat then p.toNat else (a.vertex v).priority := by
    intro v
    rw [vertex_modify]
    by_cases atId : v = id.toNat
    · subst atId
      simp [inside]
    · simp [atId, Ne.symm atId]
  have edgesAt : ∀ v, ((a.modify id.toNat fun v => { v with priority := p.toNat }).vertex
      v).outgoing = (a.vertex v).outgoing ∧
      ((a.modify id.toNat fun v => { v with priority := p.toNat }).vertex v).incoming =
        (a.vertex v).incoming := by
    intro v
    rw [vertex_modify]
    split <;> simp
  have ofBound := fun (bounded : ∀ v < b.size, (b.vertex v).priority ≤ b.maxPriority)
      (sameVertices : ∀ v, b.vertex v = (a.modify id.toNat fun v =>
        { v with priority := p.toNat }).vertex v) (sameSize : b.size = a.size) =>
    consistent.of_same_edges sameSize (fun v => sameVertices v ▸ (edgesAt v).1)
      (fun v => sameVertices v ▸ (edgesAt v).2) bounded
  dsimp only at ok
  split at ok
  · rename_i raised
    cases ok
    refine ofBound ?_ (fun _ => rfl) (size_modify _ _ _)
    intro v inside
    change ((a.modify id.toNat fun v => { v with priority := p.toNat }).vertex v).priority ≤
      p.toNat
    rw [priorityAt]
    split
    · exact Nat.le_refl _
    · have := consistent.priority_le v (by simpa [Arena.size, Arena.modify] using inside)
      simp only [maxPriority_modify] at raised
      omega
  split at ok
  · cases ok
    refine ofBound ?_ (fun _ => rfl) (size_modify _ _ _)
    intro v inside
    exact priority_le_scanMaxPriority (a.modify id.toNat fun v => { v with priority := p.toNat })
      inside
  · rename_i notRaised _
    cases ok
    refine ofBound ?_ (fun _ => rfl) (size_modify _ _ _)
    intro v inside
    rw [priorityAt, maxPriority_modify]
    simp only [maxPriority_modify] at notRaised
    split
    · omega
    · exact consistent.priority_le v (by simpa [Arena.size, Arena.modify] using inside)

/-- Adding an edge appends it to the source's outgoing list and to the target's
incoming list, and changes nothing else of the vertices. -/
theorem addEdge_spec {src dst : Int} (ok : a.addEdge src dst = .ok b) :
    b.size = a.size ∧ b.maxPriority = a.maxPriority ∧ src.toNat < a.size ∧
      dst.toNat < a.size ∧ ∀ v,
        (b.vertex v).outgoing = (if v = src.toNat then (a.vertex v).outgoing.push dst.toNat
          else (a.vertex v).outgoing) ∧
        (b.vertex v).incoming = (if v = dst.toNat then (a.vertex v).incoming.push src.toNat
          else (a.vertex v).incoming) ∧
        (b.vertex v).priority = (a.vertex v).priority ∧ (b.vertex v).id = (a.vertex v).id := by
  unfold Arena.addEdge at ok
  split at ok
  · cases ok
  rename_i knownSource
  split at ok
  · cases ok
  rename_i knownTarget
  cases ok
  have srcInside : src.toNat < a.size := by
    have := has_iff.1 (by simpa using knownSource)
    omega
  have dstInside : dst.toNat < a.size := by
    have := has_iff.1 (by simpa using knownTarget)
    omega
  refine ⟨by simp [Arena.size, Arena.modify], rfl, srcInside, dstInside, ?_⟩
  intro v
  have twice : ((a.modify src.toNat fun v => { v with outgoing := v.outgoing.push dst.toNat }).modify
      dst.toNat fun v => { v with incoming := v.incoming.push src.toNat }).vertex v =
      if dst.toNat = v ∧ v < a.size then
        { (if src.toNat = v ∧ v < a.size then
            { a.vertex v with outgoing := (a.vertex v).outgoing.push dst.toNat }
          else a.vertex v) with
          incoming := (a.vertex v).incoming.push src.toNat }
      else if src.toNat = v ∧ v < a.size then
        { a.vertex v with outgoing := (a.vertex v).outgoing.push dst.toNat }
      else a.vertex v := by
    rw [vertex_modify, vertex_modify, size_modify]
    split <;> split <;> rfl
  rw [vertex_setEdges, twice]
  by_cases atSource : v = src.toNat <;> by_cases atTarget : v = dst.toNat
  · simp [← atSource, ← atTarget, atSource ▸ srcInside]
  · simp [← atSource, Ne.symm atTarget, atSource ▸ srcInside, atTarget]
  · simp [← atTarget, Ne.symm atSource, atTarget ▸ dstInside, atSource]
  · simp [Ne.symm atSource, Ne.symm atTarget, atSource, atTarget]

theorem Consistent.addEdge (consistent : a.Consistent) {src dst : Int}
    (ok : a.addEdge src dst = .ok b) : b.Consistent := by
  obtain ⟨size, maxPriority, srcInside, dstInside, vertexAt⟩ := addEdge_spec ok
  have grows : ∀ u w, w ∈ (a.vertex u).outgoing → w ∈ (b.vertex u).outgoing := by
    intro u w mem
    rw [(vertexAt u).1]
    split
    · exact Array.mem_push_of_mem _ mem
    · exact mem
  refine ⟨?_, ?_, ?_⟩
  · intro v inside
    rw [(vertexAt v).2.2.1, maxPriority]
    exact consistent.priority_le v (size ▸ inside)
  · intro v inside w mem
    rw [(vertexAt v).1] at mem
    rw [size]
    split at mem
    · rcases Array.mem_push.1 mem with old | new
      · exact consistent.target_lt v (size ▸ inside) w old
      · exact new ▸ dstInside
    · exact consistent.target_lt v (size ▸ inside) w mem
  · intro v inside u mem
    rw [(vertexAt v).2.1] at mem
    split at mem
    · rename_i atTarget
      rcases Array.mem_push.1 mem with old | new
      · exact grows u v (consistent.incoming_sound v (size ▸ inside) u old)
      · subst new
        rw [(vertexAt _).1, if_pos rfl, atTarget]
        exact Array.mem_push_self
    · exact grows u v (consistent.incoming_sound v (size ▸ inside) u mem)

/-- Clearing a vertex resets it to its id, drops it from the lists of its
neighbours, and rescans the largest priority. -/
theorem clearVertex_spec {id : Int} (ok : a.clearVertex id = .ok b) :
    b.size = a.size ∧ b.maxPriority = scanMaxPriority b.vertices ∧ id.toNat < a.size ∧
      b.vertex id.toNat = { id := id.toNat } ∧ ∀ v, v ≠ id.toNat →
        (b.vertex v).outgoing = (if v ∈ (a.vertex id.toNat).incoming then
          (a.vertex v).outgoing.filter (· != id.toNat) else (a.vertex v).outgoing) ∧
        (b.vertex v).incoming = (if v ∈ (a.vertex id.toNat).outgoing then
          (a.vertex v).incoming.filter (· != id.toNat) else (a.vertex v).incoming) ∧
        (b.vertex v).id = (a.vertex v).id := by
  unfold Arena.clearVertex at ok
  split at ok
  · cases ok
  rename_i known
  cases ok
  have inside : id.toNat < a.size := by
    have := has_iff.1 (by simpa using known)
    omega
  simp only [vertex_setCounts, size_setCounts, size_modify, ← Array.foldl_toList,
    size_foldl_modify]
  refine ⟨trivial, trivial, inside, ?_, ?_⟩
  · rw [vertex_modify, size_foldl_modify, size_foldl_modify]
    simp [inside]
  · intro v other
    rw [vertex_modify, if_neg (fun h => other h.1.symm), vertex_foldl_modify _ (fun w => by simp),
      vertex_foldl_modify _ (fun w => by simp), size_foldl_modify]
    by_cases inV : v < a.size
    · by_cases fromI : v ∈ (a.vertex id.toNat).incoming <;>
        by_cases toI : v ∈ (a.vertex id.toNat).outgoing <;> simp [fromI, toI, inV, other]
    · simp [inV, vertex_of_size_le (Nat.le_of_not_lt inV)]

theorem Consistent.clearVertex (consistent : a.Consistent) {id : Int}
    (ok : a.clearVertex id = .ok b) : b.Consistent := by
  obtain ⟨size, maxPriority, _, cleared, vertexAt⟩ := clearVertex_spec ok
  have shrinks : ∀ v w, w ∈ (b.vertex v).outgoing → w ∈ (a.vertex v).outgoing := by
    intro v w mem
    by_cases atId : v = id.toNat
    · rw [atId, cleared] at mem
      simp at mem
    · rw [(vertexAt v atId).1] at mem
      split at mem
      · exact (Array.mem_filter.1 mem).1
      · exact mem
  refine ⟨?_, ?_, ?_⟩
  · intro v inside
    rw [maxPriority]
    exact priority_le_scanMaxPriority b inside
  · intro v inside w mem
    rw [size]
    exact consistent.target_lt v (size ▸ inside) w (shrinks v w mem)
  · intro v inside u mem
    have notId : v ≠ id.toNat := by
      rintro rfl
      rw [cleared] at mem
      simp at mem
    rw [(vertexAt v notId).2.1] at mem
    have wasIncoming : u ∈ (a.vertex v).incoming := by
      split at mem
      · exact (Array.mem_filter.1 mem).1
      · exact mem
    have back := consistent.incoming_sound v (size ▸ inside) u wasIncoming
    -- the cleared vertex is dropped from the incoming lists of its successors
    have uNotId : u ≠ id.toNat := by
      rintro rfl
      rw [if_pos back] at mem
      simp at mem
    rw [(vertexAt u uNotId).1]
    split
    · exact Array.mem_filter.2 ⟨back, by simpa using notId⟩
    · exact back

theorem Consistent.new (n : Int) : (Arena.new n).Consistent := by
  have empty : ({} : Arena).Consistent := by
    refine ⟨?_, ?_, ?_⟩ <;> intro v inside <;> simp [size] at inside
  exact empty.resize n

/-- Every arena the operations build is consistent. -/
theorem Reachable.consistent {a : Arena} (reachable : a.Reachable) : a.Consistent := by
  induction reachable with
  | new n => exact Consistent.new n
  | resize n _ ih => exact ih.resize n
  | setOwner _ ok ih => exact ih.setOwner ok
  | setPriority _ ok ih => exact ih.setPriority ok
  | setLabel _ ok ih => exact ih.setLabel ok
  | addEdge _ ok ih => exact ih.addEdge ok
  | clearVertex _ ok ih => exact ih.clearVertex ok

/-- Four vertices: `0`, `1` and `3` loop on themselves with priorities 1, 2
and 3, and `2`, of Odd and priority 0, moves to `0` or to `1`.  Odd wins `0`,
`2` and `3`, Even wins `1`; measures have two components, for priorities 1
and 3, each bounded by 1. -/
def choiceLoops : Arena :=
  { vertices := #[{ priority := 1, outgoing := #[0], incoming := #[0, 2] },
      { id := 1, priority := 2, outgoing := #[1], incoming := #[1, 2] },
      { id := 2, owner := .odd, outgoing := #[0, 1] },
      { id := 3, priority := 3, outgoing := #[3], incoming := #[3] }],
    edges := 5, maxPriority := 3 }

/-- The operations build `choiceLoops`: priorities and the owner first, then
the edges. -/
theorem reachable_choiceLoops : choiceLoops.Reachable :=
  @Reachable.addEdge _ _ 3 3 (@Reachable.addEdge _ _ 2 1 (@Reachable.addEdge _ _ 2 0
    (@Reachable.addEdge _ _ 1 1 (@Reachable.addEdge _ _ 0 0 (@Reachable.setOwner _ _ 2 .odd
      (@Reachable.setPriority _ _ 3 3 (@Reachable.setPriority _ _ 1 2
        (@Reachable.setPriority _ _ 0 1 (.new 4) rfl) rfl) rfl) rfl) rfl) rfl) rfl) rfl) rfl

/-- Every vertex of `choiceLoops` can move, and its lists agree. -/
theorem validate_choiceLoops : choiceLoops.validate = .ok () := by
  have outgoing : choiceLoops.outgoingFault = none := by decide +kernel
  have incoming : choiceLoops.incomingFault = none := by decide +kernel
  simp only [validate, outgoing, incoming]

end Operations

end Arena

end ParityGames
