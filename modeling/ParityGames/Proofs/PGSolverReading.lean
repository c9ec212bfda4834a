import ParityGames.Proofs.PGSolverRoundTrip

/-!
# Reading a PGSolver text

`read_spec` says exactly when `read` accepts a text and what it gives.  A text is read
iff every line fits the reader's buffer and the text is `WellFormed`: every line reads
by its kind (blank, a `parity` or `start` header, or a vertex line), the ids of the `n`
vertex lines are exactly `0 … n-1`, the last declared largest id is below `n` and every
successor is a vertex.  The arena read then has `n` vertices, passes `validate`, and
each vertex carries its line.  A refused text gets the error of the first check it
fails, in the order the reader makes them: the first line that is too long or does not
read, the first repeated id below `n`, the least id below `n` that no line has, a
declared largest id not below `n`, and the first successor that is no vertex.

The buffer check comes before the kind of a line, so a blank line of `maxLineBytes`
bytes is refused though the text is well formed (`read_blank_line_too_long`).

An id of `n` or more is never refused by itself: the marks of the id check only cover
`0 … n-1`.  Without a repeat below `n`, such an id leaves one of `0 … n-1` unmarked
(`perm_range_of_covers`), and that id is reported missing.
-/

namespace ParityGames

namespace PGSolver

open Text

/-! ## Lines -/

/-- What one line of the text is. -/
inductive Line where
  | blank
  | parity (n : Nat)
  | start
  | vertex (v : VertexLine)

/-- What a line adds to the scan: its vertex line, or its declared largest id. -/
def Line.collect (acc : Scan) : Line → Scan
  | .parity n => { acc with declared := some n }
  | .vertex v => { acc with vertices := acc.vertices.push v }
  | .blank | .start => acc

/-- Reads a line, numbered `line`, by its kind. -/
def lineKind (line : Nat) (raw : String) : Except ReadError Line :=
  let text := trimBlanks (dropReturn raw)
  if text.isEmpty then .ok .blank
  else
    match afterKeyword text "parity" with
    | some rest =>
      match headerNumber rest with
      | .ok n => .ok (.parity n)
      | .error e => .error (.header line "header" e)
    | none =>
      match afterKeyword text "start" with
      | some rest =>
        match headerNumber rest with
        | .ok _ => .ok .start
        | .error e => .error (.header line "start" e)
      | none =>
        match readVertexLine line text with
        | .ok v => .ok (.vertex v)
        | .error e => .error (.vertexLine line e)

/-- Reads a line as the reader does: the buffer check first, then the kind. -/
def readLine (line : Nat) (raw : String) : Except ReadError Line :=
  if raw.utf8ByteSize + 1 > maxLineBytes then .error .lineTooLong else lineKind line raw

theorem scanStep_eq (acc : Scan) (raw : String) (idx : Nat) :
    scanStep acc (raw, idx) = (readLine (idx + 1) raw).map (Line.collect acc) := by
  unfold scanStep readLine lineKind
  dsimp only
  split
  · rfl
  · generalize trimBlanks (dropReturn raw) = text
    split
    · rfl
    · cases afterKeyword text "parity" with
      | some rest =>
        dsimp only
        cases headerNumber rest <;> rfl
      | none =>
        dsimp only
        cases afterKeyword text "start" with
        | some rest =>
          dsimp only
          cases headerNumber rest <;> rfl
        | none =>
          dsimp only
          cases readVertexLine (idx + 1) text <;> rfl

def Line.vertex? : Line → Option VertexLine
  | .vertex v => some v
  | .blank | .parity _ | .start => none

def Line.parity? : Line → Option Nat
  | .parity n => some n
  | .blank | .start | .vertex _ => none

/-- The lines of a text, each read by its kind. -/
def kinds (text : String) : List (Except ReadError Line) :=
  (lines text).zipIdx.map fun (raw, idx) => lineKind (idx + 1) raw

/-- The lines of a text, each read as the reader does. -/
def readings (text : String) : List (Except ReadError Line) :=
  (lines text).zipIdx.map fun (raw, idx) => readLine (idx + 1) raw

/-- The vertex lines of a text, in order. -/
def vertexLines (text : String) : List VertexLine :=
  ((kinds text).filterMap Except.toOption).filterMap Line.vertex?

/-- The largest id the last `parity` line of a text declares. -/
def declaredOf (text : String) : Option Nat :=
  (((kinds text).filterMap Except.toOption).filterMap Line.parity?).getLast?

/-- Every line fits the reader's buffer, its newline included. -/
def LinesFit (text : String) : Prop := ∀ raw ∈ lines text, raw.utf8ByteSize < maxLineBytes

/-! ## Scanning the lines -/

theorem scanLines_eq (text : String) :
    scanLines (lines text) = (readings text).foldlM (fun acc r => r.map (Line.collect acc)) {} := by
  rw [scanLines, readings, List.foldlM_map]
  congr
  funext acc entry
  exact scanStep_eq acc entry.1 entry.2

theorem foldlM_collect_error {σ β ε : Type} (g : σ → β → σ) {e : ε} {post : List (Except ε β)} :
    ∀ (pre : List (Except ε β)) (acc : σ), (∀ r ∈ pre, ∃ b, r = .ok b) →
      (pre ++ .error e :: post).foldlM (fun acc r => r.map (g acc)) acc = .error e
  | [], _, _ => rfl
  | r :: pre, acc, good => by
    obtain ⟨b, rfl⟩ := good r List.mem_cons_self
    exact foldlM_collect_error g pre (g acc b) fun r' mem => good r' (List.mem_cons_of_mem _ mem)

theorem foldlM_collect_ok {σ β ε : Type} (g : σ → β → σ) :
    ∀ (rs : List (Except ε β)) (acc : σ), (∀ r ∈ rs, ∃ b, r = .ok b) →
      rs.foldlM (fun acc r => r.map (g acc)) acc = .ok ((rs.filterMap Except.toOption).foldl g acc)
  | [], _, _ => rfl
  | r :: rs, acc, good => by
    obtain ⟨b, rfl⟩ := good r List.mem_cons_self
    exact foldlM_collect_ok g rs (g acc b) fun r' mem => good r' (List.mem_cons_of_mem _ mem)

theorem foldl_collect (ls : List Line) (acc : Scan) :
    ls.foldl Line.collect acc =
      { vertices := acc.vertices ++ (ls.filterMap Line.vertex?).toArray
        declared := ((ls.filterMap Line.parity?).getLast?).or acc.declared } := by
  induction ls generalizing acc with
  | nil => simp
  | cons l ls ih =>
    rw [List.foldl_cons, ih]
    cases l <;> simp [Line.collect, Line.vertex?, Line.parity?, List.filterMap_cons, List.getLast?_cons]

theorem readLine_of_fits {raw : String} (fits : raw.utf8ByteSize < maxLineBytes) (line : Nat) :
    readLine line raw = lineKind line raw :=
  if_neg (by omega)

theorem readLine_of_long {raw : String} (long : maxLineBytes ≤ raw.utf8ByteSize) (line : Nat) :
    readLine line raw = .error .lineTooLong :=
  if_pos (by omega)

theorem readings_eq_kinds {text : String} (fit : LinesFit text) : readings text = kinds text := by
  apply List.map_congr_left
  rintro ⟨raw, idx⟩ mem
  exact readLine_of_fits (fit raw (List.fst_mem_of_mem_zipIdx mem)) _

theorem exists_mem_zipIdx {raw : String} {ls : List String} (mem : raw ∈ ls) :
    ∃ idx, (raw, idx) ∈ ls.zipIdx := by
  obtain ⟨i, lt, rfl⟩ := List.mem_iff_getElem.1 mem
  exact ⟨i, by simp [List.mem_zipIdx_iff_getElem?]⟩

/-- Every line reads iff every line fits the buffer and reads by its kind. -/
theorem readings_ok_iff (text : String) :
    (∀ r ∈ readings text, ∃ l, r = .ok l) ↔ LinesFit text ∧ ∀ r ∈ kinds text, ∃ l, r = .ok l := by
  constructor
  · intro good
    have fit : LinesFit text := by
      intro raw mem
      obtain ⟨idx, entry⟩ := exists_mem_zipIdx mem
      obtain ⟨l, read⟩ := good _ (List.mem_map_of_mem entry)
      by_contra long
      dsimp only at read
      rw [readLine_of_long (Nat.le_of_not_lt long)] at read
      cases read
    exact ⟨fit, readings_eq_kinds fit ▸ good⟩
  · rintro ⟨fit, good⟩
    rwa [readings_eq_kinds fit]

theorem ok_of_foldlM_collect {σ β ε : Type} (g : σ → β → σ) :
    ∀ (rs : List (Except ε β)) (acc : σ) {t : σ}, rs.foldlM (fun acc r => r.map (g acc)) acc = .ok t →
      ∀ r ∈ rs, ∃ b, r = .ok b
  | [], _, _, _ => fun _ mem => absurd mem List.not_mem_nil
  | .error _ :: _, _, _, folded => by cases folded
  | .ok b :: rs, acc, _, folded => by
    intro r mem
    rcases List.mem_cons.1 mem with rfl | later
    · exact ⟨b, rfl⟩
    · exact ok_of_foldlM_collect g rs (g acc b) folded r later

theorem scanLines_of_ok {text : String} (good : ∀ r ∈ readings text, ∃ l, r = .ok l) :
    scanLines (lines text) = .ok { vertices := (vertexLines text).toArray, declared := declaredOf text } := by
  obtain ⟨fit, -⟩ := (readings_ok_iff text).1 good
  rw [scanLines_eq, foldlM_collect_ok _ _ _ good, foldl_collect, readings_eq_kinds fit]
  simp [vertexLines, declaredOf]

theorem readings_ok_of_scanLines {text : String} {scan : Scan} (scanned : scanLines (lines text) = .ok scan) :
    ∀ r ∈ readings text, ∃ l, r = .ok l := by
  rw [scanLines_eq] at scanned
  exact ok_of_foldlM_collect _ _ _ scanned

/-- What reading does once the lines are scanned. -/
def assemble (scan : Scan) : Except ReadError Arena := do
  checkIds scan
  let a ← scan.vertices.foldlM defineLine (Arena.new scan.vertices.size)
  match a.validate with
  | .ok _ => return a
  | .error e => throw (.invalid e)

theorem read_eq (text : String) : read text = scanLines (lines text) >>= assemble := rfl

/-! ## The id check -/

/-- The marks of the ids `0 … n-1`: which of them occur in a list. -/
def marks (n : Nat) (ids : List Nat) : Array Bool :=
  ((List.range n).map fun i => decide (i ∈ ids)).toArray

theorem marks_nil (n : Nat) : marks n [] = Array.replicate n false := by
  simp [marks, List.map_const']

theorem getElem!_marks {n i : Nat} (ids : List Nat) (lt : i < n) : (marks n ids)[i]! = decide (i ∈ ids) := by
  simp [marks, lt]

theorem marks_congr {n : Nat} {ids ids' : List Nat} (same : ∀ i < n, i ∈ ids ↔ i ∈ ids') :
    marks n ids = marks n ids' := by
  unfold marks
  congr 1
  apply List.map_congr_left
  intro i mem
  simp [same i (List.mem_range.1 mem)]

theorem set!_marks (n k : Nat) (ids : List Nat) : (marks n ids).set! k true = marks n (ids ++ [k]) := by
  rw [marks, marks, Array.set!_eq_setIfInBounds, List.setIfInBounds_toArray]
  congr 1
  apply List.ext_getElem (by simp)
  intro i first _
  simp only [List.getElem_set, List.getElem_map, List.getElem_range, List.mem_append, List.mem_singleton]
  split <;> simp_all [eq_comm]

/-- Marking one more line: a repeated id below `n` is a duplicate, any other id is
marked, and an id out of range changes nothing. -/
theorem markSeen_marks (n : Nat) (ids : List Nat) (v : VertexLine) :
    markSeen n (marks n ids) v =
      if v.id < n ∧ v.id ∈ ids then .error (.duplicate v.line v.id) else pure (marks n (ids ++ [v.id])) := by
  unfold markSeen
  by_cases lt : v.id < n
  · rw [if_neg (Nat.not_le.2 lt), getElem!_marks ids lt]
    by_cases seen : v.id ∈ ids
    · simp [lt, seen]
      rfl
    · rw [set!_marks n v.id ids]
      simp [lt, seen]
  · rw [if_pos (Nat.le_of_not_lt lt), if_neg (fun both => lt both.1)]
    congr 1
    apply marks_congr
    intro i below
    have other : i ≠ v.id := by omega
    simp [other]

section Marking

variable (n : Nat)

/-- Ids below `n` occur at most once. -/
def Distinct (ids : List Nat) : Prop := (ids.filter (· < n)).Nodup

variable {n}

theorem Distinct.of_append {ids more : List Nat} (distinct : Distinct n (ids ++ more)) : Distinct n ids :=
  distinct.sublist ((List.sublist_append_left ids more).filter _)

theorem Distinct.append_singleton {ids : List Nat} {k : Nat} (distinct : Distinct n ids) :
    Distinct n (ids ++ [k]) ↔ ¬ (k < n ∧ k ∈ ids) := by
  unfold Distinct at *
  by_cases lt : k < n
  · simp [List.filter_append, List.nodup_append, distinct, lt]
    exact ⟨fun fresh mem => fresh k mem lt rfl, fun absent a mem _ same => absent (same ▸ mem)⟩
  · simp [List.filter_append, distinct, lt]

/-- Without a repeated id below `n`, marking the lines marks their ids. -/
theorem foldlM_markSeen_marks (ws : List VertexLine) {ids : List Nat}
    (distinct : Distinct n (ids ++ ws.map (·.id))) :
    ws.foldlM (markSeen n) (marks n ids) = pure (marks n (ids ++ ws.map (·.id))) := by
  induction ws generalizing ids with
  | nil => simp
  | cons w ws ih =>
    have regrouped : Distinct n (ids ++ [w.id] ++ ws.map (·.id)) := by simpa using distinct
    have fresh := regrouped.of_append.of_append.append_singleton.1 regrouped.of_append
    rw [List.foldlM_cons, markSeen_marks, if_neg fresh, pure_bind, ih regrouped]
    simp

/-- Marking stops at the first id below `n` that repeats an earlier one. -/
theorem foldlM_markSeen_duplicate {pre post : List VertexLine} {v : VertexLine} {ids : List Nat}
    (distinct : Distinct n (ids ++ pre.map (·.id))) (lt : v.id < n) (seen : v.id ∈ ids ++ pre.map (·.id)) :
    (pre ++ v :: post).foldlM (markSeen n) (marks n ids) = .error (.duplicate v.line v.id) := by
  rw [List.foldlM_append, foldlM_markSeen_marks pre distinct, pure_bind, List.foldlM_cons, markSeen_marks,
    if_pos ⟨lt, seen⟩]
  rfl

theorem distinct_of_foldlM_markSeen {ws : List VertexLine} {ids : List Nat} {seen : Array Bool}
    (distinct : Distinct n ids) (marked : ws.foldlM (markSeen n) (marks n ids) = .ok seen) :
    Distinct n (ids ++ ws.map (·.id)) := by
  induction ws generalizing ids with
  | nil => simpa using distinct
  | cons w ws ih =>
    rw [List.foldlM_cons, markSeen_marks] at marked
    split at marked
    next repeated => cases marked
    next fresh =>
      have next := ih (distinct.append_singleton.2 fresh) marked
      simpa using next

theorem find?_marks_eq_some {ids : List Nat} {i : Nat} :
    (List.range n).find? (fun j => !(marks n ids)[j]!) = some i ↔ i < n ∧ i ∉ ids ∧ ∀ j < i, j ∈ ids := by
  rw [List.find?_range_eq_some]
  constructor
  · rintro ⟨unmarked, mem, least⟩
    have lt := List.mem_range.1 mem
    refine ⟨lt, by simpa [getElem!_marks ids lt] using unmarked, fun j below => ?_⟩
    simpa [getElem!_marks ids (by omega : j < n)] using least j below
  · rintro ⟨lt, absent, least⟩
    refine ⟨by simpa [getElem!_marks ids lt] using absent, List.mem_range.2 lt, fun j below => ?_⟩
    simpa [getElem!_marks ids (by omega : j < n)] using least j below

theorem find?_marks_eq_none {ids : List Nat} :
    (List.range n).find? (fun j => !(marks n ids)[j]!) = none ↔ ∀ i < n, i ∈ ids := by
  rw [List.find?_eq_none]
  refine forall_congr' fun i => ?_
  constructor
  · intro marked lt
    simpa [getElem!_marks ids lt] using marked (List.mem_range.2 lt)
  · intro mem inside
    have lt := List.mem_range.1 inside
    simpa [getElem!_marks ids lt] using mem lt

/-- Pigeonhole: `n` ids that cover `0 … n-1` are exactly those. -/
theorem perm_range_of_covers {ids : List Nat} (covers : ∀ i < n, i ∈ ids)
    (length : ids.length = n) : ids.Perm (List.range n) := by
  have sub : (List.range n).Subperm (ids.filter (· < n)) :=
    List.nodup_range.subperm fun i mem => by
      have lt := List.mem_range.1 mem
      simpa [lt] using covers i lt
  have perm := sub.perm_of_length_le (by simpa [length] using List.length_filter_le _ ids)
  have all : ids.filter (· < n) = ids := by
    apply List.filter_eq_self.2
    apply List.length_filter_eq_length_iff.1
    rw [← perm.length_eq, length, List.length_range]
  rw [← all]
  exact perm.symm

theorem lt_of_perm_range {ids : List Nat} (perm : ids.Perm (List.range n)) {i : Nat} (mem : i ∈ ids) : i < n :=
  List.mem_range.1 (perm.mem_iff.1 mem)

theorem mem_of_perm_range {ids : List Nat} (perm : ids.Perm (List.range n)) {i : Nat} (lt : i < n) : i ∈ ids :=
  perm.mem_iff.2 (List.mem_range.2 lt)

theorem Distinct.of_perm {ids : List Nat} (perm : ids.Perm (List.range n)) : Distinct n ids :=
  (perm.nodup_iff.2 List.nodup_range).filter _

end Marking

/-- Without a repeated id below the number of lines, the id check reports the least id
that no line has, and then a declared largest id that is not below that number. -/
theorem checkIds_of_distinct {vs : List VertexLine} (declared : Option Nat)
    (distinct : Distinct vs.length (vs.map (·.id))) :
    checkIds { vertices := vs.toArray, declared } =
      match (List.range vs.length).find? (fun i => !(marks vs.length (vs.map (·.id)))[i]!) with
      | some i => .error (.missing i)
      | none =>
        match declared with
        | some d => if vs.length ≤ d then .error (.missingDeclared vs.length d) else .ok ()
        | none => .ok () := by
  rw [checkIds]
  simp only [List.foldlM_toArray]
  have marked := foldlM_markSeen_marks vs (show Distinct vs.length ([] ++ vs.map (·.id)) by simpa using distinct)
  simp only [List.size_toArray, ← marks_nil, marked, pure_bind, List.nil_append]
  cases (List.range vs.length).find? fun i => !(marks vs.length (vs.map (·.id)))[i]! <;>
    cases declared <;> rfl

/-- The id check stops at the first id below the number of lines that repeats an earlier one. -/
theorem checkIds_duplicate {vs pre post : List VertexLine} {v : VertexLine} (declared : Option Nat)
    (split : vs = pre ++ v :: post) (distinct : Distinct vs.length (pre.map (·.id))) (lt : v.id < vs.length)
    (seen : v.id ∈ pre.map (·.id)) :
    checkIds { vertices := vs.toArray, declared } = .error (.duplicate v.line v.id) := by
  have marked : (pre ++ v :: post).foldlM (markSeen vs.length) (marks vs.length []) =
      .error (.duplicate v.line v.id) :=
    foldlM_markSeen_duplicate (by simpa using distinct) lt (by simpa using seen)
  rw [← split] at marked
  rw [checkIds]
  simp only [List.foldlM_toArray]
  simp only [List.size_toArray, ← marks_nil, marked]
  rfl

/-- The ids pass their check iff they are exactly `0 … n-1` for `n` lines and the
declared largest id, if any, is below `n`. -/
theorem checkIds_eq_ok_iff (vs : List VertexLine) (declared : Option Nat) :
    checkIds { vertices := vs.toArray, declared } = .ok () ↔
      (vs.map (·.id)).Perm (List.range vs.length) ∧ ∀ d ∈ declared, d < vs.length := by
  constructor
  · intro passed
    have distinct : Distinct vs.length (vs.map (·.id)) := by
      rw [checkIds] at passed
      simp only [List.foldlM_toArray] at passed
      simp only [List.size_toArray, ← marks_nil] at passed
      cases marked : vs.foldlM (markSeen vs.length) (marks vs.length []) with
      | error e =>
        rw [marked] at passed
        cases passed
      | ok seen => simpa using distinct_of_foldlM_markSeen (by simp [Distinct]) marked
    rw [checkIds_of_distinct declared distinct] at passed
    split at passed
    · cases passed
    next none =>
      refine ⟨perm_range_of_covers (find?_marks_eq_none.1 none) (by simp), fun d mem => ?_⟩
      subst mem
      dsimp only at passed
      split at passed
      · cases passed
      · omega
  · rintro ⟨perm, below⟩
    rw [checkIds_of_distinct declared (.of_perm perm), find?_marks_eq_none.2 fun i => mem_of_perm_range perm]
    cases declared with
    | none => rfl
    | some d => simp [below d rfl]

/-- Without a repeated id below `n`, the least id below `n` that no line has is missing. -/
theorem checkIds_missing {vs : List VertexLine} {i : Nat} (declared : Option Nat)
    (distinct : Distinct vs.length (vs.map (·.id))) (lt : i < vs.length) (absent : i ∉ vs.map (·.id))
    (least : ∀ j < i, j ∈ vs.map (·.id)) :
    checkIds { vertices := vs.toArray, declared } = .error (.missing i) := by
  rw [checkIds_of_distinct declared distinct, find?_marks_eq_some.2 ⟨lt, absent, least⟩]

/-- With the ids exactly `0 … n-1`, a declared largest id not below `n` is refused. -/
theorem checkIds_declared {vs : List VertexLine} {d : Nat}
    (perm : (vs.map (·.id)).Perm (List.range vs.length)) (above : vs.length ≤ d) :
    checkIds { vertices := vs.toArray, declared := some d } = .error (.missingDeclared vs.length d) := by
  rw [checkIds_of_distinct _ (.of_perm perm), find?_marks_eq_none.2 fun i => mem_of_perm_range perm]
  simp [above]

/-! ## Defining the read vertices -/

open Arena

theorem addEdge_unknownTarget {a : Arena} {src dst : Nat} (source : src < a.size) (outside : a.size ≤ dst) :
    a.addEdge src dst = .error (.unknownTarget dst) := by
  have missing : a.has dst = false := by
    rw [Bool.eq_false_iff, Ne, has_iff]
    omega
  rw [Arena.addEdge, has_of_lt source, missing]
  rfl

/-- Adding the edges of a read vertex stops at the first successor outside the arena. -/
theorem foldlM_addSuccessor_unknown (r : VertexLine) {b : Arena} (reachable : b.Reachable) (inside : r.id < b.size)
    {pre post : List Nat} {t : Nat} (known : ∀ s ∈ pre, s < b.size) (outside : b.size ≤ t) :
    (pre ++ t :: post).foldlM (addSuccessor r) b = .error (.edge r.line r.id (.unknownTarget t)) := by
  obtain ⟨c, folded, -, size, -⟩ := foldlM_addSuccessor r reachable inside pre known
  rw [List.foldlM_append, folded, pure_bind, List.foldlM_cons, addSuccessor,
    addEdge_unknownTarget (size ▸ inside) (size ▸ outside)]
  rfl

theorem lt_of_foldlM_addSuccessor {r : VertexLine} {b c : Arena} {ts : List Nat}
    (added : ts.foldlM (addSuccessor r) b = .ok c) : ∀ t ∈ ts, t < b.size := by
  induction ts generalizing b with
  | nil => exact fun _ mem => absurd mem List.not_mem_nil
  | cons t ts ih =>
    rw [List.foldlM_cons, addSuccessor] at added
    split at added
    next b₁ edge =>
      obtain ⟨size, -, -, target, -⟩ := addEdge_spec edge
      intro s mem
      rcases List.mem_cons.1 mem with rfl | later
      · simpa using target
      · exact size ▸ ih added s later
    next => cases added

/-- The vertex of a read line carries what the line gives. -/
structure Carries (a : Arena) (w : VertexLine) : Prop where
  owner : (a.vertex w.id).owner = w.owner
  priority : (a.vertex w.id).priority = w.priority
  label : (a.vertex w.id).label = w.label
  successors : (a.vertex w.id).outgoing.toList = w.successors

/-- Vertex `u` has the same owner, priority, label and successors in both arenas. -/
def Keeps (b c : Arena) (u : Nat) : Prop :=
  (c.vertex u).owner = (b.vertex u).owner ∧ (c.vertex u).priority = (b.vertex u).priority ∧
    (c.vertex u).label = (b.vertex u).label ∧ (c.vertex u).outgoing = (b.vertex u).outgoing

theorem Keeps.trans {b c d : Arena} {u : Nat} (first : Keeps b c u) (second : Keeps c d u) : Keeps b d u :=
  ⟨second.1.trans first.1, second.2.1.trans first.2.1, second.2.2.1.trans first.2.2.1,
    second.2.2.2.trans first.2.2.2⟩

theorem Carries.of_keeps {b c : Arena} {w : VertexLine} (carries : Carries b w) (keeps : Keeps b c w.id) :
    Carries c w where
  owner := keeps.1.trans carries.owner
  priority := keeps.2.1.trans carries.priority
  label := keeps.2.2.1.trans carries.label
  successors := by rw [keeps.2.2.2, carries.successors]

/-- Defining read vertices with distinct ids and successors inside the arena, each on a
vertex without successors yet, makes every one carry its line and keeps the other vertices. -/
theorem foldlM_defineLine_spec {b : Arena} (reachable : b.Reachable) {ws : List VertexLine}
    (distinct : (ws.map (·.id)).Nodup) (inside : ∀ w ∈ ws, w.id < b.size)
    (targets : ∀ w ∈ ws, ∀ t ∈ w.successors, t < b.size) (fresh : ∀ w ∈ ws, (b.vertex w.id).outgoing = #[]) :
    ∃ c, ws.foldlM defineLine b = pure c ∧ c.Reachable ∧ c.size = b.size ∧
      (∀ w ∈ ws, Carries c w) ∧ ∀ u ∉ ws.map (·.id), Keeps b c u := by
  induction ws generalizing b with
  | nil => exact ⟨b, rfl, reachable, rfl, fun _ mem => absurd mem List.not_mem_nil,
      fun _ _ => ⟨rfl, rfl, rfl, rfl⟩⟩
  | cons w ws ih =>
    obtain ⟨first, rest⟩ := List.nodup_cons.1 distinct
    obtain ⟨b₁, defined, reachable₁, size₁, -, ⟨owner, priority, label, outgoing⟩, others⟩ :=
      defineLine_spec reachable (inside w List.mem_cons_self) (targets w List.mem_cons_self)
    have apart : ∀ w' ∈ ws, w'.id ≠ w.id := fun w' mem same => first (List.mem_map.2 ⟨w', mem, same⟩)
    obtain ⟨c, folded, reachableC, sizeC, carriesC, keepsC⟩ := ih reachable₁ rest
      (fun w' mem => size₁ ▸ inside w' (List.mem_cons_of_mem w mem))
      (fun w' mem => size₁ ▸ targets w' (List.mem_cons_of_mem w mem))
      (fun w' mem => (others w'.id (apart w' mem)).2.2.2.trans (fresh w' (List.mem_cons_of_mem w mem)))
    have carries₁ : Carries b₁ w :=
      ⟨owner, priority, label, by rw [outgoing, fresh w List.mem_cons_self]; rfl⟩
    refine ⟨c, by rw [List.foldlM_cons, defined, pure_bind, folded], reachableC, sizeC.trans size₁,
      fun w' mem => ?_, fun u absent => ?_⟩
    · rcases List.mem_cons.1 mem with rfl | later
      · exact carries₁.of_keeps (keepsC w'.id first)
      · exact carriesC w' later
    · simp only [List.map_cons, List.mem_cons, not_or] at absent
      exact Keeps.trans (others u absent.1) (keepsC u absent.2)

/-- Defining read vertices stops at the first successor outside the arena. -/
theorem foldlM_defineLine_unknown {b : Arena} (reachable : b.Reachable) {pre post : List VertexLine}
    {w : VertexLine} (distinct : (pre.map (·.id)).Nodup) (inside : ∀ w' ∈ pre ++ [w], w'.id < b.size)
    (known : ∀ w' ∈ pre, ∀ t ∈ w'.successors, t < b.size) (fresh : ∀ w' ∈ pre, (b.vertex w'.id).outgoing = #[])
    {ts us : List Nat} {t : Nat} (successors : w.successors = ts ++ t :: us) (knownTs : ∀ s ∈ ts, s < b.size)
    (outside : b.size ≤ t) :
    (pre ++ w :: post).foldlM defineLine b = .error (.edge w.line w.id (.unknownTarget t)) := by
  obtain ⟨c, folded, reachableC, sizeC, -⟩ := foldlM_defineLine_spec reachable distinct
    (fun w' mem => inside w' (List.mem_append_left _ mem)) known fresh
  have insideC : w.id < c.size := sizeC ▸ inside w (List.mem_append_right _ List.mem_cons_self)
  obtain ⟨b₃, reachable₃, size₃, -, defined⟩ := defineLine_eq_foldlM reachableC insideC
  have failed : (ts ++ t :: us).foldlM (addSuccessor w) b₃ = .error (.edge w.line w.id (.unknownTarget t)) :=
    foldlM_addSuccessor_unknown w reachable₃ (size₃ ▸ insideC) (fun s mem => size₃ ▸ sizeC ▸ knownTs s mem)
      (size₃ ▸ sizeC ▸ outside)
  rw [List.foldlM_append, folded, pure_bind, List.foldlM_cons, defined, successors, failed]
  rfl

theorem successors_lt_of_foldlM_defineLine {b c : Arena} (reachable : b.Reachable) {ws : List VertexLine}
    (inside : ∀ w ∈ ws, w.id < b.size) (defined : ws.foldlM defineLine b = .ok c) :
    ∀ w ∈ ws, ∀ t ∈ w.successors, t < b.size := by
  induction ws generalizing b with
  | nil => exact fun _ mem => absurd mem List.not_mem_nil
  | cons w ws ih =>
    obtain ⟨b₃, reachable₃, size₃, -, setUp⟩ := defineLine_eq_foldlM reachable (inside w List.mem_cons_self)
    rw [List.foldlM_cons, setUp] at defined
    cases added : w.successors.foldlM (addSuccessor w) b₃ with
    | error e =>
      rw [added] at defined
      cases defined
    | ok b₁ =>
      have targets := lt_of_foldlM_addSuccessor added
      obtain ⟨c', added', reachable₁, size₁, -⟩ :=
        foldlM_addSuccessor w reachable₃ (size₃ ▸ inside w List.mem_cons_self) w.successors targets
      obtain rfl : c' = b₁ := by
        rw [added] at added'
        cases added'
        rfl
      rw [added] at defined
      intro w' mem
      rcases List.mem_cons.1 mem with rfl | later
      · exact fun t member => size₃ ▸ targets t member
      · exact size₁.trans size₃ ▸ ih reachable₁
          (fun w'' mem' => (size₁.trans size₃).symm ▸ inside w'' (List.mem_cons_of_mem w mem')) defined w' later

/-! ## Vertex lines have successors -/

theorem bind_eq_ok {α β ε : Type} {x : Except ε α} {f : α → Except ε β} {b : β} :
    x >>= f = .ok b ↔ ∃ a, x = .ok a ∧ f a = .ok b := by
  cases x <;> simp [bind, Except.bind]

theorem ok_bind {α β ε : Type} (a : α) (f : α → Except ε β) : Except.ok a >>= f = f a := rfl

theorem mapM_ne_nil {α β ε : Type} {f : α → Except ε β} {xs : List α} {ys : List β}
    (mapped : xs.mapM f = .ok ys) (nonempty : xs ≠ []) : ys ≠ [] := by
  obtain ⟨x, xs, rfl⟩ := List.exists_cons_of_ne_nil nonempty
  rw [List.mapM_cons] at mapped
  obtain ⟨y, -, mapped⟩ := bind_eq_ok.1 mapped
  obtain ⟨ys', -, mapped⟩ := bind_eq_ok.1 mapped
  cases mapped
  exact List.cons_ne_nil y ys'

theorem splitChar_ne_nil (sep : Char) (s : String) : splitChar sep s ≠ [] := by
  simp [splitChar, List.splitOn_ne_nil]

/-- A read vertex line names at least one successor: its last field splits into at least one piece. -/
theorem successors_ne_nil_of_readFields {line : Nat} {text body : String} {label : Label} {v : VertexLine}
    (read : readFields line text body label = .ok v) : v.successors ≠ [] := by
  unfold readFields at read
  split at read
  next f0 f1 f2 f3 _ =>
    obtain ⟨id, -, read⟩ := bind_eq_ok.1 read
    obtain ⟨priority, -, read⟩ := bind_eq_ok.1 read
    dsimp only at read
    -- the owner is `0`, `1` or refused
    split at read
    case h_3 => cases read
    all_goals
      rw [pure_bind] at read
      obtain ⟨successors, mapped, read⟩ := bind_eq_ok.1 read
      cases read
      exact mapM_ne_nil mapped (splitChar_ne_nil ',' f3)
  next => cases read

theorem successors_ne_nil_of_readVertexLine {line : Nat} {text : String} {v : VertexLine}
    (read : readVertexLine line text = .ok v) : v.successors ≠ [] := by
  unfold readVertexLine at read
  split at read
  · cases read
  · obtain ⟨⟨body, label⟩, -, read⟩ := bind_eq_ok.1 read
    exact successors_ne_nil_of_readFields read

theorem successors_ne_nil_of_lineKind {line : Nat} {raw : String} {v : VertexLine}
    (kind : lineKind line raw = .ok (.vertex v)) : v.successors ≠ [] := by
  unfold lineKind at kind
  dsimp only at kind
  split at kind
  · cases kind
  · split at kind
    · split at kind <;> cases kind
    · split at kind
      · split at kind <;> cases kind
      · split at kind
        · cases kind
          exact successors_ne_nil_of_readVertexLine ‹_›
        · cases kind

theorem successors_ne_nil_of_mem_vertexLines {text : String} {v : VertexLine} (mem : v ∈ vertexLines text) :
    v.successors ≠ [] := by
  obtain ⟨l, read, vertex⟩ := List.mem_filterMap.1 mem
  obtain ⟨r, kinded, ok⟩ := List.mem_filterMap.1 read
  obtain ⟨⟨raw, idx⟩, -, rfl⟩ := List.mem_map.1 kinded
  cases l <;> simp only [Line.vertex?, reduceCtorEq, Option.some.injEq] at vertex
  subst vertex
  cases kind : lineKind (idx + 1) raw with
  | error e => simp [kind, Except.toOption] at ok
  | ok l =>
    simp only [kind, Except.toOption, Option.some.injEq] at ok
    exact successors_ne_nil_of_lineKind (ok ▸ kind)

/-! ## Building the arena from the read lines -/

section Assemble

variable {vs : List VertexLine} {declared : Option Nat}

theorem assemble_eq (vs : List VertexLine) (declared : Option Nat) :
    assemble { vertices := vs.toArray, declared } =
      checkIds { vertices := vs.toArray, declared } >>= fun _ =>
        vs.foldlM defineLine (Arena.new vs.length) >>= fun a =>
          match a.validate with
          | .ok _ => pure a
          | .error e => throw (.invalid e) := by
  rw [assemble]
  simp only [List.foldlM_toArray]
  simp only [List.size_toArray]

/-- Lines whose ids are exactly `0 … n-1`, whose declared largest id is below `n` and
whose successors are vertices build an arena of `n` vertices that passes `validate`,
where each vertex carries its line. -/
theorem assemble_of_valid (perm : (vs.map (·.id)).Perm (List.range vs.length))
    (below : ∀ d ∈ declared, d < vs.length) (targets : ∀ v ∈ vs, ∀ t ∈ v.successors, t < vs.length)
    (moves : ∀ v ∈ vs, v.successors ≠ []) :
    ∃ a, assemble { vertices := vs.toArray, declared } = .ok a ∧ a.size = vs.length ∧
      a.validate = .ok () ∧ ∀ v ∈ vs, Carries a v := by
  have inside : ∀ v ∈ vs, v.id < vs.length := fun v mem => lt_of_perm_range perm (List.mem_map_of_mem mem)
  have size := size_new vs.length
  obtain ⟨a, defined, reachable, sizeA, carries, -⟩ := foldlM_defineLine_spec (.new vs.length)
    (perm.nodup_iff.2 List.nodup_range) (fun v mem => by rw [size]; exact inside v mem)
    (fun v mem => by rw [size]; exact targets v mem) (fun v _ => by rw [vertex_new])
  have valid : a.validate = .ok () := by
    rw [reachable.intact.validate_eq_ok_iff]
    intro i lt
    obtain ⟨v, mem, rfl⟩ := List.mem_map.1 (mem_of_perm_range perm (sizeA.trans size ▸ lt))
    rw [Ne, ← Array.toList_inj, (carries v mem).successors]
    exact moves v mem
  refine ⟨a, ?_, sizeA.trans size, valid, carries⟩
  rw [assemble_eq, (checkIds_eq_ok_iff vs declared).2 ⟨perm, below⟩]
  simp only [ok_bind, defined, pure_bind, valid]
  rfl

/-- Building succeeds only on lines whose ids are exactly `0 … n-1`, whose declared largest
id is below `n` and whose successors are vertices. -/
theorem valid_of_assemble {a : Arena} (assembled : assemble { vertices := vs.toArray, declared } = .ok a) :
    (vs.map (·.id)).Perm (List.range vs.length) ∧ (∀ d ∈ declared, d < vs.length) ∧
      ∀ v ∈ vs, ∀ t ∈ v.successors, t < vs.length := by
  rw [assemble_eq] at assembled
  obtain ⟨⟨⟩, checked, assembled⟩ := bind_eq_ok.1 assembled
  obtain ⟨perm, below⟩ := (checkIds_eq_ok_iff vs declared).1 checked
  obtain ⟨b, defined, -⟩ := bind_eq_ok.1 assembled
  have inside : ∀ v ∈ vs, v.id < (Arena.new vs.length).size := fun v mem => by
    rw [size_new]
    exact lt_of_perm_range perm (List.mem_map_of_mem mem)
  refine ⟨perm, below, fun v mem t member => ?_⟩
  simpa [size_new] using successors_lt_of_foldlM_defineLine (.new vs.length) inside defined v mem t member

theorem assemble_of_checkIds {e : ReadError} (refused : checkIds { vertices := vs.toArray, declared } = .error e) :
    assemble { vertices := vs.toArray, declared } = .error e := by
  rw [assemble_eq, refused]
  rfl

/-- With the ids and the declared largest id in order, building stops at the first
successor, in line order, that is no vertex. -/
theorem assemble_unknown {pre post : List VertexLine} {v : VertexLine} {ts us : List Nat} {t : Nat}
    (perm : (vs.map (·.id)).Perm (List.range vs.length)) (below : ∀ d ∈ declared, d < vs.length)
    (split : vs = pre ++ v :: post) (known : ∀ w ∈ pre, ∀ s ∈ w.successors, s < vs.length)
    (successors : v.successors = ts ++ t :: us) (knownTs : ∀ s ∈ ts, s < vs.length) (outside : vs.length ≤ t) :
    assemble { vertices := vs.toArray, declared } = .error (.edge v.line v.id (.unknownTarget t)) := by
  have size := size_new vs.length
  have inside : ∀ w ∈ vs, w.id < (Arena.new vs.length).size := fun w mem => by
    rw [size]
    exact lt_of_perm_range perm (List.mem_map_of_mem mem)
  have distinct : (vs.map (·.id)).Nodup := perm.nodup_iff.2 List.nodup_range
  have failed : vs.foldlM defineLine (Arena.new vs.length) = .error (.edge v.line v.id (.unknownTarget t)) := by
    subst split
    refine foldlM_defineLine_unknown (.new _) ?_ (fun w mem => inside w ?_)
      (fun w mem => by rw [size]; exact known w mem) (fun w _ => by rw [vertex_new]) successors
      (fun s mem => by rw [size]; exact knownTs s mem) (by rw [size]; exact outside)
    · exact (List.nodup_append.1 (by simpa using distinct)).1
    · simp only [List.mem_append, List.mem_cons] at mem ⊢
      tauto
  rw [assemble_eq, (checkIds_eq_ok_iff vs declared).2 ⟨perm, below⟩]
  simp only [failed]
  rfl

end Assemble

/-! ## Reading a text -/

/-- A text in PGSolver form: every line reads by its kind, the ids of the `n` vertex lines
are exactly `0 … n-1`, the last declared largest id is below `n`, and every successor is
a vertex. -/
structure WellFormed (text : String) : Prop where
  lines_read : ∀ r ∈ kinds text, ∃ l, r = .ok l
  ids_exact : ((vertexLines text).map (·.id)).Perm (List.range (vertexLines text).length)
  declared_lt : ∀ d ∈ declaredOf text, d < (vertexLines text).length
  successors_lt : ∀ v ∈ vertexLines text, ∀ t ∈ v.successors, t < (vertexLines text).length

theorem read_of_readings {text : String} (good : ∀ r ∈ readings text, ∃ l, r = .ok l) :
    read text = assemble { vertices := (vertexLines text).toArray, declared := declaredOf text } := by
  rw [read_eq, scanLines_of_ok good, ok_bind]

/-- Reading stops at the first line that is too long or that does not read by its kind. -/
theorem read_of_readings_error {text : String} {pre post : List (Except ReadError Line)} {e : ReadError}
    (split : readings text = pre ++ .error e :: post) (good : ∀ r ∈ pre, ∃ l, r = .ok l) :
    read text = .error e := by
  have scanned : scanLines (lines text) = .error e := by
    rw [scanLines_eq, split]
    exact foldlM_collect_error _ pre _ good
  rw [read_eq, scanned]
  rfl

theorem wellFormed_of_read {text : String} {a : Arena} (read_ok : read text = .ok a) :
    LinesFit text ∧ WellFormed text := by
  rw [read_eq] at read_ok
  obtain ⟨scan, scanned, assembled⟩ := bind_eq_ok.1 read_ok
  have good := readings_ok_of_scanLines scanned
  obtain ⟨fit, lines_read⟩ := (readings_ok_iff text).1 good
  rw [scanLines_of_ok good] at scanned
  cases scanned
  obtain ⟨ids_exact, declared_lt, successors_lt⟩ := valid_of_assemble assembled
  exact ⟨fit, lines_read, ids_exact, declared_lt, successors_lt⟩

theorem read_of_wellFormed {text : String} (fit : LinesFit text) (formed : WellFormed text) :
    ∃ a, read text = .ok a ∧ a.size = (vertexLines text).length ∧ a.validate = .ok () ∧
      ∀ v ∈ vertexLines text, Carries a v := by
  rw [read_of_readings ((readings_ok_iff text).2 ⟨fit, formed.lines_read⟩)]
  exact assemble_of_valid formed.ids_exact formed.declared_lt formed.successors_lt
    fun _ mem => successors_ne_nil_of_mem_vertexLines mem

/-- Reading a PGSolver text.  It succeeds iff every line fits the reader's buffer and the
text is well formed; the arena read then has one vertex per vertex line, passes `validate`,
and each vertex carries the owner, priority, label and successors of its line.  It fails,
in this order of precedence, with the error of the first line that is too long or does
not read; with the first id below `n` that repeats an earlier one; with the least id
below `n` that no line has (which is how an id of `n` or more is refused); with a declared
largest id not below `n`; and with the first successor, in line order, that is no vertex. -/
theorem read_spec (text : String) :
    ((∃ a, read text = .ok a) ↔ LinesFit text ∧ WellFormed text) ∧
    (∀ a, read text = .ok a → a.size = (vertexLines text).length ∧ a.validate = .ok () ∧
      ∀ v ∈ vertexLines text, Carries a v) ∧
    (∀ (pre post : List (Except ReadError Line)) (e : ReadError), readings text = pre ++ .error e :: post →
      (∀ r ∈ pre, ∃ l, r = .ok l) → read text = .error e) ∧
    ((∀ r ∈ readings text, ∃ l, r = .ok l) →
      (∀ (pre post : List VertexLine) (v : VertexLine), vertexLines text = pre ++ v :: post →
        Distinct (vertexLines text).length (pre.map (·.id)) → v.id < (vertexLines text).length →
        v.id ∈ pre.map (·.id) → read text = .error (.duplicate v.line v.id)) ∧
      (∀ i : Nat, Distinct (vertexLines text).length ((vertexLines text).map (·.id)) →
        i < (vertexLines text).length → i ∉ (vertexLines text).map (·.id) →
        (∀ j < i, j ∈ (vertexLines text).map (·.id)) → read text = .error (.missing i)) ∧
      (∀ d : Nat, ((vertexLines text).map (·.id)).Perm (List.range (vertexLines text).length) →
        declaredOf text = some d → (vertexLines text).length ≤ d →
        read text = .error (.missingDeclared (vertexLines text).length d)) ∧
      (∀ (pre post : List VertexLine) (v : VertexLine) (ts us : List Nat) (t : Nat),
        ((vertexLines text).map (·.id)).Perm (List.range (vertexLines text).length) →
        (∀ d ∈ declaredOf text, d < (vertexLines text).length) → vertexLines text = pre ++ v :: post →
        (∀ w ∈ pre, ∀ s ∈ w.successors, s < (vertexLines text).length) → v.successors = ts ++ t :: us →
        (∀ s ∈ ts, s < (vertexLines text).length) → (vertexLines text).length ≤ t →
        read text = .error (.edge v.line v.id (.unknownTarget t)))) := by
  refine ⟨⟨fun ⟨a, read_ok⟩ => wellFormed_of_read read_ok, fun ⟨fit, formed⟩ => ?_⟩,
    fun a read_ok => ?_, fun pre post e split good => read_of_readings_error split good, fun good => ?_⟩
  · obtain ⟨a, read_ok, -⟩ := read_of_wellFormed fit formed
    exact ⟨a, read_ok⟩
  · obtain ⟨fit, formed⟩ := wellFormed_of_read read_ok
    obtain ⟨b, read_b, facts⟩ := read_of_wellFormed fit formed
    rw [read_ok] at read_b
    cases read_b
    exact facts
  · rw [read_of_readings good]
    refine ⟨fun pre post v split distinct lt seen => ?_, fun i distinct lt absent least => ?_,
      fun d perm declared above => ?_, fun pre post v ts us t perm below split known successors knownTs outside => ?_⟩
    · exact assemble_of_checkIds (checkIds_duplicate _ split distinct lt seen)
    · exact assemble_of_checkIds (checkIds_missing _ distinct lt absent least)
    · rw [declared]
      exact assemble_of_checkIds (checkIds_declared perm above)
    · exact assemble_unknown perm below split known successors knownTs outside

/-! ## A line too long for the buffer -/

theorem lines_single {line : String} (clean : '\n' ∉ line.toList) : lines (line ++ "\n") = [line] := by
  have split : splitChar '\n' (String.join ([line].map (· ++ "\n"))) = [line] ++ [""] :=
    splitChar_terminated rfl (by simpa using clean)
  rw [lines]
  simp [String.join] at split
  simp [split]

theorem utf8ByteSize_blanks (k : Nat) : (String.ofList (List.replicate k ' ')).utf8ByteSize = k := by
  rw [String.utf8ByteSize_ofList]
  induction k with
  | zero => rfl
  | succ k ih =>
    rw [List.replicate_succ, String.utf8Len_cons, ih]
    rfl

/-- A line of blanks is blank, however long. -/
theorem lineKind_blanks (line k : Nat) : lineKind line (String.ofList (List.replicate k ' ')) = .ok .blank := by
  have kept : dropReturn (String.ofList (List.replicate k ' ')) = String.ofList (List.replicate k ' ') := by
    rw [dropReturn, if_neg]
    rw [endsWith_iff_getLast? (c := '\r') rfl, String.toList_ofList, List.getLast?_replicate]
    split <;> simp
  have gone : (List.replicate k ' ').dropWhile isBlank = [] :=
    List.dropWhile_eq_nil_iff.2 fun c mem => (List.eq_of_mem_replicate mem) ▸ isBlank_space
  have empty : trimBlanks (String.ofList (List.replicate k ' ')) = "" := by
    rw [← String.toList_eq_nil_iff, toList_trimBlanks, String.toList_ofList, gone]
    rfl
  unfold lineKind
  rw [kept, empty]
  rfl

/-- One line of `maxLineBytes` blanks: well formed, with no vertex and no header, but
refused as too long for the reader's buffer. -/
theorem read_blank_line_too_long :
    WellFormed (String.ofList (List.replicate maxLineBytes ' ') ++ "\n") ∧
      read (String.ofList (List.replicate maxLineBytes ' ') ++ "\n") = .error .lineTooLong := by
  have single : lines (String.ofList (List.replicate maxLineBytes ' ') ++ "\n") =
      [String.ofList (List.replicate maxLineBytes ' ')] :=
    lines_single (by simp [String.toList_ofList])
  have kinded : kinds (String.ofList (List.replicate maxLineBytes ' ') ++ "\n") = [.ok .blank] := by
    rw [kinds, single]
    simp [lineKind_blanks]
  have none : vertexLines (String.ofList (List.replicate maxLineBytes ' ') ++ "\n") = [] := by
    simp [vertexLines, kinded, Except.toOption, Line.vertex?]
  refine ⟨⟨?_, ?_, ?_, ?_⟩, ?_⟩
  · simp [kinded]
  · simp [none]
  · simp [declaredOf, kinded, Except.toOption, Line.parity?]
  · simp [none]
  · have refused : readings (String.ofList (List.replicate maxLineBytes ' ') ++ "\n") =
        [] ++ .error .lineTooLong :: [] := by
      rw [readings, single]
      simp [readLine_of_long (le_of_eq (utf8ByteSize_blanks maxLineBytes).symm)]
    exact read_of_readings_error refused fun _ mem => absurd mem List.not_mem_nil

end PGSolver

end ParityGames
