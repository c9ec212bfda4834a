import ParityGames.Proofs.JsonReading
import ParityGames.Proofs.JsonDecoding
import ParityGames.Proofs.SameGame
import ParityGames.Format.GameJson

/-!
# Reading back a game written in JSON

The JSON text of an arena names each owner and spells each label as text.  A
name is `"odd"` for Odd and `"even"` for every other owner code, and it reads
back as Odd or Even (`Player.parse_name`); a label is decoded as UTF-8 and a
byte that starts no character is written as `U+FFFD`.  So the text records the
arena's *named* game (`Arena.named`): the same vertices, priorities and
successors, each owner Odd or Even, each label its text.

`GameJson.read_write_named` says that reading the text back gives exactly that
game, for every valid arena whose numbers fit in 64 bits, with or without
winners.  The text side is `Json.readFirst_encodeIndented`; the document
decodes into one entry per vertex, in id order (`GameJson.decodeGame_doc`);
the entries are then defined one by one into a fresh arena, which
`PGSolver.Rebuilt` follows as for the PGSolver reader.
-/

namespace ParityGames

open Json

namespace Player

/-- The player a name reads back as: Odd for Odd and Even for every other code. -/
def named (p : Player) : Player := if p.isOdd then odd else even

/-- A name of plain lower-case letters is its own keyword. -/
theorem keyword_of_plain {s : String} (plain : ∀ c ∈ s.toList, Text.isBlank c = false ∧ c.toLower = c) :
    Text.keyword s = s := by
  unfold Text.keyword Text.foldCase
  rw [Text.trimBlanks_of_solid fun c mem => (plain c mem).1]
  apply String.toList_inj.1
  rw [String.toList_map]
  exact (List.map_congr_left fun c mem => (plain c mem).2).trans (List.map_id _)

theorem plain_of_mem {c : Char} (mem : c ∈ ['o', 'd', 'd'] ∨ c ∈ ['e', 'v', 'e', 'n']) :
    Text.isBlank c = false ∧ c.toLower = c := by
  simp only [List.mem_cons, List.not_mem_nil, or_false] at mem
  rcases mem with (rfl | rfl | rfl) | (rfl | rfl | rfl | rfl) <;> exact ⟨rfl, rfl⟩

/-- The name of a player reads back as the player it names. -/
theorem parse_name (p : Player) : parse p.name = .ok p.named := by
  unfold name named
  split
  · have plain : Text.keyword "odd" = "odd" :=
      keyword_of_plain fun _ mem => plain_of_mem (.inl mem)
    rw [parse, plain]
    rfl
  · have plain : Text.keyword "even" = "even" :=
      keyword_of_plain fun _ mem => plain_of_mem (.inr mem)
    rw [parse, plain]
    rfl

theorem named_of_owned {p : Player} (owned : p = even ∨ p = odd) : p.named = p := by
  rcases owned with rfl | rfl <;> rfl

end Player

namespace Text

/-- A label as its text reads back: the UTF-8 bytes of its characters, with
`U+FFFD` for each byte that starts no character. -/
def sanitized (l : Label) : Label := utf8Bytes (String.ofList ((decode l).map Piece.shown))

/-- A label that is UTF-8 text: every byte belongs to a character. -/
def IsText (l : Label) : Prop := ∀ p ∈ decode l, ∃ c, p = .char c

theorem utf8Bytes_ofList (cs : List Char) : utf8Bytes (String.ofList cs) = cs.flatMap String.utf8EncodeChar := by
  rw [utf8Bytes, String.toUTF8_eq_toByteArray, String.toByteArray_ofList,
    show List.utf8Encode cs = (cs.flatMap String.utf8EncodeChar).toByteArray from ByteArray.ext rfl,
    toList_eq_data, List.toList_data_toByteArray]

/-- A label that is text reads back as it was. -/
theorem sanitized_of_isText {l : Label} (text : IsText l) : sanitized l = l := by
  rw [sanitized, utf8Bytes_ofList, List.flatMap_map]
  conv_rhs => rw [← decode_bytes l]
  apply List.flatMap_congr
  intro p mem
  obtain ⟨c, rfl⟩ := text p mem
  rfl

theorem utf8Bytes_empty : utf8Bytes "" = [] :=
  utf8Bytes_ofList []

theorem sanitized_nil : sanitized [] = [] := by
  rw [sanitized, utf8Bytes_ofList]
  rfl

end Text

namespace Vertex

/-- A vertex as its JSON text records it: its owner named and its label as text. -/
def named (v : Vertex) : Vertex := { v with owner := v.owner.named, label := Text.sanitized v.label }

theorem named_default : ({} : Vertex).named = {} := by
  simp [named, Player.named, Player.isOdd, Player.even, Text.sanitized_nil]

end Vertex

namespace Arena

/-- The game that the JSON text of an arena records. -/
def named (a : Arena) : Arena := { a with vertices := a.vertices.map Vertex.named }

variable {a : Arena}

@[simp] theorem size_named : a.named.size = a.size := by
  simp [named, size]

theorem vertex_named (v : Nat) : a.named.vertex v = (a.vertex v).named := by
  by_cases inside : v < a.size
  · have inside' : v < a.vertices.size := inside
    simp [named, vertex, inside']
  · rw [vertex_of_size_le (by simpa using inside), vertex_of_size_le (by omega), Vertex.named_default]

theorem Intact.named (intact : a.Intact) : a.named.Intact :=
  intact.of_same_lists size_named (fun v => by rw [vertex_named]; rfl) (fun v => by rw [vertex_named]; rfl)
    (fun v => by rw [vertex_named]; rfl) rfl
    (intact.maxPriority_eq.trans
      (scanMaxPriority_congr (by simp) fun v => by rw [vertex_named]; rfl).symm)

theorem Intact.validate_named (intact : a.Intact) (valid : a.validate = .ok ()) : a.named.validate = .ok () :=
  intact.named.validate_eq_ok_iff.2 fun i inside => by
    rw [vertex_named]
    exact intact.validate_eq_ok_iff.1 valid i (by simpa using inside)

/-- An arena whose owners are Even or Odd and whose labels are text records its
own game in JSON. -/
theorem named_eq_self (plain : ∀ v < a.size, ((a.vertex v).owner = .even ∨ (a.vertex v).owner = .odd) ∧
    Text.IsText (a.vertex v).label) : a.named = a := by
  have vertices : a.vertices.map Vertex.named = a.vertices := by
    apply Array.ext (by simp)
    intro v _ inside
    obtain ⟨owned, text⟩ := plain v inside
    have vertexV : a.vertex v = a.vertices[v] := dif_pos inside
    rw [vertexV] at owned text
    simp [Vertex.named, Player.named_of_owned owned, Text.sanitized_of_isText text]
  simp [named, vertices]

end Arena

namespace GameJson

open Arena

/-! ## The document -/

theorem integral_nat (n : Nat) : (Json.nat n).Integral := .num n

theorem integral_vertexJson (i : Nat) (v : Vertex) (w : Option Player) : (vertexJson i v w).Integral := by
  unfold vertexJson
  dsimp only
  refine .obj fun m mem => ?_
  rw [List.mem_append, List.mem_append] at mem
  rcases mem with (fixed | label) | win
  · simp only [List.mem_cons, List.not_mem_nil, or_false] at fixed
    rcases fixed with rfl | rfl | rfl | rfl
    · exact integral_nat i
    · exact .str _
    · exact integral_nat _
    · dsimp only
      split
      · exact .null
      · exact .arr fun x mem => by
          obtain ⟨t, -, rfl⟩ := List.mem_map.1 mem
          exact integral_nat t
  · split at label
    · cases label
    · rw [List.mem_singleton] at label
      rw [label]
      exact .str _
  · split at win
    · rw [List.mem_singleton] at win
      rw [win]
      exact .str _
    · cases win

theorem integral_document (a : Arena) (winner : Nat → Option Player) :
    (Json.obj [("vertices", .arr ((List.range a.size).map fun i => vertexJson i (a.vertex i) (winner i)))]).Integral := by
  refine .obj fun m mem => ?_
  rw [List.mem_singleton] at mem
  rw [mem]
  refine .arr fun x mem => ?_
  obtain ⟨i, -, rfl⟩ := List.mem_map.1 mem
  exact integral_vertexJson i _ _

/-- The document of an arena whose vertices carry their positions as ids lists
each vertex under its position. -/
theorem doc_eq_of_numbered {a : Arena} (numbered : a.Numbered) (winner : Nat → Option Player) :
    write.doc a winner = Json.encodeIndented
      (.obj [("vertices", .arr ((List.range a.size).map fun i => vertexJson i (a.vertex i) (winner i)))]) := by
  have listed : ((List.range a.size).map fun i => vertexJson (a.vertex i).id (a.vertex i) (winner i)) =
      (List.range a.size).map fun i => vertexJson i (a.vertex i) (winner i) :=
    List.map_congr_left fun i mem => by rw [numbered i (List.mem_range.1 mem)]
  simp only [write.doc, listed]

/-! ## The entries the document decodes into -/

/-- An entry that records vertex `i` as its text says: the id, the owner named,
the priority, the successors in order and the label as text. -/
structure Entry.Records (e : Entry) (i : Nat) (v : Vertex) : Prop where
  id_eq : e.id = i
  owner_eq : e.owner = v.owner.named
  priority_eq : e.priority = v.priority
  successors_eq : (e.successors.getD {}).items.toList = v.outgoing.toList.map Int.ofNat
  label_eq : Text.utf8Bytes e.label = Text.sanitized v.label

/-- A vertex whose numbers the reader takes back: its id, its priority and
every successor fit in 64 signed bits. -/
structure Fits (i : Nat) (v : Vertex) : Prop where
  id_fits : (i : Int) ≤ Text.int64Max
  priority_fits : (v.priority : Int) ≤ Text.int64Max
  targets_fit : ∀ t ∈ v.outgoing, (t : Int) ≤ Text.int64Max

theorem entryKind_fill : entryKind.fill = recordField "vertex" "io.vertex" entryFields fillEntry := rfl

theorem entryKind_blank : entryKind.blank = {} := rfl

theorem fillEntry_id (e : Entry) (v : Json) :
    fillEntry e "id" v = intField "int" e.id v >>= fun n => pure { e with id := n } := rfl

theorem fillEntry_owner (e : Entry) (v : Json) :
    fillEntry e "owner" v = parsedField "arena.Player" Player.parse e.owner v >>= fun p => pure { e with owner := p } :=
  rfl

theorem fillEntry_priority (e : Entry) (v : Json) :
    fillEntry e "priority" v = intField "int" e.priority v >>= fun n => pure { e with priority := n } := rfl

theorem fillEntry_successors (e : Entry) (v : Json) :
    fillEntry e "successors" v =
      listField "[]int" successorKind e.successors v >>= fun s => pure { e with successors := s } := rfl

theorem fillEntry_label (e : Entry) (v : Json) :
    fillEntry e "label" v = textField "string" e.label v >>= fun l => pure { e with label := l } := rfl

theorem fillEntry_winner (e : Entry) (v : Json) :
    fillEntry e "winner" v =
      optionField "*arena.Player" Player.parse e.winner v >>= fun w => pure { e with winner := w } := rfl

theorem successors_yields (v : Vertex) (fits : ∀ t ∈ v.outgoing, (t : Int) ≤ Text.int64Max) :
    ∃ succ, Yields (listField "[]int" successorKind none
        (if v.outgoing.isEmpty then Json.null else .arr (v.outgoing.toList.map Json.nat))) succ ∧
      (succ.getD {}).items.toList = v.outgoing.toList.map Int.ofNat := by
  split
  · next empty =>
    rw [Array.isEmpty_iff] at empty
    exact ⟨none, listField_null_yields _ _ _, by simp [empty, Buffer.items]⟩
  · obtain ⟨b, yields, all⟩ := listField_fresh "[]int" successorKind Json.nat (R := fun t e => e = (t : Int))
      v.outgoing.toList fun t mem => ⟨t, intField_nat_yields (fits t (Array.mem_toList_iff.1 mem)), rfl⟩
    have mapped : List.Forall₂ (fun x y => x = y) (v.outgoing.toList.map Int.ofNat) b.items.toList :=
      List.forall₂_map_left_iff.2 (all.imp fun _ _ same => same.symm)
    rw [List.forall₂_eq_eq_eq] at mapped
    exact ⟨some b, yields, mapped.symm⟩

/-- The members every vertex has fill a blank entry with its id, owner,
priority and successors, and the record goes on from there. -/
theorem fixed_yields {i : Nat} {v : Vertex} (fits : Fits i v) {succJ : Json} {succ : Option (Buffer Int)}
    (succYields : Yields (listField "[]int" successorKind none succJ) succ) {rest : List (String × Json)}
    {e : Entry} (restYields : Yields (recordField "vertex" "io.vertex" entryFields fillEntry
      { id := i, owner := v.owner.named, priority := v.priority, successors := succ } (.obj rest)) e) :
    Yields (entryKind.fill entryKind.blank (.obj (("id", Json.nat i) :: ("owner", .str v.owner.name) ::
      ("priority", Json.nat v.priority) :: ("successors", succJ) :: rest))) e := by
  rw [entryKind_fill, entryKind_blank]
  refine recordField_cons_yields rfl
    (by rw [fillEntry_id]; exact (intField_nat_yields fits.id_fits).bind (yields_pure _)) ?_
  refine recordField_cons_yields rfl
    (by rw [fillEntry_owner]; exact (parsedField_yields (Player.parse_name _)).bind (yields_pure _)) ?_
  refine recordField_cons_yields rfl
    (by rw [fillEntry_priority]; exact (intField_nat_yields fits.priority_fits).bind (yields_pure _)) ?_
  refine recordField_cons_yields rfl
    (by rw [fillEntry_successors]; exact succYields.bind (yields_pure _)) ?_
  exact restYields

/-- The winner of a vertex, when it is written, fills the winner field of an
entry that has none. -/
theorem winner_yields {e : Entry} (none_ : e.winner = none) (w : Option Player) :
    Yields (recordField "vertex" "io.vertex" entryFields fillEntry e
      (.obj (w.toList.map fun p => ("winner", Json.str p.name)))) { e with winner := w.map Player.named } := by
  cases w with
  | none =>
    have same : { e with winner := none } = e := by
      cases e
      simp_all
    rw [Option.map_none, same]
    exact recordField_nil_yields _ _ _ _ _
  | some p =>
    exact recordField_cons_yields rfl
      (by rw [fillEntry_winner]; exact (optionField_yields (Player.parse_name p)).bind (yields_pure _))
      (recordField_nil_yields _ _ _ _ _)

/-- The members of a vertex: id, owner, priority and successors, then the
label if there is one, then the winner if one is given. -/
theorem vertexJson_eq (i : Nat) (v : Vertex) (w : Option Player) :
    vertexJson i v w = .obj ([("id", Json.nat i), ("owner", .str v.owner.name), ("priority", Json.nat v.priority),
      ("successors", if v.outgoing.isEmpty then Json.null else .arr (v.outgoing.toList.map Json.nat))] ++
      (if v.label.isEmpty then []
        else [("label", Json.str (String.ofList ((Text.decode v.label).map Text.Piece.shown)))]) ++
      w.toList.map fun p => ("winner", Json.str p.name)) := by
  cases w <;> rfl

/-- Each vertex of the document decodes into an entry that records it. -/
theorem vertexJson_yields (i : Nat) (v : Vertex) (w : Option Player) (fits : Fits i v) :
    ∃ e, Yields (entryKind.fill entryKind.blank (vertexJson i v w)) e ∧ e.Records i v := by
  obtain ⟨succ, succYields, succItems⟩ := successors_yields v fits.targets_fit
  rw [vertexJson_eq]
  by_cases empty : v.label.isEmpty
  · -- no label is written, and the entry keeps the empty one
    let e : Entry :=
      { id := i, owner := v.owner.named, priority := v.priority, successors := succ }
    refine ⟨{ e with winner := w.map Player.named }, ?_, ⟨rfl, rfl, rfl, succItems, ?_⟩⟩
    · rw [if_pos empty, List.append_nil]
      exact fixed_yields fits succYields (winner_yields rfl w)
    · rw [List.isEmpty_iff.1 empty, Text.sanitized_nil]
      exact Text.utf8Bytes_empty
  · let e : Entry :=
      { id := i, owner := v.owner.named, priority := v.priority, successors := succ,
        label := String.ofList ((Text.decode v.label).map Text.Piece.shown) }
    refine ⟨{ e with winner := w.map Player.named }, ?_, ⟨rfl, rfl, rfl, succItems, rfl⟩⟩
    rw [if_neg empty, List.append_assoc]
    exact fixed_yields fits succYields
      (recordField_cons_yields rfl (by rw [fillEntry_label]; exact (textField_yields _ _ _).bind (yields_pure _))
        (winner_yields rfl w))

/-- The document of an arena decodes into one entry for each vertex, in id
order, each recording its vertex. -/
theorem decodeGame_document (a : Arena) (winner : Nat → Option Player)
    (fits : ∀ i < a.size, Fits i (a.vertex i)) :
    ∃ entries, decodeGame (.obj [("vertices",
        .arr ((List.range a.size).map fun i => vertexJson i (a.vertex i) (winner i)))]) = .ok entries ∧
      List.Forall₂ (fun i (e : Entry) => e.Records i (a.vertex i)) (List.range a.size) entries.toList := by
  obtain ⟨b, yields, all⟩ := listField_fresh "[]io.vertex" entryKind
    (fun i => vertexJson i (a.vertex i) (winner i)) (R := fun i e => e.Records i (a.vertex i))
    (List.range a.size) fun i mem => vertexJson_yields i _ _ (fits i (List.mem_range.1 mem))
  -- the document is a record with the one member the game decoder fills
  have vertices : Yields (recordField "game" "io.game" ["vertices"]
      (fun vs field v => if field == "vertices" then listField "[]io.vertex" entryKind vs v else pure vs) none
      (.obj [("vertices", .arr ((List.range a.size).map fun i => vertexJson i (a.vertex i) (winner i)))]))
      (some b) :=
    recordField_cons_yields rfl (by rw [if_pos (beq_self_eq_true _)]; exact yields) (recordField_nil_yields _ _ _ _ _)
  refine ⟨b.items, ?_, all⟩
  unfold decodeGame
  dsimp only
  rw [decodeAll_of_yields vertices]
  rfl

/-! ## Defining the entries -/

/-- Defining an entry whose id and successors are inside the arena sets the
owner, priority and label of its vertex, appends its successors, and appends
it to the predecessors of each target once per edge; every other vertex keeps
its fields. -/
theorem defineEntry_spec {b : Arena} (reachable : b.Reachable) {k : Nat} (inside : k < b.size) {e : Entry}
    {p : Nat} (priority : e.priority = p) {ts : List Nat}
    (successors : (e.successors.getD {}).items.toList = ts.map Int.ofNat) (targets : ∀ t ∈ ts, t < b.size) :
    ∃ c, defineEntry b k e = .ok c ∧ c.Reachable ∧ c.size = b.size ∧
      (∀ u, (c.vertex u).incoming.toList = (b.vertex u).incoming.toList ++ List.replicate (ts.count u) k) ∧
      ((c.vertex k).owner = e.owner ∧ (c.vertex k).priority = p ∧ (c.vertex k).label = Text.utf8Bytes e.label ∧
        (c.vertex k).outgoing.toList = (b.vertex k).outgoing.toList ++ ts) ∧
      ∀ u ≠ k, (c.vertex u).owner = (b.vertex u).owner ∧ (c.vertex u).priority = (b.vertex u).priority ∧
        (c.vertex u).label = (b.vertex u).label ∧ (c.vertex u).outgoing = (b.vertex u).outgoing := by
  obtain ⟨b₁, b₂, b₃, owned, prioritised, labelled, reachable₃, size₃, vertex₃⟩ :=
    setOwner_setPriority_setLabel reachable inside e.owner p (Text.utf8Bytes e.label)
  obtain ⟨c, folded, rest⟩ := foldlM_addEdge_fields (fun a (t : Nat) => (a.addEdge k t).mapError (ReadError.edge k))
    (fun _ _ _ added => by simp [added, Except.mapError]) reachable₃ size₃ inside vertex₃ ts targets
  have defined : defineEntry b k e =
      ts.foldlM (fun a (t : Nat) => (a.addEdge k t).mapError (ReadError.edge k)) b₃ := by
    rw [defineEntry, owned, priority]
    simp only [Except.mapError, prioritised, labelled, bind, Except.bind, ← Array.foldlM_toList, successors,
      List.foldlM_map]
    rfl
  exact ⟨c, defined.trans folded, rest⟩

/-- Defining the entry of vertex `k` extends an arena that rebuilds the named
game by that vertex. -/
theorem defineEntry_rebuilt {a b : Arena} {k : Nat} (rebuilt : PGSolver.Rebuilt a.named k b) (intact : a.Intact)
    (inside : k < a.size) {e : Entry} (records : e.Records k (a.vertex k)) :
    ∃ c, defineEntry b k e = .ok c ∧ PGSolver.Rebuilt a.named (k + 1) c := by
  have size : b.size = a.size := by rw [rebuilt.size_eq, size_named]
  obtain ⟨c, defined, reachable, sizeC, incoming, ⟨owner, priority, label, outgoing⟩, others⟩ :=
    defineEntry_spec rebuilt.reachable (size ▸ inside) records.priority_eq records.successors_eq
      (fun t mem => size ▸ intact.target_lt k t (Array.mem_toList_iff.1 mem))
  refine ⟨c, defined, rebuilt.extend reachable sizeC (fun u => ?_) ?_ others⟩
  · rw [incoming, vertex_named, ← Array.count_toList]
    rfl
  · rw [vertex_named]
    exact ⟨owner.trans records.owner_eq, priority, label.trans records.label_eq, outgoing⟩

/-- Defining the entries of the vertices `k … k+m-1` in order, with the ids
below `k` marked as seen, completes an arena that rebuilds the named game up
to `k`. -/
theorem defineAll_rebuilt {a : Arena} (intact : a.Intact) {k m : Nat} (whole : k + m = a.size) {b : Arena}
    (rebuilt : PGSolver.Rebuilt a.named k b) {es : List Entry}
    (records : List.Forall₂ (fun i (e : Entry) => e.Records i (a.vertex i)) (List.range' k m) es) :
    ∃ c, defineAll a.size b (List.replicate k true ++ List.replicate (a.size - k) false).toArray es = .ok c ∧
      PGSolver.Rebuilt a.named a.size c := by
  -- on the number of entries left; `Rebuilt` carries the vertices defined so far
  induction m generalizing k b es with
  | zero =>
    rw [List.range'_zero, List.forall₂_nil_left_iff] at records
    subst records
    obtain rfl : k = a.size := by omega
    exact ⟨b, rfl, rebuilt⟩
  | succ m ih =>
    rw [List.range'_succ] at records
    obtain ⟨e, rest, record, later, rfl⟩ := List.forall₂_cons_left_iff.1 records
    have inside : k < a.size := by omega
    obtain ⟨c, defined, rebuiltC⟩ := defineEntry_rebuilt rebuilt intact inside record
    obtain ⟨d, definedAll, rebuiltD⟩ := ih (by omega) rebuiltC later
    refine ⟨d, ?_, rebuiltD⟩
    -- id `k` is in range and not yet seen, so the entry is defined and marked
    have range : ((k : Int) < 0 || (k : Int) ≥ (a.size : Int)) = false := by
      simp only [Bool.or_eq_false_iff, decide_eq_false_iff_not]
      omega
    rw [defineAll, record.id_eq, if_neg (by rw [range]; exact Bool.false_ne_true)]
    simp only [Int.toNat_natCast, PGSolver.getElem!_marked inside, Bool.false_eq_true, if_false, defined,
      PGSolver.set!_marked inside]
    exact definedAll

/-! ## Reading the text back -/

theorem fits_of_intact {a : Arena} (intact : a.Intact)
    (fits : (a.size : Int) ≤ Text.int64Max ∧ (a.maxPriority : Int) ≤ Text.int64Max) :
    ∀ i < a.size, Fits i (a.vertex i) := fun i inside =>
  { id_fits := by omega
    priority_fits := by
      have bounded := intact.maxPriority_spec.1 i inside
      omega
    targets_fit := fun t mem => by
      have target := intact.target_lt i t mem
      omega }

/-- The document of a valid arena, with any winners, reads back as an arena
that rebuilds its named game. -/
theorem read_doc {a : Arena} (intact : a.Intact) (valid : a.validate = .ok ())
    (fits : ∀ i < a.size, Fits i (a.vertex i)) (winner : Nat → Option Player) :
    ∃ b, read (write.doc a winner) = .ok b ∧ PGSolver.Rebuilt a.named a.named.size b := by
  obtain ⟨entries, decoded, records⟩ := decodeGame_document a winner fits
  have size : entries.size = a.size := by
    simpa using records.length_eq.symm
  have start : PGSolver.Rebuilt a.named 0 (Arena.new a.size) := by
    simpa using PGSolver.rebuilt_new a.named
  obtain ⟨b, defined, rebuilt⟩ := defineAll_rebuilt intact (k := 0) (Nat.zero_add a.size) start
    (by simpa [List.range_eq_range'] using records)
  rw [← size_named] at rebuilt
  refine ⟨b, ?_, rebuilt⟩
  have validB := rebuilt.validate_eq intact.named (intact.validate_named valid)
  unfold read
  rw [doc_eq_of_numbered intact.numbered]
  simp only [readFirst_encodeIndented (integral_document a winner), decoded, Except.mapError, bind,
    Except.bind, size]
  have seen : (List.replicate 0 true ++ List.replicate (a.size - 0) false).toArray = Array.replicate a.size false := by
    simp
  rw [seen] at defined
  simp only [defined, validB]
  rfl

theorem write_eq_doc (a : Arena) {winners : Option (Array Player)} (sized : ∀ ws ∈ winners, ws.size = a.size) :
    ∃ winner, write a winners = .ok (write.doc a winner) := by
  cases winners with
  | none => exact ⟨fun _ => none, rfl⟩
  | some ws =>
    refine ⟨fun i => ws[i]?, ?_⟩
    rw [write, if_neg (by simp [sized ws rfl])]

/-- The JSON text of a valid arena whose numbers fit in 64 signed bits, with
winners one per vertex if any, is written and reads back as an arena that
rebuilds the named game. -/
theorem read_write_rebuilt {a : Arena} (intact : a.Intact) (valid : a.validate = .ok ())
    (fits : (a.size : Int) ≤ Text.int64Max ∧ (a.maxPriority : Int) ≤ Text.int64Max)
    {winners : Option (Array Player)} (sized : ∀ ws ∈ winners, ws.size = a.size) :
    ∃ text b, write a winners = .ok text ∧ read text = .ok b ∧ PGSolver.Rebuilt a.named a.named.size b := by
  obtain ⟨winner, written⟩ := write_eq_doc a sized
  obtain ⟨b, readBack, rebuilt⟩ := read_doc intact valid (fits_of_intact intact fits) winner
  exact ⟨_, b, written, readBack, rebuilt⟩

/-- Writing a valid arena in JSON, with winners one per vertex if any, and
reading the text back gives its named game: each owner Odd or Even as its
name says, each label as text, and the priorities and successor lists as they
were.  So the edge count, the largest priority and the game hash are those of
the named game.  When every owner is Even or Odd and every label is text, the
named game is the arena's own: then the game hash does not change and every
fresh solve names the same winners on both. -/
theorem read_write_named_game {a : Arena} (reachable : a.Reachable) (valid : a.validate = .ok ())
    (fits : (a.size : Int) ≤ Text.int64Max ∧ (a.maxPriority : Int) ≤ Text.int64Max)
    {winners : Option (Array Player)} (sized : ∀ ws ∈ winners, ws.size = a.size) :
    ∃ text b, write a winners = .ok text ∧ read text = .ok b ∧
      a.named.SameGame b ∧ b.edges = a.edges ∧ b.maxPriority = a.maxPriority ∧
      Pipeline.gameHash b = Pipeline.gameHash a.named ∧
      ((∀ v < a.size, ((a.vertex v).owner = .even ∨ (a.vertex v).owner = .odd) ∧ Text.IsText (a.vertex v).label) →
        a.SameGame b ∧ Pipeline.gameHash b = Pipeline.gameHash a ∧
        ∀ g policy st, ((Solver.new b g policy).solve st).1 = ((Solver.new a g policy).solve st).1) := by
  have intact := reachable.intact
  obtain ⟨text, b, written, readBack, rebuilt⟩ := read_write_rebuilt intact valid fits sized
  have same := sameGame_of_rebuilt rebuilt
  refine ⟨text, b, written, readBack, same, rebuilt.edges_eq intact.named, rebuilt.maxPriority_eq intact.named,
    same.gameHash_eq intact.named.numbered rebuilt.reachable.intact.numbered, fun plain => ?_⟩
  -- the named game of such an arena is the arena itself
  rw [named_eq_self plain] at same
  exact ⟨same, same.gameHash_eq intact.numbered rebuilt.reachable.intact.numbered, fun g policy st =>
    Solver.new_solve_winners_agree reachable rebuilt.reachable same policy st⟩

/-- One vertex owned by Odd, labelled `a`, with a self-loop, written with a
winner: it reads back as the same game. -/
theorem read_write_named_game_loop :
    let a : Arena :=
      { vertices := #[{ owner := .odd, outgoing := #[0], incoming := #[0], label := [0x61] }], edges := 1 }
    a.Reachable ∧ a.validate = .ok () ∧ ((a.size : Int) ≤ Text.int64Max ∧ (a.maxPriority : Int) ≤ Text.int64Max) ∧
      (∀ ws ∈ some #[Player.even], ws.size = a.size) ∧
      ∃ text b, write a (some #[.even]) = .ok text ∧ read text = .ok b ∧ a.SameGame b ∧
        Pipeline.gameHash b = Pipeline.gameHash a ∧
        ∀ g policy st, ((Solver.new b g policy).solve st).1 = ((Solver.new a g policy).solve st).1 := by
  intro a
  have loop : (Arena.new 1).addEdge 0 0 =
      .ok { vertices := #[{ outgoing := #[0], incoming := #[0] }], edges := 1 } := rfl
  have owned : ({ vertices := #[{ outgoing := #[0], incoming := #[0] }], edges := 1 } : Arena).setOwner 0 .odd =
      .ok { vertices := #[{ owner := .odd, outgoing := #[0], incoming := #[0] }], edges := 1 } := rfl
  have labelled : ({ vertices := #[{ owner := .odd, outgoing := #[0], incoming := #[0] }], edges := 1 } : Arena).setLabel
      0 [0x61] = .ok a := rfl
  have built : a.Reachable := (((Reachable.new 1).addEdge loop).setOwner owned).setLabel labelled
  have valid : a.validate = .ok () := by decide
  have fits : (a.size : Int) ≤ Text.int64Max ∧ (a.maxPriority : Int) ≤ Text.int64Max := by decide
  have sized : ∀ ws ∈ some #[Player.even], ws.size = a.size := by
    intro ws mem
    cases mem
    rfl
  have plain : ∀ v < a.size, ((a.vertex v).owner = .even ∨ (a.vertex v).owner = .odd) ∧
      Text.IsText (a.vertex v).label := by
    intro v inside
    obtain rfl := Nat.lt_one_iff.1 inside
    refine ⟨.inr rfl, fun p mem => ⟨'a', ?_⟩⟩
    have decoded : Text.decode [0x61] = [.char 'a'] := by decide
    change p ∈ Text.decode [0x61] at mem
    rwa [decoded, List.mem_singleton] at mem
  obtain ⟨text, b, written, readBack, -, -, -, -, named⟩ := read_write_named_game built valid fits sized
  exact ⟨built, valid, fits, sized, text, b, written, readBack, named plain⟩

/-- A vertex owned by the code `2`, with a self-loop: its JSON text names the
owner `even`, so the vertex read back is owned by Even and the game's PGSolver
text, from which its hash is taken, is not the one written. -/
theorem read_write_renames_owner_two :
    let a : Arena := { vertices := #[{ owner := ⟨2⟩, outgoing := #[0], incoming := #[0] }], edges := 1 }
    ∃ text b, write a none = .ok text ∧ read text = .ok b ∧ (b.vertex 0).owner = .even ∧
      PGSolver.write b ≠ PGSolver.write a := by
  intro a
  have loop : (Arena.new 1).addEdge 0 0 =
      .ok { vertices := #[{ outgoing := #[0], incoming := #[0] }], edges := 1 } := rfl
  have owned : ({ vertices := #[{ outgoing := #[0], incoming := #[0] }], edges := 1 } : Arena).setOwner 0 ⟨2⟩ =
      .ok a := rfl
  have built : a.Reachable := ((Reachable.new 1).addEdge loop).setOwner owned
  have valid : a.validate = .ok () := by decide
  have fits : (a.size : Int) ≤ Text.int64Max ∧ (a.maxPriority : Int) ≤ Text.int64Max := by decide
  obtain ⟨text, b, written, readBack, rebuilt⟩ :=
    @read_write_rebuilt a built.intact valid fits none fun _ absent => nomatch absent
  have same := sameGame_of_rebuilt rebuilt
  -- the arena read back writes as the same vertex owned by Even
  let even : Arena := { vertices := #[{ outgoing := #[0], incoming := #[0] }], edges := 1 }
  have renamed : PGSolver.write b = PGSolver.write even := by
    refine PGSolver.write_congr (by decide) rebuilt.reachable.intact.numbered
      (same.size_eq.trans size_named) fun i inside => ?_
    obtain rfl := Nat.lt_one_iff.1 inside
    rw [same.owner_eq, same.priority_eq, same.label_eq, same.outgoing_eq, vertex_named]
    exact ⟨rfl, rfl, Text.sanitized_nil, rfl⟩
  refine ⟨text, b, written, readBack, (same.owner_eq 0).trans (by rw [vertex_named]; rfl), ?_⟩
  rw [renamed]
  decide +kernel

end GameJson

end ParityGames
