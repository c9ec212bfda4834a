import ParityGames.Format.PGSolver
import ParityGames.Proofs.ArenaInvariant
import ParityGames.Proofs.TextLists
import ParityGames.Proofs.QuotedLabels
import Mathlib

/-!
# Written PGSolver lines read back

Writing an arena in PGSolver form gives a header `parity n;` for a non-empty
arena and then one line per vertex:

    <id> <priority> <owner> <successor>,… ["label"];

This module reads those lines back.  `lines_write` cuts the written text into
exactly the written lines: no line holds a newline, not even a label, whose
literal escapes it.  `readVertexLine_lineOf` reads each vertex line back into
the record of its vertex, provided the vertex is `Writable`: it has a move, an
owner that the format can name, and numbers that fit in 64 signed bits.  The
label is cut off at its first quote, which comes after the digits, blanks,
commas and signs of the fields, and read back by `unquote_quoteBytes`.
`scanLines_writtenLines` runs the line-by-line pass over all the lines, and
`checkIds_records` checks the ids it collects.
-/

namespace ParityGames

namespace PGSolver

open Text

/-! ## The written lines -/

/-- The successors of a vertex, joined by commas. -/
def successorText (v : Vertex) : String := ",".intercalate (v.outgoing.toList.map toString)

/-- The label of a vertex after a blank, as a quoted literal; nothing for an
empty label. -/
def labelText (v : Vertex) : String := if v.label.isEmpty then "" else " " ++ quoteBytes v.label

/-- The four fields of a vertex line, joined by blanks. -/
def fieldsText (i : Nat) (v : Vertex) : String :=
  toString i ++ " " ++ toString v.priority ++ " " ++ toString v.owner.code ++ " " ++ successorText v

/-- The written line of vertex `i`, without its newline. -/
def lineOf (i : Nat) (v : Vertex) : String := fieldsText i v ++ labelText v ++ ";"

theorem vertexText_eq (i : Nat) (v : Vertex) : vertexText i v = lineOf i v ++ "\n" := by
  simp only [vertexText, lineOf, fieldsText, successorText, labelText, String.append_assoc]
  rfl

/-- The header line declaring the largest id `n`. -/
def headerLine (n : Nat) : String := "parity " ++ toString n ++ ";"

/-- The lines of the written text of an arena whose vertices carry their
positions as ids, without their newlines. -/
def writtenLines (a : Arena) : List String :=
  (if 0 < a.size then [headerLine (a.size - 1)] else []) ++
    (List.range a.size).map fun i => lineOf i (a.vertex i)

/-- The written text of a numbered arena is its lines, each closed by a
newline. -/
theorem write_eq {a : Arena} (numbered : a.Numbered) :
    write a = String.join ((writtenLines a).map (· ++ "\n")) := by
  have header : (if a.size > 0 then s!"parity {a.size - 1};\n" else "") =
      String.join ((if 0 < a.size then [headerLine (a.size - 1)] else []).map (· ++ "\n")) := by
    split
    · simp only [List.map_cons, List.map_nil, String.join_cons, String.join_nil, String.append_empty,
        headerLine, String.append_assoc]
      rfl
    · rfl
  rw [write, numbered.map_vertices, writtenLines, List.map_append, String.join_append, List.map_map,
    header]
  simp only [Function.comp_def, vertexText_eq]

theorem toList_headerLine (n : Nat) :
    (headerLine n).toList = "parity ".toList ++ (toString n).toList ++ [';'] := by
  simp [headerLine]

theorem toList_fieldsText (i : Nat) (v : Vertex) :
    (fieldsText i v).toList = [' '].intercalate [(toString i).toList, (toString v.priority).toList,
      (toString v.owner.code).toList, (successorText v).toList] := by
  simp [fieldsText, List.intercalate_cons_cons]

theorem toList_lineOf (i : Nat) (v : Vertex) :
    (lineOf i v).toList = (fieldsText i v).toList ++ (labelText v).toList ++ [';'] := by
  simp [lineOf]

/-! ## The characters of a written line -/

theorem mem_successorText {v : Vertex} {c : Char} (mem : c ∈ (successorText v).toList) :
    c.isDigit = true ∨ c = ',' := by
  rw [successorText, String.toList_intercalate] at mem
  rcases mem_intercalate mem with comma | ⟨w, inWords, inW⟩
  · exact .inr (by simpa using comma)
  · simp only [List.map_map, List.mem_map, Function.comp_apply] at inWords
    obtain ⟨t, _, rfl⟩ := inWords
    exact .inl (isDigit_of_mem_toString inW)

/-- Every character of the fields of a vertex line is a digit, a blank, a
comma or a minus sign. -/
theorem mem_fieldsText {i : Nat} {v : Vertex} {c : Char} (mem : c ∈ (fieldsText i v).toList) :
    c.isDigit = true ∨ c = ' ' ∨ c = ',' ∨ c = '-' := by
  rw [toList_fieldsText] at mem
  rcases mem_intercalate mem with space | ⟨w, inWords, inW⟩
  · exact .inr (.inl (by simpa using space))
  · simp only [List.mem_cons, List.not_mem_nil, or_false] at inWords
    rcases inWords with rfl | rfl | rfl | rfl
    · exact .inl (isDigit_of_mem_toString inW)
    · exact .inl (isDigit_of_mem_toString inW)
    · rcases mem_intToString inW with digit | minus
      · exact .inl digit
      · exact .inr (.inr (.inr minus))
    · rcases mem_successorText inW with digit | comma
      · exact .inl digit
      · exact .inr (.inr (.inl comma))

/-- A character that is no digit, blank, comma or minus sign is not among
the fields. -/
theorem not_mem_fieldsText {i : Nat} {v : Vertex} {d : Char}
    (other : d.isDigit = false ∧ d ≠ ' ' ∧ d ≠ ',' ∧ d ≠ '-') : d ∉ (fieldsText i v).toList := by
  intro mem
  obtain ⟨notDigit, notBlank, notComma, notMinus⟩ := other
  rcases mem_fieldsText mem with digit | same | same | same
  · rw [notDigit] at digit
    exact Bool.false_ne_true digit
  exacts [notBlank same, notComma same, notMinus same]

theorem quote_not_mem_fieldsText (i : Nat) (v : Vertex) : '"' ∉ (fieldsText i v).toList :=
  not_mem_fieldsText (by decide)

theorem newline_not_mem_headerLine (n : Nat) : '\n' ∉ (headerLine n).toList := by
  rw [toList_headerLine]
  simp only [List.mem_append, not_or]
  exact ⟨⟨by decide, fun mem => absurd (isDigit_of_mem_toString mem) (by decide)⟩, by decide⟩

theorem newline_not_mem_lineOf (i : Nat) (v : Vertex) : '\n' ∉ (lineOf i v).toList := by
  rw [toList_lineOf]
  simp only [List.mem_append, not_or]
  refine ⟨⟨not_mem_fieldsText (by decide), ?_⟩, by decide⟩
  unfold labelText
  split
  · simp
  · simpa using newline_not_mem_quoteBytes v.label

/-- Splitting the written text at its newlines gives back the written lines. -/
theorem lines_write {a : Arena} (numbered : a.Numbered) : lines (write a) = writtenLines a := by
  have clean : ∀ l ∈ writtenLines a, '\n' ∉ l.toList := by
    intro l mem
    simp only [writtenLines, List.mem_append, List.mem_map, List.mem_range] at mem
    rcases mem with header | ⟨i, -, rfl⟩
    · split at header
      · rw [List.mem_singleton.1 header]
        exact newline_not_mem_headerLine _
      · cases header
    · exact newline_not_mem_lineOf i _
  rw [lines, write_eq numbered, splitChar_terminated rfl clean]
  simp

/-! ## Reading a vertex line -/

/-- What a vertex needs for its written line to read back as it: a move, an
owner that is Even or Odd, and numbers that fit in 64 signed bits. -/
structure Writable (i : Nat) (v : Vertex) : Prop where
  moves : v.outgoing ≠ #[]
  owned : v.owner = .even ∨ v.owner = .odd
  id_fits : (i : Int) ≤ int64Max
  priority_fits : (v.priority : Int) ≤ int64Max
  targets_fit : ∀ t ∈ v.outgoing, (t : Int) ≤ int64Max

/-- The record read from the line of vertex `i`, numbered `line`. -/
def recordOf (line i : Nat) (v : Vertex) : VertexLine :=
  { line := line, id := i, priority := v.priority, owner := v.owner,
    successors := v.outgoing.toList, label := v.label }

theorem successorText_ne_nil {v : Vertex} (moves : v.outgoing ≠ #[]) : (successorText v).toList ≠ [] := by
  obtain ⟨t, ts, cons⟩ := List.exists_cons_of_ne_nil (by simpa using moves : v.outgoing.toList ≠ [])
  rw [successorText, String.toList_intercalate, cons]
  cases ts with
  | nil => simp
  | cons t' ts => simp [List.intercalate_cons_cons]

/-- The four fields of a vertex line, with or without a blank after them. -/
theorem fields_fieldsText {i : Nat} {v : Vertex} (moves : v.outgoing ≠ #[]) {s : String}
    (chars : s.toList = (fieldsText i v).toList ∨ s.toList = (fieldsText i v).toList ++ [' ']) :
    fields s = [toString i, toString v.priority, toString v.owner.code, successorText v] := by
  have notBlank : ∀ c, c.isDigit = true ∨ c = ',' ∨ c = '-' → isBlank c = false := by
    rintro c (digit | rfl | rfl)
    exacts [isBlank_of_isDigit digit, rfl, rfl]
  let words := [(toString i).toList, (toString v.priority).toList, (toString v.owner.code).toList,
    (successorText v).toList]
  have solid : ∀ w ∈ words ++ [[]], ∀ c ∈ w, isBlank c = false := by
    simp only [words, List.cons_append, List.nil_append, List.mem_cons, List.not_mem_nil, or_false]
    rintro w (rfl | rfl | rfl | rfl | rfl) c mem
    · exact notBlank c (.inl (isDigit_of_mem_toString mem))
    · exact notBlank c (.inl (isDigit_of_mem_toString mem))
    · rcases mem_intToString mem with digit | minus
      exacts [notBlank c (.inl digit), notBlank c (.inr (.inr minus))]
    · rcases mem_successorText mem with digit | comma
      exacts [notBlank c (.inl digit), notBlank c (.inr (.inl comma))]
    · cases mem
  have joined : s.toList = [' '].intercalate words ∨ s.toList = [' '].intercalate (words ++ [[]]) := by
    rcases chars with same | same <;> rw [same, toList_fieldsText]
    · exact .inl rfl
    · exact .inr (by simp [words, List.intercalate_cons_cons])
  have nonempty : ∀ w ∈ words, w ≠ [] := by
    simp only [words, List.mem_cons, List.not_mem_nil, or_false]
    rintro w (rfl | rfl | rfl | rfl)
    exacts [toString_ne_nil i, toString_ne_nil _, intToString_ne_nil _, successorText_ne_nil moves]
  have kept : words.filter (· ≠ []) = words := List.filter_eq_self.2 (by simpa using nonempty)
  show fields.go s.toList [] [] = _
  rcases joined with same | same
  · rw [same, fields_go_intercalate (fun w mem => solid w (List.mem_append_left _ mem)), kept]
    simp only [words, List.map_cons, List.map_nil, String.ofList_toList, List.reverse_nil, List.nil_append]
  · have dropped : [([] : List Char)].filter (· ≠ []) = [] := rfl
    rw [same, fields_go_intercalate solid, List.filter_append, kept, dropped, List.append_nil]
    simp only [words, List.map_cons, List.map_nil, String.ofList_toList, List.reverse_nil, List.nil_append]

theorem nonNegative_toString (what : String) {n : Nat} (fits : (n : Int) ≤ int64Max) :
    nonNegative what (toString n) = pure n := by
  rw [nonNegative, parseInt?_toString fits]
  dsimp only
  rw [if_neg (by omega)]
  rfl

theorem mapM_nonNegative (what : String) (ns : List Nat) (fits : ∀ n ∈ ns, (n : Int) ≤ int64Max) :
    (ns.map toString).mapM (nonNegative what) = pure ns := by
  induction ns with
  | nil => rfl
  | cons n ns ih =>
    rw [List.map_cons, List.mapM_cons, nonNegative_toString what (fits n List.mem_cons_self),
      ih (fun m mem => fits m (List.mem_cons_of_mem n mem))]
    rfl

theorem splitChar_successorText {v : Vertex} (moves : v.outgoing ≠ #[]) :
    splitChar ',' (successorText v) = v.outgoing.toList.map toString := by
  apply splitChar_intercalate rfl
  · intro w mem inW
    simp only [List.mem_map] at mem
    obtain ⟨t, _, rfl⟩ := mem
    exact absurd (isDigit_of_mem_toString inW) (by decide)
  · simpa using moves

theorem lineOf_endsWith (i : Nat) (v : Vertex) : (lineOf i v).endsWith ";" = true := by
  rw [endsWith_iff_getLast? (c := ';') rfl, toList_lineOf, List.getLast?_concat]

theorem body_lineOf (i : Nat) (v : Vertex) :
    ((lineOf i v).dropEnd 1).toString.toList = (fieldsText i v).toList ++ (labelText v).toList := by
  rw [toList_dropEnd_one, toList_lineOf, List.dropLast_concat]

theorem splitLabel_unlabelled {body : String} (clean : '"' ∉ body.toList) :
    splitLabel body = pure (body, []) := by
  rw [splitLabel, List.idxOf?_eq_none_iff.2 clean]

/-- A body that ends in a blank and a quoted literal, with no quote before
them, splits into its fields and the bytes of the literal. -/
theorem splitLabel_labelled {body : String} {front : List Char} (clean : '"' ∉ front) (bs : List UInt8)
    (chars : body.toList = front ++ ' ' :: (quoteBytes bs).toList) :
    splitLabel body = pure (String.ofList (front ++ [' ']), bs) := by
  obtain ⟨inner, literal⟩ : ∃ inner, (quoteBytes bs).toList = '"' :: (inner ++ ['"']) :=
    ⟨_, toList_quoteBytes bs⟩
  have first : body.toList.idxOf? '"' = some (front.length + 1) := by
    rw [chars, idxOf?_append_of_not_mem clean, literal]
    simp [List.idxOf?_cons, Nat.add_comm]
  have last : body.toList.reverse.idxOf '"' = 0 := by
    rw [chars, literal]
    simp
  have length : body.toList.length = front.length + inner.length + 3 := by
    rw [chars, literal]
    simp
    omega
  have quoted : (body.toList.drop (front.length + 1)).take (inner.length + 2) = (quoteBytes bs).toList := by
    rw [chars, literal]
    simp [List.drop_append, List.drop_eq_nil_of_le]
  have fields : body.toList.take (front.length + 1) = front ++ [' '] := by
    rw [chars]
    simp [List.take_append]
  have width : front.length + inner.length + 3 - 1 - 0 - (front.length + 1) + 1 = inner.length + 2 := by
    omega
  rw [splitLabel]
  simp only [first, last, length]
  rw [if_neg (by simp; omega), fields, width, quoted, String.ofList_toList, readLabel, unquote_quoteBytes]

/-- The fields a writer puts before the label read back as the vertex. -/
theorem readFields_fieldsText (line : Nat) (text : String) {i : Nat} {v : Vertex} (good : Writable i v)
    {body : String}
    (chars : body.toList = (fieldsText i v).toList ∨ body.toList = (fieldsText i v).toList ++ [' ']) :
    readFields line text body v.label = .ok (recordOf line i v) := by
  have successors := mapM_nonNegative "successor" v.outgoing.toList
    (by simpa using good.targets_fit)
  have zero : toString Player.even.code = "0" := by decide
  have one : toString Player.odd.code = "1" := by decide
  rw [readFields, fields_fieldsText good.moves chars]
  simp only [nonNegative_toString _ good.id_fits, nonNegative_toString _ good.priority_fits, pure_bind,
    splitChar_successorText good.moves, successors]
  rcases good.owned with owner | owner <;> rw [recordOf, owner]
  · simp only [zero]
    rfl
  · simp only [one]
    rfl

/-- The written line of a vertex reads back as the vertex. -/
theorem readVertexLine_lineOf (line : Nat) {i : Nat} {v : Vertex} (good : Writable i v) :
    readVertexLine line (lineOf i v) = .ok (recordOf line i v) := by
  have clean := quote_not_mem_fieldsText i v
  rw [readVertexLine, lineOf_endsWith]
  simp only [Bool.not_true, Bool.false_eq_true, if_false]
  by_cases unlabelled : v.label = []
  · have chars : ((lineOf i v).dropEnd 1).toString.toList = (fieldsText i v).toList := by
      rw [body_lineOf]
      simp [labelText, unlabelled]
    have split : splitLabel ((lineOf i v).dropEnd 1).toString = pure (((lineOf i v).dropEnd 1).toString, []) :=
      splitLabel_unlabelled (by rw [chars]; exact clean)
    rw [split, pure_bind, ← unlabelled]
    exact readFields_fieldsText line _ good (.inl chars)
  · have chars : ((lineOf i v).dropEnd 1).toString.toList =
        (fieldsText i v).toList ++ ' ' :: (quoteBytes v.label).toList := by
      rw [body_lineOf]
      simp [labelText, unlabelled]
    rw [splitLabel_labelled clean v.label chars, pure_bind]
    exact readFields_fieldsText line _ good (.inr (by simp))

/-! ## The line-by-line pass -/

/-- A line that starts with no blank and ends with a semicolon is read as it
stands: there is no carriage return to drop and nothing to trim. -/
theorem trimmed_of_ends {s : String} (first : s.toList.head?.any isBlank = false)
    (last : s.toList.getLast? = some ';') : trimBlanks (dropReturn s) = s := by
  have noReturn : s.endsWith "\r" = false := by
    rw [Bool.eq_false_iff, ne_eq, endsWith_iff_getLast? (c := '\r') rfl, last]
    simp
  rw [dropReturn, noReturn, if_neg Bool.false_ne_true]
  exact trimBlanks_of_ends first (by rw [last]; decide)

theorem headerNumber_of_toList {n : Nat} (fits : (n : Int) ≤ int64Max) {rest : String}
    (chars : rest.toList = ' ' :: ((toString n).toList ++ [';'])) : headerNumber rest = .ok n := by
  have trimmed := toList_trimBlanks_of_blank_cons chars (head?_toString_append n _)
    (by rw [List.getLast?_concat]; decide)
  have ends : (trimBlanks rest).endsWith ";" = true := by
    rw [endsWith_iff_getLast? (c := ';') rfl, trimmed, List.getLast?_concat]
  have inner : ((trimBlanks rest).dropEnd 1).toString = toString n := by
    apply String.toList_injective
    rw [toList_dropEnd_one, trimmed, List.dropLast_concat]
  have solid : ∀ c ∈ (toString n).toList, isBlank c = false :=
    fun c mem => isBlank_of_isDigit (isDigit_of_mem_toString mem)
  rw [headerNumber]
  simp only [ends, Bool.not_true, Bool.false_eq_true, if_false, inner, trimBlanks_of_solid solid,
    parseInt?_toString fits]
  rw [if_neg (by omega)]
  rfl

theorem afterKeyword_headerLine (n : Nat) :
    ∃ rest, afterKeyword (headerLine n) "parity" = some rest ∧
      rest.toList = ' ' :: ((toString n).toList ++ [';']) := by
  have keyword : (headerLine n).startsWith "parity" = true := by
    rw [String.startsWith_string_iff, toList_headerLine]
    exact ⟨' ' :: ((toString n).toList ++ [';']), by simp⟩
  have rest : ((headerLine n).drop "parity".length).toString.toList = ' ' :: ((toString n).toList ++ [';']) := by
    have six : "parity".length = 6 := rfl
    simp [toList_headerLine, six]
  refine ⟨_, ?_, rest⟩
  rw [afterKeyword, if_pos keyword]
  simp only [rest]
  rfl

theorem afterKeyword_lineOf (i : Nat) (v : Vertex) (kw : String) {k : Char} {ks : List Char}
    (chars : kw.toList = k :: ks) (letter : k.isDigit = false) : afterKeyword (lineOf i v) kw = none := by
  obtain ⟨c, cs, digits⟩ := List.exists_cons_of_ne_nil (toString_ne_nil i)
  have digit : c.isDigit = true := isDigit_of_mem_toString (digits ▸ List.mem_cons_self)
  have first : (lineOf i v).toList.head? = some c := by
    rw [toList_lineOf, toList_fieldsText, List.intercalate_cons_cons, digits]
    rfl
  have notKeyword : (lineOf i v).startsWith kw = false := by
    rw [Bool.eq_false_iff, ne_eq, String.startsWith_string_iff, chars]
    rintro ⟨rest, same⟩
    rw [← same, List.cons_append, List.head?_cons, Option.some_inj] at first
    rw [first, digit] at letter
    exact Bool.noConfusion letter
  rw [afterKeyword, notKeyword, if_neg Bool.false_ne_true]

theorem scanStep_headerLine (acc : Scan) {n : Nat} (idx : Nat)
    (short : (headerLine n).utf8ByteSize < maxLineBytes) (fits : (n : Int) ≤ int64Max) :
    scanStep acc (headerLine n, idx) = pure { acc with declared := some n } := by
  have text : trimBlanks (dropReturn (headerLine n)) = headerLine n :=
    trimmed_of_ends (by rw [toList_headerLine]; rfl) (by rw [toList_headerLine, List.getLast?_concat])
  have nonempty : (headerLine n).isEmpty = false := by
    rw [Bool.eq_false_iff, ne_eq, String.isEmpty_iff, ← String.toList_inj, toList_headerLine]
    simp
  obtain ⟨rest, after, chars⟩ := afterKeyword_headerLine n
  rw [scanStep]
  simp only [show ¬(headerLine n).utf8ByteSize + 1 > maxLineBytes by omega, if_false, text, nonempty,
    Bool.false_eq_true, after, headerNumber_of_toList fits chars]

theorem scanStep_lineOf (acc : Scan) (idx : Nat) {i : Nat} {v : Vertex} (good : Writable i v)
    (short : (lineOf i v).utf8ByteSize < maxLineBytes) :
    scanStep acc (lineOf i v, idx) = pure { acc with vertices := acc.vertices.push (recordOf (idx + 1) i v) } := by
  have text : trimBlanks (dropReturn (lineOf i v)) = lineOf i v := by
    apply trimmed_of_ends
    · rw [toList_lineOf, toList_fieldsText, List.intercalate_cons_cons]
      simpa only [List.append_assoc] using head?_toString_append i _
    · rw [toList_lineOf, List.getLast?_concat]
  have nonempty : (lineOf i v).isEmpty = false := by
    rw [Bool.eq_false_iff, ne_eq, String.isEmpty_iff, ← String.toList_inj, toList_lineOf]
    simp
  rw [scanStep]
  simp only [show ¬(lineOf i v).utf8ByteSize + 1 > maxLineBytes by omega, if_false, text, nonempty,
    Bool.false_eq_true, afterKeyword_lineOf i v "parity" rfl rfl,
    afterKeyword_lineOf i v "start" rfl rfl, readVertexLine_lineOf _ good]

/-- Reading the written lines of vertices `0 … n-1`, numbered from `start`,
collects their records in order. -/
theorem foldlM_scanStep_lineOf (f : Nat → Vertex) (acc : Scan) (start n : Nat)
    (good : ∀ i < n, Writable i (f i) ∧ (lineOf i (f i)).utf8ByteSize < maxLineBytes) :
    (((List.range n).map fun i => lineOf i (f i)).zipIdx start).foldlM scanStep acc =
      pure { acc with vertices := acc.vertices ++
        ((List.range n).map fun i => recordOf (start + i + 1) i (f i)).toArray } := by
  induction n with
  | zero => simp
  | succ n ih =>
    have last := good n (Nat.lt_succ_self n)
    rw [List.range_succ, List.map_append, List.zipIdx_append, List.foldlM_append,
      ih (fun i lt => good i (Nat.lt_succ_of_lt lt))]
    simp only [List.map_cons, List.map_nil, List.length_map, List.length_range, List.zipIdx_cons,
      List.zipIdx_nil, List.foldlM_cons, List.foldlM_nil, bind_pure, scanStep_lineOf _ _ last.1 last.2,
      pure_bind]
    simp [Nat.add_assoc]

/-- The scan of the written lines: the records of the vertices in order, each
numbered after the header, and the largest id the header declares. -/
theorem scanLines_writtenLines (a : Arena) (good : ∀ i < a.size, Writable i (a.vertex i))
    (short : ∀ l ∈ writtenLines a, l.utf8ByteSize < maxLineBytes) (fits : (a.size : Int) ≤ int64Max) :
    scanLines (writtenLines a) =
      pure { vertices := ((List.range a.size).map fun i => recordOf (i + 2) i (a.vertex i)).toArray,
             declared := if 0 < a.size then some (a.size - 1) else none } := by
  rw [scanLines, writtenLines]
  split
  next nonempty =>
    have vertexGood : ∀ i < a.size, Writable i (a.vertex i) ∧ (lineOf i (a.vertex i)).utf8ByteSize < maxLineBytes :=
      fun i lt => ⟨good i lt, short _ (by simp [writtenLines, nonempty]; exact .inr ⟨i, lt, rfl⟩)⟩
    have header := scanStep_headerLine {} (n := a.size - 1) 0 (short _ (by simp [writtenLines, nonempty]))
      (by omega)
    rw [List.singleton_append, List.zipIdx_cons, List.foldlM_cons, header, pure_bind,
      foldlM_scanStep_lineOf _ _ 1 _ vertexGood]
    simp [Nat.add_comm 1, Nat.add_assoc]
  next empty =>
    have size : a.size = 0 := by omega
    simp [size]

/-! ## The id check -/

/-- With the first `k` of `n` ids marked, id `k` is not. -/
theorem getElem!_marked {n k : Nat} (lt : k < n) :
    (List.replicate k true ++ List.replicate (n - k) false).toArray[k]! = false := by
  rw [show n - k = n - (k + 1) + 1 by omega]
  simp [List.getElem_append_right]

/-- Marking id `k` after the first `k` of `n` marks the first `k + 1`. -/
theorem set!_marked {n k : Nat} (lt : k < n) :
    (List.replicate k true ++ List.replicate (n - k) false).toArray.set! k true =
      (List.replicate (k + 1) true ++ List.replicate (n - (k + 1)) false).toArray := by
  have marked : List.replicate (k + 1) true ++ List.replicate (n - (k + 1)) false =
      List.replicate k true ++ true :: List.replicate (n - (k + 1)) false := by
    simp [List.replicate_succ']
  rw [show n - k = n - (k + 1) + 1 by omega, marked, Array.set!_eq_setIfInBounds, List.setIfInBounds_toArray]
  simp [List.set_append_right, List.replicate_succ]

/-- After the first `k` of `n` ids in order, exactly those are marked. -/
theorem markSeen_next {n k : Nat} (lt : k < n) (line : Nat) (v : Vertex) :
    markSeen n (List.replicate k true ++ List.replicate (n - k) false).toArray (recordOf line k v) =
      pure (List.replicate (k + 1) true ++ List.replicate (n - (k + 1)) false).toArray := by
  rw [markSeen, recordOf]
  simp only [ge_iff_le, if_neg (Nat.not_le.2 lt), getElem!_marked lt, Bool.not_false, if_true]
  rw [set!_marked lt]

/-- Marking the ids `0 … k-1` in order marks exactly those. -/
theorem foldlM_markSeen (f : Nat → Vertex) (line : Nat → Nat) {n k : Nat} (le : k ≤ n) :
    ((List.range k).map fun i => recordOf (line i) i (f i)).foldlM (markSeen n)
        (Array.replicate n false) =
      pure (List.replicate k true ++ List.replicate (n - k) false).toArray := by
  induction k with
  | zero => simp
  | succ k ih =>
    rw [List.range_succ, List.map_append, List.foldlM_append, ih (by omega)]
    simp only [List.map_cons, List.map_nil, List.foldlM_cons, List.foldlM_nil, pure_bind, bind_pure]
    exact markSeen_next (by omega) _ _

/-- The records of the vertices `0 … n-1` in order pass the id check when the
declared largest id, if any, is below `n`. -/
theorem checkIds_records (f : Nat → Vertex) (line : Nat → Nat) (n : Nat) {declared : Option Nat}
    (below : ∀ d ∈ declared, d < n) :
    checkIds { vertices := ((List.range n).map fun i => recordOf (line i) i (f i)).toArray, declared } =
      pure () := by
  have seen := foldlM_markSeen f line (Nat.le_refl n)
  rw [Nat.sub_self, List.replicate_zero, List.append_nil] at seen
  have none : (List.range n).find? (fun i => !(List.replicate n true).toArray[i]!) = none := by
    rw [List.find?_eq_none]
    intro i mem
    simp [List.mem_range.1 mem]
  rw [checkIds]
  simp only [List.foldlM_toArray]
  simp only [List.size_toArray, List.length_map, List.length_range, seen, pure_bind, none]
  cases declared with
  | none => rfl
  | some d => simp [Nat.not_le.2 (below d rfl)]

end PGSolver

end ParityGames
