import ParityGames.Failure
import ParityGames.Text.Decimal

/-!
# The PGSolver format

A game in PGSolver format is a text of lines.  Blank lines are skipped, and
every line is trimmed of blanks.  A line `parity n;` declares the largest
vertex id and a line `start n;` names a start vertex; both need a
non-negative number.  Every other line defines one vertex:

    <id> <priority> <owner> <successor>,<successor>,… ["label"];

The owner is `0` (Even) or `1` (Odd).  The label runs from the first to the
last double quote of the line and is read as a quoted literal; a label that
is no valid literal keeps the raw text between its quotes.

The vertex ids must be exactly `0 … n-1` for `n` vertex lines, the declared
largest id must be below `n`, every successor must exist and every vertex
needs a successor.  Line numbers count every line, blank ones included.
Lines longer than 16 MiB are refused.

Writing gives the canonical form: a `parity` line for a non-empty game, then
one line per vertex in id order, with its label written as a quoted literal.
-/

namespace ParityGames

namespace PGSolver

/-- The longest line a reader accepts, in bytes, newline included. -/
def maxLineBytes : Nat := 16 * 1024 * 1024

/-- A vertex line that has been read. -/
structure VertexLine where
  line : Nat
  id : Nat
  priority : Nat
  owner : Player
  successors : List Nat
  label : Label
  deriving Repr, Inhabited

/-- Why a vertex line cannot be read. -/
inductive LineError where
  | missingSemicolon
  | unterminatedLabel
  | fieldCount (line : String)
  | invalidNumber (what text : String)
  | invalidOwner (text : String)
  deriving Repr, DecidableEq

/-- The text of a line error, after `syntax error: `. -/
def LineError.message : LineError → String
  | .missingSemicolon => "missing ';'"
  | .unterminatedLabel => "unterminated label"
  | .fieldCount line =>
    s!"want \"<id> <priority> <owner> <successors>\", got {Text.quote line}"
  | .invalidNumber what text => s!"invalid {what} {Text.quote text}"
  | .invalidOwner text => s!"owner must be 0 or 1, got {Text.quote text}"

/-- Why a header line cannot be read. -/
inductive HeaderError where
  | missingSemicolon
  | invalidNumber (text : String)
  deriving Repr, DecidableEq

/-- The text of a header error. -/
def HeaderError.message : HeaderError → String
  | .missingSemicolon => "missing ';'"
  | .invalidNumber text => s!"invalid number {Text.quote text}"

/-- Why a text is not a game in PGSolver format. -/
inductive ReadError where
  | header (line : Nat) (keyword : String) (e : HeaderError)
  | vertexLine (line : Nat) (e : LineError)
  | lineTooLong
  | duplicate (line id : Nat)
  | missing (id : Nat)
  | missingDeclared (size declared : Nat)
  | edge (line id : Nat) (e : ArenaError)
  | invalid (e : ArenaError)
  deriving Repr

/-- The failure of a read error. -/
def ReadError.toFailure : ReadError → Failure
  | .header line kw e => .marked s!"line {line}: syntax error: {kw}: {e.message}" .malformed
  | .vertexLine line e => .marked s!"line {line}: syntax error: {e.message}" .malformed
  | .lineTooLong => .plain "read: bufio.Scanner: token too long"
  | .duplicate line id => .marked s!"line {line}: duplicate vertex: {id}" .duplicateVertex
  | .missing id => .marked s!"missing vertex: {id}" .missingVertex
  | .missingDeclared size declared =>
    .marked s!"missing vertex: {size} (header declares ids up to {declared})" .missingVertex
  | .edge line id e => (Failure.ofArena e).context s!"vertex {id}" |>.context s!"line {line}"
  | .invalid e => .ofArena e

/-- The lines of a text: split at newlines, one carriage return dropped from
each, and no line after a final newline. -/
def lines (text : String) : List String :=
  let pieces := Text.splitChar '\n' text
  let pieces := if pieces.getLast? == some "" then pieces.dropLast else pieces
  pieces

/-- A line without its final carriage return. -/
def dropReturn (line : String) : String :=
  if line.endsWith "\r" then (line.dropEnd 1).toString else line

/-- The rest of a trimmed line after a keyword and a blank or tab, if the
line starts so. -/
def afterKeyword (text keyword : String) : Option String :=
  if text.startsWith keyword then
    let rest := (text.drop keyword.length).toString
    match rest.toList with
    | c :: _ => if c == ' ' || c == '\t' then some rest else none
    | [] => none
  else none

/-- Reads the number of a header line: trimmed, then `;`, then a
non-negative integer. -/
def headerNumber (rest : String) : Except HeaderError Nat :=
  let r := Text.trimBlanks rest
  if !r.endsWith ";" then .error .missingSemicolon
  else
    let inner := (r.dropEnd 1).toString
    match Text.parseInt? (Text.trimBlanks inner) with
    | some n => if n < 0 then .error (.invalidNumber inner) else .ok n.toNat
    | none => .error (.invalidNumber inner)

/-- Reads a non-negative integer field. -/
def nonNegative (what text : String) : Except LineError Nat :=
  match Text.parseInt? text with
  | some n => if n < 0 then .error (.invalidNumber what text) else .ok n.toNat
  | none => .error (.invalidNumber what text)

/-- The bytes of a label between its quotes. -/
def readLabel (quoted : String) : Label :=
  match Text.unquote quoted with
  | some bytes => bytes
  | none => Text.utf8Bytes (String.ofList ((quoted.toList.drop 1).dropLast))

/-- Splits the label off a vertex line without its semicolon.  The label runs
from the first to the last double quote; a single quote leaves it open. -/
def splitLabel (body : String) : Except LineError (String × Label) :=
  let chars := body.toList
  match chars.idxOf? '"' with
  | none => pure (body, [])
  | some i =>
    let j := chars.length - 1 - (chars.reverse.idxOf '"')
    if i == j then throw .unterminatedLabel
    else pure (String.ofList (chars.take i), readLabel (String.ofList ((chars.drop i).take (j - i + 1))))

/-- Reads the four fields before the label of a vertex line. -/
def readFields (line : Nat) (text body : String) (label : Label) : Except LineError VertexLine :=
  match Text.fields body with
  | [f0, f1, f2, f3] => do
    let id ← nonNegative "id" f0
    let priority ← nonNegative "priority" f1
    let owner ← match f2 with
      | "0" => pure Player.even
      | "1" => pure Player.odd
      | _ => throw (.invalidOwner f2)
    let successors ← (Text.splitChar ',' f3).mapM (nonNegative "successor")
    return { line, id, priority, owner, successors, label }
  | _ => throw (.fieldCount text)

/-- Reads one vertex line, already trimmed and not blank. -/
def readVertexLine (line : Nat) (text : String) : Except LineError VertexLine := do
  if !text.endsWith ";" then throw .missingSemicolon
  let (body, label) ← splitLabel (text.dropEnd 1).toString
  readFields line text body label

/-- What the line-by-line pass collects: vertex lines and the declared
largest id. -/
structure Scan where
  vertices : Array VertexLine := #[]
  declared : Option Nat := none

/-- Reads one line, numbered from zero, into what the pass has collected. -/
def scanStep (acc : Scan) (entry : String × Nat) : Except ReadError Scan := do
  let (raw, idx) := entry
  let line := idx + 1
  if raw.utf8ByteSize + 1 > maxLineBytes then throw .lineTooLong
  let text := Text.trimBlanks (dropReturn raw)
  if text.isEmpty then return acc
  match afterKeyword text "parity" with
  | some rest =>
    match headerNumber rest with
    | .ok n => return { acc with declared := some n }
    | .error e => throw (.header line "header" e)
  | none =>
    match afterKeyword text "start" with
    | some rest =>
      match headerNumber rest with
      | .ok _ => return acc
      | .error e => throw (.header line "start" e)
    | none =>
      match readVertexLine line text with
      | .ok v => return { acc with vertices := acc.vertices.push v }
      | .error e => throw (.vertexLine line e)

/-- Reads the lines in order, stopping at the first error. -/
def scanLines (ls : List String) : Except ReadError Scan :=
  ls.zipIdx.foldlM scanStep {}

/-- Marks the id of a read line as seen among `size` ids; an id seen before
is a duplicate, and an id out of range is left for the missing-id check. -/
def markSeen (size : Nat) (seen : Array Bool) (v : VertexLine) : Except ReadError (Array Bool) :=
  if v.id ≥ size then pure seen
  else if seen[v.id]!.not then pure (seen.set! v.id true)
  else throw (.duplicate v.line v.id)

/-- Checks that the ids are exactly `0 … n-1` and that the declared largest
id is below `n`. -/
def checkIds (scan : Scan) : Except ReadError Unit := do
  let size := scan.vertices.size
  let seen ← scan.vertices.foldlM (markSeen size) (Array.replicate size false)
  match (List.range size).find? (fun i => !seen[i]!) with
  | some i => throw (.missing i)
  | none => pure ()
  match scan.declared with
  | some d => if d ≥ size then throw (.missingDeclared size d)
  | none => pure ()

/-- Adds the edge from the vertex of a read line to one of its successors. -/
def addSuccessor (v : VertexLine) (a : Arena) (s : Nat) : Except ReadError Arena :=
  match a.addEdge v.id s with
  | .ok a => pure a
  | .error e => throw (.edge v.line v.id e)

/-- Defines one vertex of a read line in the arena. -/
def defineLine (a : Arena) (v : VertexLine) : Except ReadError Arena := do
  let a := (a.setOwner v.id v.owner).toOption.getD a
  let a := (a.setPriority v.id v.priority).toOption.getD a
  let a := (a.setLabel v.id v.label).toOption.getD a
  v.successors.foldlM (addSuccessor v) a

/-- Reads a game in PGSolver format. -/
def read (text : String) : Except ReadError Arena := do
  let scan ← scanLines (lines text)
  checkIds scan
  let a ← scan.vertices.foldlM defineLine (Arena.new scan.vertices.size)
  match a.validate with
  | .ok _ => return a
  | .error e => throw (.invalid e)

/-- The line of one vertex, under the id `i`, in canonical form. -/
def vertexText (i : Nat) (v : Vertex) : String :=
  let succ := ",".intercalate (v.outgoing.toList.map toString)
  let label := if v.label.isEmpty then "" else " " ++ Text.quoteBytes v.label
  s!"{i} {v.priority} {v.owner.code} {succ}{label};\n"

/-- Writes a game in canonical PGSolver form, each vertex under its id. -/
def write (a : Arena) : String :=
  let header := if a.size > 0 then s!"parity {a.size - 1};\n" else ""
  header ++ String.join (a.vertices.toList.map fun v => vertexText v.id v)

end PGSolver

end ParityGames
