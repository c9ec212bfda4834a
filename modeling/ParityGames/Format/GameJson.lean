import ParityGames.Failure
import ParityGames.Json.Parse
import ParityGames.Json.Decode

/-!
# The JSON game format

A game in JSON is an object with a list `vertices`; each vertex has an
`id`, an `owner` (`"even"`, `"odd"`, `"0"` or `"1"`), a `priority`, a list of
`successors`, and optionally a `label` and a `winner`.  Missing fields are
zero, empty or Even.  Only the first JSON value of the text is read.

The ids must be exactly `0 … n-1` for `n` vertices, each once, every
successor must exist and every vertex needs a successor.  The checks run
vertex by vertex in the order of the list, so the first offending vertex
is the one reported.

Writing lists the vertices in id order, indented by two spaces, with an
empty successor list written as `null`, an empty label left out and the
winner of each vertex added when winners are given.
-/

namespace ParityGames

namespace GameJson

/-- A vertex as the JSON game format holds it. -/
structure Entry where
  id : Int := 0
  owner : Player := .even
  priority : Int := 0
  successors : Option (Buffer Int) := none
  label : String := ""
  winner : Option Player := none
  deriving Inhabited

/-- Fills the successor ids of an entry. -/
def successorKind : Json.ElementKind Int :=
  { size := 8, refs := false, blank := 0, fill := Json.intField "int" }

/-- Fills one field of an entry. -/
def fillEntry (e : Entry) (field : String) (v : Json) : Json.Decoding Entry :=
  match field with
  | "id" => return { e with id := ← Json.intField "int" e.id v }
  | "owner" => return { e with owner := ← Json.parsedField "arena.Player" Player.parse e.owner v }
  | "priority" => return { e with priority := ← Json.intField "int" e.priority v }
  | "successors" =>
    return { e with successors := ← Json.listField "[]int" successorKind e.successors v }
  | "label" => return { e with label := ← Json.textField "string" e.label v }
  | "winner" =>
    return { e with winner := ← Json.optionField "*arena.Player" Player.parse e.winner v }
  | _ => pure e

/-- The field names of an entry. -/
def entryFields : List String := ["id", "owner", "priority", "successors", "label", "winner"]

/-- Fills the entries of the vertex list: an entry takes 72 bytes and holds
references. -/
def entryKind : Json.ElementKind Entry :=
  { size := 72, refs := true, blank := {},
    fill := Json.recordField "vertex" "io.vertex" entryFields fillEntry }

/-- Decodes the vertex list of a game document. -/
def decodeGame (doc : Json) : Except Json.Fault (Array Entry) :=
  let fill (vs : Option (Buffer Entry)) (field : String) (v : Json) :
      Json.Decoding (Option (Buffer Entry)) :=
    if field == "vertices" then Json.listField "[]io.vertex" entryKind vs v else pure vs
  (Json.decodeAll (Json.recordField "game" "io.game" ["vertices"] fill none doc)).map
    fun vs => (vs.getD {}).items

/-- Why a text is not a game in JSON. -/
inductive ReadError where
  /-- The text is not a game document: the message, and the mark of a
  syntax or type error. -/
  | decode (message : String) (mark : Option Mark)
  | outOfRange (id : Int) (count : Nat)
  | duplicate (id : Nat)
  | define (id : Nat) (e : ArenaError)
  | edge (id : Nat) (e : ArenaError)
  | invalid (e : ArenaError)
  deriving Repr

/-- The failure of a read error. -/
def ReadError.toFailure : ReadError → Failure
  | .decode m none => .plain ("decode: " ++ m)
  | .decode m (some k) => .marked ("decode: " ++ m) k
  | .outOfRange id count =>
    .marked s!"vertex {id}: missing vertex: ids must be 0..{(count : Int) - 1}" .missingVertex
  | .duplicate id => .marked s!"vertex {id}: duplicate vertex" .duplicateVertex
  | .define id e => (Failure.ofArena e).context s!"vertex {id}"
  | .edge id e => (Failure.ofArena e).context s!"vertex {id}" |>.context s!"vertex {id}"
  | .invalid e => .ofArena e

/-- Defines the vertex of an entry, with id `id`, in the arena. -/
def defineEntry (a : Arena) (id : Nat) (e : Entry) : Except ReadError Arena := do
  let a ← (a.setOwner id e.owner).mapError (.define id)
  let a ← (a.setPriority id e.priority).mapError (.define id)
  let a ← (a.setLabel id (Text.utf8Bytes e.label)).mapError (.define id)
  (e.successors.getD {}).items.foldlM (fun a (s : Int) => (a.addEdge id s).mapError (.edge id)) a

/-- Checks and defines the entries in order. -/
def defineAll (count : Nat) : Arena → Array Bool → List Entry → Except ReadError Arena
  | a, _, [] => pure a
  | a, seen, e :: rest =>
    if e.id < 0 || e.id ≥ count then .error (.outOfRange e.id count)
    else
      let id := e.id.toNat
      if seen[id]! then .error (.duplicate id)
      else do
        let a ← defineEntry a id e
        defineAll count a (seen.set! id true) rest

/-- Reads a game in JSON. -/
def read (text : String) : Except ReadError Arena := do
  let doc ← (Json.readFirst text).mapError (fun e => .decode e.streamText (match e with
    | .invalid _ => some .jsonSyntax
    | _ => none))
  let entries ← (decodeGame doc).mapError (fun f => .decode f.message (match f with
    | .mismatch .. => some .jsonType
    | .refused _ => none))
  let a ← defineAll entries.size (Arena.new entries.size) (Array.replicate entries.size false)
    entries.toList
  match a.validate with
  | .ok _ => return a
  | .error e => throw (.invalid e)

/-- The JSON of one vertex, with its winner when one is given. -/
def vertexJson (i : Nat) (v : Vertex) (winner : Option Player) : Json :=
  let succ := if v.outgoing.isEmpty then Json.null else .arr (v.outgoing.toList.map Json.nat)
  let label := if v.label.isEmpty then [] else [("label", Json.str (String.ofList ((Text.decode v.label).map Text.Piece.shown)))]
  let win := match winner with
    | some p => [("winner", Json.str p.name)]
    | none => []
  .obj ([("id", Json.nat i), ("owner", .str v.owner.name), ("priority", Json.nat v.priority),
    ("successors", succ)] ++ label ++ win)

/-- Writes a game in JSON, with one winner per vertex when winners are given. -/
def write (a : Arena) (winners : Option (Array Player)) : Except String String :=
  match winners with
  | some ws =>
    if ws.size != a.size then .error s!"winners: got {ws.size} entries for {a.size} vertices"
    else .ok (doc fun i => ws[i]?)
  | none => .ok (doc fun _ => none)
where
  /-- The document with the winner of each vertex. -/
  doc (winner : Nat → Option Player) : String :=
    let vs := (List.range a.size).map fun i =>
      let v := a.vertex i
      vertexJson v.id v (winner i)
    Json.encodeIndented (.obj [("vertices", .arr vs)])

end GameJson

end ParityGames
