import ParityGames.Screen.Table
import ParityGames.Game.Arena
import ParityGames.Text.Utf8

/-!
# Browsing the vertices of a solved game

The vertex list shows a window of `height` rows of a solved game's vertices,
one row per vertex: its id, label, owner, priority, winner, final measure
and first successors.  A cursor marks one row; the window scrolls so that
the cursor stays in it.  Keys move the cursor (`up`/`k`, `down`/`j`, `pgup`,
`pgdown`, `home`/`g`, `end`/`G`), restrict the list to the vertices won by
one player (`e`, `o`) or show all again (`a`), and follow the first edge of
the selected vertex that stays in the list (`enter`/`l`).  `q`, `esc` and
`ctrl+c` quit.  A new terminal height gives the window ten rows less, but
at least five.

The winners come with the solution and are indexed by vertex; a solution
with fewer winners than vertices makes looking one up fail, which is
reported as the failure of the step that looked.

The cursor, the window's offset and its height are 64-bit machine integers:
the sums and differences that move the window wrap around (`wrap`), and a
window that wraps to a negative offset makes drawing fail.
-/

namespace ParityGames

namespace Screen

/-- Which vertices the list shows. -/
inductive Filter where
  | all
  | even
  | odd
  deriving DecidableEq, Repr

/-- How a filter is named in the list's subtitle. -/
def Filter.name : Filter → String
  | .all => "all"
  | .even => "won by even"
  | .odd => "won by odd"

/-- The vertex list: a solved game and where the cursor and window are. -/
structure VertexList where
  title : String
  arena : Arena
  strategy : String
  winners : Array Player
  measures : Array String
  cursor : Int := 0
  offset : Int := 0
  height : Int := 15
  filter : Filter := .all
  visible : Array Nat := #[]

/-- The value of an integer sum in 64-bit machine arithmetic: it wraps
around modulo `2 ^ 64` into `[-2 ^ 63, 2 ^ 63)`. -/
def wrap (n : Int) : Int := (n + 9223372036854775808) % 18446744073709551616 - 9223372036854775808

/-- The failure of looking up the entry `i` of a list of `n` entries; a
negative position is reported without the length. -/
def outOfRange (i : Int) (n : Nat) : String :=
  if i < 0 then s!"runtime error: index out of range [{i}]"
  else s!"runtime error: index out of range [{i}] with length {n}"

/-- The winner of a vertex, or the failure of looking it up. -/
def VertexList.winner (m : VertexList) (v : Nat) : Except String Player :=
  match m.winners[v]? with
  | some p => .ok p
  | none => .error (outOfRange v m.winners.size)

/-- Shows the vertices a filter keeps, with the cursor on the first. -/
def VertexList.applyFilter (m : VertexList) (f : Filter) : Except String VertexList := do
  let keep (v : Nat) : Except String Bool :=
    match f with
    | .all => pure true
    | .even => return (← m.winner v).code == Player.even.code
    | .odd => return (← m.winner v).code == Player.odd.code
  let visible ← (Array.range m.arena.size).filterM keep
  return { m with filter := f, visible, cursor := 0, offset := 0 }

/-- A list of every vertex of a solved game. -/
def VertexList.new (title : String) (a : Arena) (strategy : String) (winners : Array Player)
    (measures : Array String) : VertexList :=
  { title, arena := a, strategy, winners, measures, visible := Array.range a.size }

/-- Moves the cursor by `delta` rows, keeping it in the list and the window
around it. -/
def VertexList.move (m : VertexList) (delta : Int) : VertexList :=
  if m.visible.isEmpty then { m with cursor := 0, offset := 0 }
  else
    let cursor := min (max (wrap (m.cursor + delta)) 0) (m.visible.size - 1 : Int)
    let offset := if cursor < m.offset then cursor else m.offset
    let offset := if cursor ≥ wrap (offset + m.height) then wrap (cursor - m.height + 1) else offset
    { m with cursor, offset }

/-- Moves the cursor to the first successor of the selected vertex that is
listed; when none is and a filter hides some vertices, shows all of them and
moves to the first successor. -/
def VertexList.follow (m : VertexList) : Except String VertexList :=
  match m.visible[m.cursor.toNat]? with
  | none => pure m
  | some v =>
    let succ := (m.arena.vertex v).outgoing.toList
    let target := succ.findSome? fun w => m.visible.findIdx? (· == w)
    match target with
    | some i => pure (m.move (i - m.cursor))
    | none =>
      match succ with
      | w :: _ =>
        if m.filter != .all then return (← m.applyFilter .all).move w
        else pure m
      | [] => pure m

/-- What a key does: the new list and whether it quits. -/
def VertexList.press (m : VertexList) (key : String) : Except String (VertexList × Bool) :=
  match key with
  | "q" | "ctrl+c" | "esc" => pure (m, true)
  | "up" | "k" => pure (m.move (-1), false)
  | "down" | "j" => pure (m.move 1, false)
  | "pgup" => pure (m.move (-m.height), false)
  | "pgdown" => pure (m.move m.height, false)
  | "home" | "g" => pure (m.move (-(m.visible.size : Int)), false)
  | "end" | "G" => pure (m.move m.visible.size, false)
  | "a" => return (← m.applyFilter .all, false)
  | "e" => return (← m.applyFilter .even, false)
  | "o" => return (← m.applyFilter .odd, false)
  | "enter" | "l" => return (← m.follow, false)
  | _ => pure (m, false)

/-- Adapts the window to a new terminal height. -/
def VertexList.resize (m : VertexList) (rows : Int) : VertexList :=
  { m with height := max (wrap (rows - 10)) 5 }.move 0

/-- What the list is told: a key, or the terminal's new height. -/
inductive Message where
  | key (name : String)
  | window (rows : Int)

/-- Answers a message: the new list and whether it quits. -/
def VertexList.update (m : VertexList) : Message → Except String (VertexList × Bool)
  | .key name => m.press name
  | .window rows => pure (m.resize rows, false)

/-- At most `limit` ids joined by commas, with `…` when some are left out. -/
def joinIds (ids : List Nat) (limit : Nat) : String :=
  let shown := (ids.take limit).map toString
  ",".intercalate (if ids.length > limit then shown ++ ["…"] else shown)

/-- The text of a label: its bytes as UTF-8, a stray byte shown as the
replacement character. -/
def labelText (l : Label) : String := String.ofList ((Text.decode l).map Text.Piece.shown)

/-- The row of the vertex at position `i` of the list. -/
def VertexList.row (m : VertexList) (i : Nat) : Except String (List String) := do
  let v := m.visible[i]?.getD 0
  let vert := m.arena.vertex v
  let w ← m.winner v
  let label := labelText vert.label
  return [if (i : Int) == m.cursor then "▸ " else "  ", toString v,
    if label.isEmpty then "—" else label, vert.owner.name, toString vert.priority, w.name,
    (m.measures[v]?).getD "", joinIds vert.outgoing.toList 8]

/-- Draws the list. -/
def VertexList.view (m : VertexList) : Except String String := do
  let stop := min (wrap (m.offset + m.height)) (m.visible.size : Int)
  -- the rows run from the offset up to `stop`, so a negative offset is looked up first
  if m.offset < 0 ∧ m.offset < stop then throw (outOfRange m.offset m.visible.size)
  let first := m.offset.toNat
  let rows ← (List.range (stop - m.offset).toNat).mapM fun k => m.row (first + k)
  let table : Table :=
    { header := ["", "id", "label", "owner", "prio", "winner", "measure", "successors"],
      rows, pad := 0 }
  let position := if m.visible.isEmpty then "  no vertices"
    else s!"  [{m.cursor + 1}/{m.visible.size}]"
  return block 0 0 m.title ++ "  " ++ block 0 0 s!"{m.filter.name} · strategy {m.strategy}" ++
    "\n" ++ "↑/↓ navigate  ⏎ follow edge  a/e/o filter  q quit" ++ "\n\n" ++ table.render ++
    "\n\n" ++ position

theorem move_empty (m : VertexList) (d : Int) (h : m.visible.isEmpty = true) :
    (m.move d).cursor = 0 := by
  simp [VertexList.move, h]

end Screen

end ParityGames
