import ParityGames.Screen.Layout

/-!
# Bordered tables

A table has a header row and data rows, drawn with rounded corners:

```
╭──────┬───────╮
│ game │ lifts │
├──────┼───────┤
│ g.gm │ 12    │
╰──────┴───────╯
```

Every column is as wide as its widest cell plus the padding on both sides,
and cells are aligned left.  A cell may span several lines; its row is then
as tall as its tallest cell.  A row with fewer cells than the widest row is
filled with empty cells, and so is the header.  A table without data rows
still draws its header and the rule below it.
-/

namespace ParityGames

namespace Screen

/-- A table: its header, its rows and the spaces on each side of a cell. -/
structure Table where
  header : List String
  rows : List (List String) := []
  pad : Nat := 1

/-- The number of columns of a table. -/
def Table.columns (t : Table) : Nat :=
  t.rows.foldl (fun n r => max n r.length) t.header.length

/-- A row filled with empty cells up to a number of columns. -/
def fill (n : Nat) (r : List String) : List String :=
  r ++ List.replicate (n - r.length) ""

/-- The widths of the columns, padding included. -/
def Table.widths (t : Table) : List Nat :=
  let n := t.columns
  let all := (t.header :: t.rows).map (fill n)
  (List.range n).map fun i =>
    all.foldl (fun w r => max w (width (r.getD i ""))) 0 + 2 * t.pad

/-- A horizontal rule with its corner and junction characters. -/
def rule (left mid right : String) (ws : List Nat) : String :=
  left ++ mid.intercalate (ws.map fun w => String.ofList (List.replicate w '─')) ++ right

/-- A row of cells between vertical bars.  A cell of several lines makes the
row as tall as its lines; the other cells are filled with blank lines. -/
def Table.line (t : Table) (ws : List Nat) (r : List String) : String :=
  let cells := (fill ws.length r).zip ws |>.map fun (c, w) => (lines (block w t.pad c), w)
  let height := cells.foldl (fun h (ls, _) => max h ls.length) 1
  let rowLine (i : Nat) : String :=
    "│" ++ "│".intercalate (cells.map fun (ls, w) => ls.getD i (spaces w)) ++ "│"
  "\n".intercalate ((List.range height).map rowLine)

/-- Draws a table. -/
def Table.render (t : Table) : String :=
  let ws := t.widths
  let body := [rule "╭" "┬" "╮" ws, t.line ws t.header, rule "├" "┼" "┤" ws] ++
    t.rows.map (t.line ws) ++ [rule "╰" "┴" "╯" ws]
  "\n".intercalate body

theorem columns_ragged :
    ({ header := ["a"], rows := [["b", "c"], []] } : Table).columns = 2 := by decide

end Screen

end ParityGames
