import ParityGames.Game.Arena
import ParityGames.Text.Quoted

/-!
# Node-link diagrams in DOT

A game is drawn as a Graphviz digraph laid out left to right: Even's
vertices are diamonds and Odd's are boxes.  A vertex is labelled by its
name (its label, or its id when it has none), its priority, with the
detailed option also its owner (and its id after a name), and the measure
given for it, if any.

When there is one winner per vertex, each vertex is filled with the colour
of its winner and an edge between vertices of different winners is dashed
and grey.

The output formats of diagrams are DOT, SVG, PNG and PDF, named case-blind
and with an optional leading dot.
-/

namespace ParityGames

namespace Render

/-- The fill of vertices won by Even. -/
def colorEven : String := "#cfe3ff"

/-- The fill of vertices won by Odd. -/
def colorOdd : String := "#ffd9cc"

/-- What to show in a diagram. -/
structure DotOptions where
  winners : Array Player := #[]
  measures : Array String := #[]
  detailed : Bool := false
  deriving Inhabited

/-- The label bytes of a vertex, with its id as its name when it has no label. -/
def labelOf (opts : DotOptions) (v : Vertex) : Label :=
  let name : Label :=
    if v.label.isEmpty then Text.utf8Bytes (toString v.id)
    else if opts.detailed then v.label ++ Text.utf8Bytes s!" ({v.id})"
    else v.label
  let owner := if opts.detailed then [Text.utf8Bytes ("owner: " ++ v.owner.name)] else []
  let measure := match opts.measures[v.id]? with
    | some m => if m.isEmpty then [] else [Text.utf8Bytes m]
    | none => []
  let parts := [name, Text.utf8Bytes s!"p={v.priority}"] ++ owner ++ measure
  (parts.intersperse [10]).flatten

/-- The shape of a vertex of an owner. -/
def shapeOf (owner : Player) : String := if owner.isOdd then "box" else "diamond"

/-- The fill of a vertex won by a player. -/
def fillOf (winner : Player) : String := if winner.isOdd then colorOdd else colorEven

/-- The DOT text of a game: its vertices in order, each named by its id, then
the edges of each. -/
def toDot (a : Arena) (opts : DotOptions) : String :=
  let colored := opts.winners.size == a.size
  let header := "digraph G \x7b\n  rankdir=LR;\n  bgcolor=\"transparent\";\n" ++
    "  node [style=filled, fillcolor=white, fontsize=14, margin=\"0.1,0.05\"];\n" ++
    "  nodesep=0.3;\n\n"
  let node (v : Vertex) : String :=
    let fill :=
      if colored then [", fillcolor=" ++ Text.quote (fillOf (opts.winners.getD v.id .even))] else []
    s!"  v{v.id} [label={Text.quoteBytes (labelOf opts v)}, shape={shapeOf v.owner}" ++
      String.join fill ++ "];\n"
  let edges (v : Vertex) : String :=
    String.join (v.outgoing.toList.map fun w =>
      if colored && (opts.winners.getD v.id .even).code != (opts.winners.getD w .even).code then
        s!"  v{v.id} -> v{w} [style=dashed, color=grey];\n"
      else s!"  v{v.id} -> v{w};\n")
  let vs := a.vertices.toList
  header ++ String.join (vs.map node) ++ "\n" ++ String.join (vs.map edges) ++ "\x7d\n"

/-- The output formats of diagrams. -/
inductive Format where
  | dot
  | svg
  | png
  | pdf
  deriving Repr, DecidableEq, Inhabited

/-- The name of a format. -/
def Format.name : Format → String
  | .dot => "dot"
  | .svg => "svg"
  | .png => "png"
  | .pdf => "pdf"

/-- Every format, in the order they are offered. -/
def Format.all : List Format := [.dot, .svg, .png, .pdf]

/-- Reads a format name or file extension. -/
def Format.parse (s : String) : Except String Format :=
  let t := (Text.trimBlanks s).map Char.toLower
  let t := if t.startsWith "." then (t.drop 1).toString else t
  match Format.all.find? (·.name == t) with
  | some f => .ok f
  | none => .error s!"unknown format {Text.quote s} (want dot, svg, png or pdf)"

end Render

end ParityGames
