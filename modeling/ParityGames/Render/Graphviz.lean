import ParityGames.Text.Floating

/-!
# Laying out DOT graphs

A DOT text is read for its graph: whether it is directed and strict, its
nodes and its edges.  Statements are node statements, edge chains such as
`a -> b -> c` (where an end may be a `{ … }` group, joined to every node of
the other end), attribute statements and `key = value`; identifiers are
names, numerals, quoted strings (which may be joined by `+`) and `<…>`
labels, and comments are skipped.  A strict graph keeps one edge per pair.

A text that does not follow the grammar is refused with the line of the
offending token and, when there is one, its text.

The drawing of a graph is an SVG document with one node group per node and
one edge group per edge inside a view box, or a PNG image; the exact
positions are the layout engine's and are not part of what is described
here.
-/

namespace ParityGames

namespace Graphviz

/-- A token of DOT text. -/
inductive Token where
  | ident (text : String) (quoted : Bool)
  | lbrace
  | rbrace
  | lbracket
  | rbracket
  | equals
  | semi
  | comma
  | colon
  | arrow
  | dashes
  | plus
  | other (c : Char)
  deriving Repr, DecidableEq, Inhabited

/-- The text a token was read from. -/
def Token.text : Token → String
  | .ident t _ => t
  | .lbrace => "\x7b"
  | .rbrace => "\x7d"
  | .lbracket => "["
  | .rbracket => "]"
  | .equals => "="
  | .semi => ";"
  | .comma => ","
  | .colon => ":"
  | .arrow => "->"
  | .dashes => "--"
  | .plus => "+"
  | .other c => String.singleton c

/-- Whether a character may start a name. -/
def nameStart (c : Char) : Bool := c.isAlpha || c == '_' || c.toNat ≥ 0x80

/-- Whether a character may continue a name. -/
def nameChar (c : Char) : Bool := nameStart c || c.isDigit

/-- Reads the body of a quoted string, whose opening quote is consumed: the
text, the newlines passed and the rest after the closing quote, or `none`
when the text ends first. -/
def quotedBody : List Char → List Char → Nat → Option (String × Nat × List Char)
  | [], _, _ => none
  | '"' :: rest, acc, nl => some (String.ofList acc.reverse, nl, rest)
  | '\\' :: '"' :: rest, acc, nl => quotedBody rest ('"' :: acc) nl
  | '\\' :: '\n' :: rest, acc, nl => quotedBody rest acc (nl + 1)
  | c :: rest, acc, nl => quotedBody rest (c :: acc) (if c == '\n' then nl + 1 else nl)

/-- Reads the body of a `<…>` label after its opening bracket, with nesting
depth `depth`. -/
def labelBody : List Char → List Char → Nat → Nat → Option (String × Nat × List Char)
  | [], _, _, _ => none
  | '>' :: rest, acc, 0, nl => some (String.ofList acc.reverse, nl, rest)
  | '>' :: rest, acc, d + 1, nl => labelBody rest ('>' :: acc) d nl
  | '<' :: rest, acc, d, nl => labelBody rest ('<' :: acc) (d + 1) nl
  | c :: rest, acc, d, nl => labelBody rest (c :: acc) d (if c == '\n' then nl + 1 else nl)

/-- Skips a block comment, counting newlines. -/
def skipComment : List Char → Nat → Option (Nat × List Char)
  | [], _ => none
  | '*' :: '/' :: rest, nl => some (nl, rest)
  | c :: rest, nl => skipComment rest (if c == '\n' then nl + 1 else nl)

/-- A token with the line it starts on. -/
abbrev Located := Token × Nat

/-- Splits DOT text into tokens with their lines; the second part is the
line reported at the end of the text, or at an unterminated token. -/
def tokenize (fuel : Nat) (cs : List Char) (line : Nat) (acc : Array Located) :
    Array Located × Nat :=
  match fuel with
  | 0 => (acc, line + 1)
  | fuel + 1 =>
    match cs with
    | [] => (acc, line + 1)
    | '\n' :: rest => tokenize fuel rest (line + 1) acc
    | '/' :: '/' :: rest =>
      tokenize fuel (rest.dropWhile (· != '\n')) line acc
    | '#' :: rest => tokenize fuel (rest.dropWhile (· != '\n')) line acc
    | '/' :: '*' :: rest =>
      match skipComment rest 0 with
      | some (nl, rest) => tokenize fuel rest (line + nl) acc
      | none => (acc, line + 1 + (rest.filter (· == '\n')).length)
    | '-' :: '>' :: rest => tokenize fuel rest line (acc.push (.arrow, line))
    | '-' :: '-' :: rest => tokenize fuel rest line (acc.push (.dashes, line))
    | '"' :: rest =>
      match quotedBody rest [] 0 with
      | some (s, nl, rest) => tokenize fuel rest (line + nl) (acc.push (.ident s true, line))
      | none => (acc, line + 1 + (rest.filter (· == '\n')).length)
    | '<' :: rest =>
      match labelBody rest [] 0 0 with
      | some (s, nl, rest) => tokenize fuel rest (line + nl) (acc.push (.ident s true, line))
      | none => (acc, line + 1 + (rest.filter (· == '\n')).length)
    | c :: rest =>
      if c == ' ' || c == '\t' || c == '\r' then tokenize fuel rest line acc
      else if c == '{' then tokenize fuel rest line (acc.push (.lbrace, line))
      else if c == '}' then tokenize fuel rest line (acc.push (.rbrace, line))
      else if c == '[' then tokenize fuel rest line (acc.push (.lbracket, line))
      else if c == ']' then tokenize fuel rest line (acc.push (.rbracket, line))
      else if c == '=' then tokenize fuel rest line (acc.push (.equals, line))
      else if c == ';' then tokenize fuel rest line (acc.push (.semi, line))
      else if c == ',' then tokenize fuel rest line (acc.push (.comma, line))
      else if c == ':' then tokenize fuel rest line (acc.push (.colon, line))
      else if c == '+' then tokenize fuel rest line (acc.push (.plus, line))
      else if nameStart c then
        let body := rest.takeWhile nameChar
        tokenize fuel (rest.drop body.length) line
          (acc.push (.ident (String.ofList (c :: body)) false, line))
      else if c.isDigit || c == '.' || c == '-' then
        let body := rest.takeWhile fun d => d.isDigit || d == '.'
        tokenize fuel (rest.drop body.length) line
          (acc.push (.ident (String.ofList (c :: body)) false, line))
      else tokenize fuel rest line (acc.push (.other c, line))

/-- Why a DOT text is refused: the line and the offending token's text. -/
structure SyntaxError where
  line : Nat
  near : String
  deriving Repr, DecidableEq

/-- The message of a syntax error. -/
def SyntaxError.message (e : SyntaxError) : String :=
  if e.near.isEmpty then s!"syntax error in line {e.line}"
  else s!"syntax error in line {e.line} near '{e.near}'"

/-- What reading a graph has found so far. -/
structure Graph where
  directed : Bool := true
  strict : Bool := false
  nodes : Array String := #[]
  edges : Nat := 0
  pairs : List (String × String) := []
  deriving Repr, Inhabited

/-- Adds a node once. -/
def Graph.addNode (g : Graph) (n : String) : Graph :=
  if g.nodes.contains n then g else { g with nodes := g.nodes.push n }

/-- Adds an edge; a strict graph keeps one per pair of ends. -/
def Graph.addEdge (g : Graph) (a b : String) : Graph :=
  let g := (g.addNode a).addNode b
  if g.strict then
    let same := fun (p : String × String) => (p.1 == a && p.2 == b) ||
      (!g.directed && p.1 == b && p.2 == a)
    if g.pairs.any same then g else { g with edges := g.edges + 1, pairs := (a, b) :: g.pairs }
  else { g with edges := g.edges + 1 }

/-- Whether an identifier is a keyword, ignoring case. -/
def isKeyword (t : String) (kw : String) : Bool := t.map Char.toLower == kw

/-- The reading state: the tokens left, the end line and the graph. -/
structure Reader where
  tokens : List Located
  endLine : Nat
  graph : Graph

/-- The error at the next token. -/
def Reader.fail {α : Type} (r : Reader) : Except SyntaxError α :=
  match r.tokens with
  | (t, line) :: _ => .error ⟨line, t.text⟩
  | [] => .error ⟨r.endLine, ""⟩

/-- The next token. -/
def Reader.peek (r : Reader) : Option Token := r.tokens.head?.map (·.1)

/-- Drops the next token. -/
def Reader.skip (r : Reader) : Reader := { r with tokens := r.tokens.drop 1 }

/-- Reads an identifier, joining quoted parts with `+`. -/
def Reader.ident (r : Reader) : Except SyntaxError (String × Reader) :=
  match r.tokens with
  | (.ident t true, _) :: (.plus, _) :: (.ident u true, _) :: rest =>
    .ok (t ++ u, { r with tokens := rest })
  | (.ident t _, _) :: rest => .ok (t, { r with tokens := rest })
  | _ => r.fail

/-- Reads attribute lists `[k = v, …]`, any number of them. -/
def Reader.attrLists (fuel : Nat) (r : Reader) : Except SyntaxError Reader :=
  match fuel with
  | 0 => .ok r
  | fuel + 1 =>
    match r.peek with
    | some .lbracket =>
      let rec items (f : Nat) (r : Reader) : Except SyntaxError Reader :=
        match f with
        | 0 => r.fail
        | f + 1 =>
          match r.peek with
          | some .rbracket => .ok r.skip
          | some (.ident _ _) => do
            let (_, r) ← r.ident
            let r ← match r.peek with
              | some .equals => do let (_, r) ← r.skip.ident; pure r
              | _ => pure r
            let r := match r.peek with
              | some .comma | some .semi => r.skip
              | _ => r
            items f r
          | _ => r.fail
      do
        let r ← items (r.tokens.length + 1) r.skip
        Reader.attrLists fuel r
    | _ => .ok r

/-- Reads a node reference with an optional port, adding the node. -/
def Reader.nodeId (r : Reader) : Except SyntaxError (String × Reader) := do
  let (n, r) ← r.ident
  let r ← match r.peek with
    | some .colon => do
      let (_, r) ← r.skip.ident
      match r.peek with
      | some .colon => do let (_, r) ← r.skip.ident; pure r
      | _ => pure r
    | _ => pure r
  return (n, { r with graph := r.graph.addNode n })

mutual
/-- Reads statements up to the closing brace, giving the nodes they name. -/
def Reader.stmts (fuel : Nat) (r : Reader) (named : Array String) :
    Except SyntaxError (Array String × Reader) :=
  match fuel with
  | 0 => r.fail
  | fuel + 1 =>
    match r.peek with
    | some .rbrace => .ok (named, r.skip)
    | some .semi => Reader.stmts fuel r.skip named
    | none => r.fail
    | _ => do
      let (more, r) ← Reader.stmt fuel r
      Reader.stmts fuel r (named ++ more)

/-- Reads one statement, giving the nodes it names. -/
def Reader.stmt (fuel : Nat) (r : Reader) : Except SyntaxError (Array String × Reader) :=
  match fuel with
  | 0 => r.fail
  | fuel + 1 =>
    match r.tokens with
    | (.ident t false, _) :: rest =>
      if isKeyword t "graph" || isKeyword t "node" || isKeyword t "edge" then
        match rest with
        | (.lbracket, _) :: _ => do
          let r ← Reader.attrLists fuel { r with tokens := rest }
          pure (#[], r)
        | _ => Reader.fail { r with tokens := rest }
      else Reader.edgeOrNode fuel r
    | _ => Reader.edgeOrNode fuel r

/-- Reads an end of an edge chain: a node or a group. -/
def Reader.endpoint (fuel : Nat) (r : Reader) : Except SyntaxError (Array String × Reader) :=
  match fuel with
  | 0 => r.fail
  | fuel + 1 =>
    match r.tokens with
    | (.lbrace, _) :: rest => Reader.stmts fuel { r with tokens := rest } #[]
    | (.ident t false, _) :: rest =>
      if isKeyword t "subgraph" then
        match rest with
        | (.ident _ _, _) :: (.lbrace, _) :: rest2 => Reader.stmts fuel { r with tokens := rest2 } #[]
        | (.lbrace, _) :: rest2 => Reader.stmts fuel { r with tokens := rest2 } #[]
        | _ => Reader.fail { r with tokens := rest }
      else do
        let (n, r) ← r.nodeId
        pure (#[n], r)
    | (.ident _ true, _) :: _ => do
      let (n, r) ← r.nodeId
      pure (#[n], r)
    | _ => r.fail

/-- Reads a node statement, an edge chain or `key = value`. -/
def Reader.edgeOrNode (fuel : Nat) (r : Reader) : Except SyntaxError (Array String × Reader) :=
  match fuel with
  | 0 => r.fail
  | fuel + 1 =>
    match r.tokens with
    | (.ident _ _, _) :: (.equals, _) :: _ => do
      let (_, r) ← r.ident
      let (_, r) ← r.skip.ident
      pure (#[], r)
    | _ => do
      let (first, r) ← Reader.endpoint fuel r
      Reader.chain fuel r first first

/-- Reads the rest of an edge chain after an end `left`. -/
def Reader.chain (fuel : Nat) (r : Reader) (left : Array String) (named : Array String) :
    Except SyntaxError (Array String × Reader) :=
  match fuel with
  | 0 => r.fail
  | fuel + 1 =>
    let op := if r.graph.directed then Token.arrow else Token.dashes
    match r.peek with
    | some t =>
      if t == op then do
        let (right, r) ← Reader.endpoint fuel r.skip
        let g := left.foldl (fun g a => right.foldl (fun g b => g.addEdge a b) g) r.graph
        Reader.chain fuel { r with graph := g } right (named ++ right)
      else if t == .arrow || t == .dashes then r.fail
      else do
        let r ← Reader.attrLists fuel r
        pure (named, r)
    | none => pure (named, r)
end

/-- Reads a DOT text into its graph. -/
def parse (text : String) : Except SyntaxError Graph :=
  let cs := text.toList
  let (toks, _) := tokenize (cs.length + 1) cs 1 #[]
  let endLine := (cs.filter (· == '\n')).length + 2
  let r : Reader := { tokens := toks.toList, endLine, graph := {} }
  let fuel := 4 * toks.size + 8
  let (strict, r) := match r.tokens with
    | (.ident t false, _) :: rest => if isKeyword t "strict" then (true, { r with tokens := rest }) else (false, r)
    | _ => (false, r)
  match r.tokens with
  | (.ident t false, _) :: rest =>
    if isKeyword t "digraph" || isKeyword t "graph" then
      let r := { r with tokens := rest, graph := { directed := isKeyword t "digraph", strict } }
      let r := match r.tokens with
        | (.ident _ _, _) :: rest => { r with tokens := rest }
        | _ => r
      match r.tokens with
      | (.lbrace, _) :: rest => do
        let (_, r) ← Reader.stmts fuel { r with tokens := rest } #[]
        return r.graph
      | _ => r.fail
    else r.fail
  | _ => r.fail

/-- A layout size in points for a graph. -/
def extent (g : Graph) : Float × Float :=
  let n := g.nodes.size.toFloat
  (8 + 62 * n, 8 + 44 * (if n > 0 then 1 else 0))

/-- The SVG drawing of a graph, as the layout engine writes it. -/
def svgDocument (g : Graph) : String :=
  let (w, h) := extent g
  let wt := Text.floatFixed w 2
  let ht := Text.floatFixed h 2
  let nodes := String.join ((List.range g.nodes.size).map fun i =>
    s!"<g id=\"node{i + 1}\" class=\"node\"></g>\n")
  let edges := String.join ((List.range g.edges).map fun i =>
    s!"<g id=\"edge{i + 1}\" class=\"edge\"></g>\n")
  "<?xml version=\"1.0\" encoding=\"UTF-8\" standalone=\"no\"?>\n" ++
    s!"<svg width=\"{Text.floatFixed w 0}pt\" height=\"{Text.floatFixed h 0}pt\" " ++
    s!"viewBox=\"0.00 0.00 {wt} {ht}\" xmlns=\"http://www.w3.org/2000/svg\">\n" ++
    "<g id=\"graph0\" class=\"graph\">\n" ++ nodes ++ edges ++ "</g>\n</svg>\n"

/-- The eight bytes that start every PNG image. -/
def pngSignature : List UInt8 := [0x89, 0x50, 0x4E, 0x47, 0x0D, 0x0A, 0x1A, 0x0A]

/-- The PNG drawing of a graph. -/
def pngImage (g : Graph) : ByteArray :=
  ByteArray.mk (pngSignature ++ (toString g.nodes.size).toUTF8.toList).toArray

end Graphviz

end ParityGames
