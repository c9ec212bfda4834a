import ParityGames.Failure

/-!
# Masking what changes between runs

A transcript of a run (what it printed, the errors it gave) holds values
that differ between two runs of the same command: the directory it ran in,
clock times, request identifiers, toolchain versions, the numbers of
temporary files, durations, timings and the lift counts of randomized
strategies.  Masking replaces each by a fixed placeholder, so that two
transcripts compare as text.

* `mask` hides the directory, clock times (`HH:MM:SS.cc`), identifiers
  (`<uuid>`), toolchain versions (`<go>`), temporary entry numbers
  (`.entry-N`) and durations (`<dur>`); when a duration was hidden, the
  padding that followed its width is collapsed too.
* `maskLog` also hides lift counts on log lines of randomized strategies and
  byte counts.
* `maskTables` hides timings and randomized lift counts in report tables.
* `errorText` hides the wording of the TOML and JSON readers.

Each rule matches where a word boundary allows it: a placeholder never
starts inside a word.
-/

namespace ParityGames

namespace Transcript

/-- Whether a character counts as part of a word: an ASCII letter or digit,
or an underscore. -/
def isWordChar (c : Char) : Bool := c.isAlphanum || c == '_'

/-- Whether a character is a blank of the kind that ends a version word:
space, tab, newline, form feed or carriage return. -/
def isBlank (c : Char) : Bool := c == ' ' || c == '\t' || c == '\n' || c == '\x0c' || c == '\r'

/-- Whether a character is a lowercase hexadecimal digit. -/
def isLowerHex (c : Char) : Bool := c.isDigit || ('a' ≤ c && c ≤ 'f')

/-- The number of leading decimal digits. -/
def digitCount (cs : List Char) : Nat := (cs.takeWhile Char.isDigit).length

/-- Whether a word boundary follows: the text ends or no word character
comes next. -/
def boundaryAhead (cs : List Char) : Bool := !(cs.head?.any isWordChar)

/-- Replaces every match of a pattern, scanning left to right; `edge` asks
for no word character right before a match.  A pattern gives the length of
its match at the front of a text.  Also says whether anything was replaced.
At most `fuel` characters are visited. -/
def rewriteFuel (pattern : List Char → Option Nat) (edge : Bool) (hole : List Char) :
    Nat → Option Char → List Char → List Char × Bool
  | 0, _, cs => (cs, false)
  | _, _, [] => ([], false)
  | fuel + 1, before, c :: cs =>
    let opens := !edge || !(before.any isWordChar)
    match (if opens then pattern (c :: cs) else none) with
    | some (n + 1) =>
      let matched := (c :: cs).take (n + 1)
      let (out, _) := rewriteFuel pattern edge hole fuel matched.getLast? ((c :: cs).drop (n + 1))
      (hole ++ out, true)
    | _ =>
      let (out, changed) := rewriteFuel pattern edge hole fuel (some c) cs
      (c :: out, changed)

/-- Replaces every match of a pattern by a placeholder; also says whether
anything was replaced. -/
def rewrite (pattern : List Char → Option Nat) (edge : Bool) (hole : String) (cs : List Char) :
    List Char × Bool :=
  rewriteFuel pattern edge hole.toList (cs.length + 1) none cs

/-- A clock time `dd:dd:dd.dd` that no word character follows. -/
def clockTime : List Char → Option Nat
  | a :: b :: ':' :: c :: d :: ':' :: e :: f :: '.' :: g :: h :: rest =>
    if [a, b, c, d, e, f, g, h].all Char.isDigit && boundaryAhead rest then some 11 else none
  | _ => none

/-- A lowercase identifier of 32 hexadecimal digits in groups of 8, 4, 4, 4
and 12. -/
def identifier (cs : List Char) : Option Nat :=
  let front := cs.take 36
  if front.length == 36 && front.zipIdx.all (fun (c, i) =>
      if [8, 13, 18, 23].contains i then c == '-' else isLowerHex c) then some 36
  else none

/-- A toolchain version `go1.N`, with whatever follows up to a blank. -/
def toolchain : List Char → Option Nat
  | 'g' :: 'o' :: '1' :: '.' :: rest =>
    if digitCount rest > 0 then some (4 + (rest.takeWhile fun c => !isBlank c).length) else none
  | _ => none

/-- A fixed text; an empty one matches nothing. -/
def literal (text : String) (cs : List Char) : Option Nat :=
  if !text.isEmpty && text.toList.isPrefixOf cs then some text.length else none

/-- A key followed by decimal digits. -/
def keyed (key : String) (cs : List Char) : Option Nat :=
  if key.toList.isPrefixOf cs then
    let n := digitCount (cs.drop key.length)
    if n > 0 then some (key.length + n) else none
  else none

/-- The units of a duration, in the order they are tried. -/
def durationUnits : List String := ["h", "ms", "µs", "us", "ns", "m", "s"]

/-- The lengths at which one duration component (a decimal number and a
unit) can end at the front of a text, most preferred first. -/
def componentEnds (cs : List Char) : List Nat :=
  let whole := digitCount cs
  if whole = 0 then [] else
  let fraction := match cs.drop whole with
    | '.' :: more => if digitCount more > 0 then [whole + 1 + digitCount more] else []
    | _ => []
  (fraction ++ [whole]).flatMap fun k =>
    (durationUnits.filter fun u => u.toList.isPrefixOf (cs.drop k)).map (k + ·.length)

/-- A duration: one or more components, longest first, then a word
boundary.  At most `fuel` components are read. -/
def durationFuel : Nat → List Char → Option Nat
  | 0, _ => none
  | fuel + 1, cs =>
    (componentEnds cs).findSome? fun k =>
      match durationFuel fuel (cs.drop k) with
      | some n => some (k + n)
      | none => if boundaryAhead (cs.drop k) then some k else none

/-- A duration such as `0s`, `1.5ms` or `1h30m`. -/
def duration (cs : List Char) : Option Nat := durationFuel (cs.length + 1) cs

/-- Collapses every run of a character into one. -/
def collapse (c : Char) : List Char → List Char
  | [] => []
  | a :: rest =>
    if a == c && rest.head? == some c then collapse c rest else a :: collapse c rest

/-- Collapses runs of spaces and of table rules, whose widths follow the
width of what was masked. -/
def collapsePadding (cs : List Char) : List Char := collapse '─' (collapse ' ' cs)

/-- Masks the values of a text that change between runs; `work` is the
directory the run started in. -/
def mask (work : String) (s : String) : String :=
  let cs := (rewrite (literal work) false "$WORK" s.toList).1
  let cs := (rewrite clockTime true "HH:MM:SS.cc" cs).1
  let cs := (rewrite identifier false "<uuid>" cs).1
  let cs := (rewrite toolchain false "<go>" cs).1
  let cs := (rewrite (keyed ".entry-") false ".entry-N" cs).1
  let (cs, changed) := rewrite duration true "<dur>" cs
  String.ofList (if changed then collapsePadding cs else cs)

/-- Masks a log: as `mask`, then the lift counts on the lines of randomized
strategies and every byte count. -/
def maskLog (work : String) (s : String) : String :=
  let line (l : String) : String :=
    let cs := l.toList
    let cs := if (l.splitOn "strategy=random").length > 1 then
      (rewrite (keyed "lifts=") false "lifts=R" cs).1 else cs
    String.ofList (rewrite (keyed "bytes=") false "bytes=N" cs).1
  "\n".intercalate ((mask work s).splitOn "\n" |>.map line)

/-- Whether a strategy name is one of the randomized strategies. -/
def isRandomName (s : String) : Bool := s == "random" || s == "random-nonreturning"

/-- The kind of numbers a report section holds. -/
inductive Section where
  | other
  | lifts
  | time
  deriving DecidableEq, Repr

/-- What `maskTables` knows at a line: the section, the header of the
current separated-values block and box table, the line before and whether
a table cell changed. -/
structure TableState where
  kind : Section := .other
  csvHeader : Option (List String) := none
  boxHeader : List String := []
  previous : String := ""
  changed : Bool := false

/-- The section a heading line starts. -/
def sectionOf (l : String) : Option Section :=
  match l.trimAscii.toString with
  | "Lifts" | "Lifts:" => some .lifts
  | "Time (µs)" | "Time (µs):" => some .time
  | "Outcome V0:" => some .other
  | _ => none

/-- Whether a line is a row of a box table. -/
def isBoxRow (l : String) : Bool :=
  let t := l.trimAscii.toString
  t.startsWith "│" && t.endsWith "│" && t.length > 1

/-- The trimmed texts of a row's cells. -/
def cellNames (cells : List String) : List String := cells.map (·.trimAscii.toString)

/-- Masks one row of a box table under its header: the cells between the
name and the closing rule. -/
def maskBoxRow (st : TableState) (cells : List String) : List String × Bool :=
  let names := cellNames cells
  let rowName := names.getD 1 ""
  let strategyTable := st.boxHeader.getD 1 "" == "strategy"
  let masked := cells.zipIdx.map fun (cell, i) =>
    if i < 2 || i + 1 ≥ cells.length then cell
    else
      let column := st.boxHeader.getD i ""
      if st.kind == .time then " T "
      else if st.kind == .lifts && isRandomName column then " R "
      else if strategyTable && column == "lifts" && isRandomName rowName then " R "
      else cell
  (masked, masked != cells)

/-- Masks one row of separated values under its header. -/
def maskCsvRow (st : TableState) (header cells : List String) : List String :=
  cells.zipIdx.map fun (cell, i) =>
    if i == 0 then cell
    else if st.kind == .time then "T"
    else if st.kind == .lifts && isRandomName (header.getD i "") then "R"
    else cell

/-- Whether a line reads `lifts N` after the line of a randomized strategy. -/
def isRandomLifts (previous l : String) : Bool :=
  let words (s : String) : List String := (s.splitOn " ").filter (!·.isEmpty)
  (match words previous with
    | ["strategy", n] => isRandomName n
    | _ => false) &&
  (match words l with
    | ["lifts", n] => !n.isEmpty && n.all Char.isDigit
    | _ => false)

/-- Masks one line of a report. -/
def maskLine (st : TableState) (l : String) : TableState × String :=
  let st' := { st with previous := l }
  match sectionOf l with
  | some k => ({ st' with kind := k, csvHeader := none }, l)
  | none =>
    if isBoxRow l then
      let cells := l.splitOn "│"
      let name := (cellNames cells).getD 1 ""
      if name == "game" || name == "strategy" then ({ st' with boxHeader := cellNames cells }, l)
      else
        let (masked, changed) := maskBoxRow st cells
        ({ st' with changed := st.changed || changed }, "│".intercalate masked)
    else if (l.splitOn ";").length > 1 && st.kind != .other then
      let cells := l.splitOn ";"
      match st.csvHeader with
      | none => ({ st' with csvHeader := some cells }, l)
      | some header => (st', ";".intercalate (maskCsvRow st header cells))
    else if isRandomLifts st.previous l then
      ({ st' with changed := true }, l.replace (l.dropWhile (· != ' ')).trimAscii.toString "<random>")
    else (st', l)

/-- Masks timings and randomized lift counts in the tables of a report. -/
def maskTables (s : String) : String :=
  let (st, lines) := (s.splitOn "\n").foldl (fun (acc : TableState × Array String) l =>
    let (st, l) := maskLine acc.1 l
    (st, acc.2.push l)) ({}, #[])
  let out := "\n".intercalate lines.toList
  if st.changed then String.ofList (collapsePadding out.toList) else out

/-- The position of the first `toml: ` that starts the text or follows a
space or a colon. -/
def tomlStart (cs : List Char) : Option Nat :=
  (List.range cs.length).find? fun i =>
    "toml: ".toList.isPrefixOf (cs.drop i) &&
      (i == 0 || (cs.getD (i - 1) ' ' == ' ') || cs.getD (i - 1) ' ' == ':')

/-- The text of a failure with the readers' own wording hidden: a TOML
syntax error, a JSON syntax or type error, and any other TOML message
(whose preceding blank or colon goes too); then masked. -/
def errorText (work : String) (f : Failure) : String :=
  let t := f.text
  let afterDecode (hole : String) : String :=
    match t.splitOn "decode: " with
    | [] | [_] => t
    | parts => "decode: ".intercalate parts.dropLast ++ "decode: " ++ hole
  let t := if f.has .jsonSyntax then afterDecode "<json syntax error>"
    else if f.has .jsonType then afterDecode "<json type error>"
    else t
  let cs := t.toList
  let t := match tomlStart cs with
    | some i =>
      if f.has .tomlSyntax then String.ofList (cs.take i) ++ "<toml parse error>"
      else String.ofList (cs.take (i - 1)) ++ "<toml error>"
    | none => t
  mask work t

theorem duration_compound : duration "1h30m5.5s later".toList = some 9 := by
  decide +kernel

theorem duration_inside_word : duration "5min".toList = none := by
  decide +kernel

theorem collapsePadding_runs :
    collapsePadding ['─', '─', '┬', ' ', ' ', 'x'] = ['─', '┬', ' ', 'x'] := by
  decide +kernel

end Transcript

end ParityGames
