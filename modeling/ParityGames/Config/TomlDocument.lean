import ParityGames.Config.Toml

/-!
# TOML documents

The parser reads the lexer's items into nested tables.  It keeps the table
that key/value lines go into (the *context*), the key being read, the line
of the last key, every key in the order it appeared, and for every key its
type and line.

A key may be given once.  Tables that are only implied, by a dotted key or
a table header `[a.b]` naming `a`, are *implicit* and may be defined once
later.  An array of tables `[[a]]` adds a table to the list under `a`, and
later keys go into the newest one.
-/

namespace ParityGames

namespace Toml

/-- A TOML value. -/
inductive Value where
  | str (s : String)
  | int (n : Int)
  /-- A float, kept as its text without underscores. -/
  | float (text : String)
  | bool (b : Bool)
  /-- A date or time, kept as it prints. -/
  | datetime (shown : String)
  | array (items : List Value)
  | table (entries : List (String × Value))
  | tables (items : List (List (String × Value)))
  deriving Repr, Inhabited

/-- The type recorded for a key. -/
inductive TType where
  | string | integer | float | bool | datetime | array | hash | arrayHash
  deriving DecidableEq, Repr

/-- A failure: the line, the key being read and the message. -/
structure Fault where
  line : Nat
  lastKey : String
  message : String
  deriving Repr

/-- The text of a failure. -/
def Fault.text (f : Fault) : String :=
  if f.lastKey.isEmpty then s!"toml: line {f.line}: {f.message}"
  else s!"toml: line {f.line} (last key {Text.quote f.lastKey}): {f.message}"

/-- A key part as written in a dotted key: bare when it can be, else
quoted. -/
def partText (k : String) : String :=
  if k.isEmpty then "\"\""
  else if k.all isBareKeyChar then k
  else "\"" ++ String.join (k.toList.map fun c =>
    if c == '"' then "\\\"" else if c == '\\' then "\\\\" else String.singleton c) ++ "\""

/-- A dotted key. -/
def keyText (k : List String) : String := ".".intercalate (k.map partText)

/-- The entry of a table. -/
def entry? (t : List (String × Value)) (k : String) : Option Value := (t.find? (·.1 == k)).map (·.2)

/-- Sets the entry of a table, in place or at the end. -/
def setEntry (t : List (String × Value)) (k : String) (v : Value) : List (String × Value) :=
  if t.any (·.1 == k) then t.map fun e => if e.1 == k then (k, v) else e else t ++ [(k, v)]

/-- The value at a path, going into the newest table of an array of
tables, for at most `fuel` steps. -/
def getAt : Nat → List (String × Value) → List String → Option Value
  | _, _, [] => none
  | 0, _, _ => none
  | _ + 1, t, [k] => entry? t k
  | fuel + 1, t, k :: rest =>
    match entry? t k with
    | some (.table e) => getAt fuel e rest
    | some (.tables ts) => getAt fuel (ts.getLastD []) rest
    | _ => none

/-- Changes the table at a path, for at most `fuel` steps; a path that does
not lead to a table gives the number of its parts that do. -/
def modifyAt (f : List (String × Value) → List (String × Value)) :
    Nat → List (String × Value) → List String → Nat → Except Nat (List (String × Value))
  | _, t, [], _ => .ok (f t)
  | 0, _, _, depth => .error depth
  | fuel + 1, t, k :: rest, depth =>
    match entry? t k with
    | some (.table e) => (modifyAt f fuel e rest (depth + 1)).map fun e => setEntry t k (.table e)
    | some (.tables ts) =>
      (modifyAt f fuel (ts.getLastD []) rest (depth + 1)).map fun e =>
        setEntry t k (.tables (ts.dropLast ++ [e]))
    | _ => .error (depth + 1)

/-- The parser's state. -/
structure Parser where
  items : Array Item
  index : Nat := 0
  root : List (String × Value) := []
  context : List String := []
  currentKey : String := ""
  line : Nat := 0
  ordered : List (List String) := []
  keyInfo : List (String × TType × Nat) := []
  implicits : List String := []

/-- Parsing, stopped by a failure. -/
abbrev ParseM := StateT Parser (Except Fault)

namespace Parser

/-- The key being read, with its context. -/
def currentText : ParseM String := do
  let p ← get
  if p.currentKey.isEmpty then return keyText p.context
  if p.context.isEmpty then return p.currentKey
  return keyText p.context ++ "." ++ p.currentKey

/-- Fails at a line. -/
def failAt {α : Type} (line : Nat) (msg : String) : ParseM α := do
  throw { line, lastKey := ← currentText, message := msg }

/-- Fails at the line of the last key. -/
def fail {α : Type} (msg : String) : ParseM α := do failAt (← get).line msg

/-- The next item; an error item stops the parse. -/
def next : ParseM Item := do
  let p ← get
  let it := p.items.getD p.index { kind := .eof, val := "", line := 0 }
  set { p with index := p.index + 1 }
  if it.kind == .error then failAt it.line it.val
  return it

/-- The next item, whose line becomes the current line. -/
def nextPos : ParseM Item := do
  let it ← next
  modify fun p => { p with line := it.line }
  return it

/-- Stops when the parser meets an item it does not expect. -/
def bug {α : Type} (msg : String) : ParseM α := fail ("BUG: " ++ msg)

/-- Checks the kind of an item. -/
def assertEqual (want got : Kind) : ParseM Unit := do
  if want != got then bug s!"Expected '{reprStr want}' but got '{reprStr got}'."

/-- Reads an item of a kind. -/
def expect (k : Kind) : ParseM Unit := do
  let it ← next
  assertEqual k it.kind

/-- Marks a key as implicit. -/
def addImplicit (k : List String) : ParseM Unit :=
  modify fun p => { p with implicits := keyText k :: p.implicits }

/-- Clears the implicit mark of a key. -/
def removeImplicit (k : List String) : ParseM Unit :=
  modify fun p => { p with implicits := p.implicits.filter (· != keyText k) }

/-- Whether a key is implicit. -/
def isImplicit (k : List String) : ParseM Bool := return (← get).implicits.contains (keyText k)

/-- Whether a key holds an array. -/
def isArray (k : List String) : ParseM Bool :=
  return ((← get).keyInfo.find? (·.1 == keyText k)).any (·.2.1 == .array)

/-- Records the type and line of a key in the context. -/
def setType (key : String) (t : TType) (line : Nat) : ParseM Unit := do
  let p ← get
  let k := if key.isEmpty then p.context else p.context ++ [key]
  let k := if k.isEmpty then [""] else k
  set { p with keyInfo := (keyText k, t, line) :: p.keyInfo.filter (·.1 != keyText k) }

/-- Sets a key in the current context. -/
def setValue (key : String) (v : Value) : ParseM Unit := do
  let p ← get
  let depth := p.context.length + 1
  match modifyAt id depth p.root p.context 0 with
  | .error n => fail s!"Key '{keyText (p.context.take n)}' has already been defined."
  | .ok _ =>
    let kc := p.context ++ [key]
    let present := match getAt (depth + 1) p.root kc with
      | some _ => true
      | none => false
    let store : ParseM Unit := do
      match modifyAt (fun t => setEntry t key v) depth p.root p.context 0 with
      | .ok r => modify fun p => { p with root := r }
      | .error _ => pure ()
    if present then
      if ← isArray kc then
        removeImplicit kc
        store
      else if ← isImplicit kc then
        removeImplicit kc
      else fail s!"Key '{keyText kc}' has already been defined."
    else store

/-- Enters the table of a key, making its missing parents implicit tables;
for an array of tables, a new table is added to the array. -/
def addContext (key : List String) (array : Bool) : ParseM Unit := do
  let parents := key.dropLast
  for i in [0:parents.length] do
    let kc := parents.take (i + 1)
    let p ← get
    match getAt (kc.length + 1) p.root kc with
    | none =>
      addImplicit kc
      match modifyAt (fun t => setEntry t (kc.getLastD "") (.table [])) kc.length p.root kc.dropLast 0 with
      | .ok r => modify fun p => { p with root := r }
      | .error _ => pure ()
    | some (.table _) | some (.tables _) => pure ()
    | some _ =>
      modify fun p => { p with context := kc }
      fail s!"Key '{keyText kc}' was already created as a hash."
  modify fun p => { p with context := parents }
  let last := key.getLastD ""
  if array then
    let p ← get
    let update (ts : List (List (String × Value))) : ParseM Unit :=
      match modifyAt (fun t => setEntry t last (.tables (ts ++ [[]]))) key.length p.root parents 0 with
      | .ok r => modify fun p => { p with root := r }
      | .error _ => pure ()
    match getAt (key.length + 1) p.root key with
    | none => update []
    | some (.tables ts) => update ts
    | some _ => fail s!"Key '{keyText key}' was already created and cannot be used as an array."
  else setValue last (.table [])
  modify fun p => { p with context := parents ++ [last] }

/-- Marks a table as implicit and enters it. -/
def addImplicitContext (key : List String) : ParseM Unit := do
  addImplicit key
  addContext key false

/-- Drops the first line break of a multi-line string. -/
def stripFirstNewline (s : String) : String :=
  if s.startsWith "\r\n" then (s.drop 2).toString
  else if s.startsWith "\n" then (s.drop 1).toString
  else s

/-- Removes a backslash at the end of a line together with the blanks and
line breaks after it. -/
def stripEscapedNewlines (s : String) : String :=
  let rec go : Nat → List Char → List Char
    | 0, cs => cs
    | _, [] => []
    | fuel + 1, '\\' :: '\\' :: rest => '\\' :: '\\' :: go fuel rest
    | fuel + 1, '\\' :: rest =>
      let blanks := rest.takeWhile fun c => c == ' ' || c == '\t' || c == '\r' || c == '\n'
      if !blanks.isEmpty && blanks.contains '\n' then go fuel (rest.drop blanks.length)
      else '\\' :: go fuel rest
    | fuel + 1, c :: rest => c :: go fuel rest
  String.ofList (go (s.length + 1) s.toList)

/-- The value of some hex digits. -/
def hexValue (cs : List Char) : Nat :=
  cs.foldl (fun n c => n * 16 + (if c.isDigit then c.toNat - 48 else c.toLower.toNat - 87)) 0

/-- Replaces the escapes of a basic string. -/
def replaceEscapes (it : Item) (s : String) : ParseM String := do
  let mut out : List Char := []
  let mut cs := s.toList
  for _ in [0:s.length + 1] do
    match cs with
    | [] => break
    | '\\' :: c :: rest =>
      cs := rest
      match c with
      | 'b' => out := '\x08' :: out
      | 't' => out := '\t' :: out
      | 'n' => out := '\n' :: out
      | 'f' => out := '\x0c' :: out
      | 'r' => out := '\r' :: out
      | '"' => out := '"' :: out
      | '\\' => out := '\\' :: out
      | 'u' | 'U' =>
        let width := if c == 'u' then 4 else 8
        let digits := rest.take width
        cs := rest.drop width
        let v := hexValue digits
        if v ≥ 0xD800 && v ≤ 0xDFFF || v > 0x10FFFF then
          failAt it.line s!"Escaped character '\\{String.singleton c}{String.ofList digits}' is not valid UTF-8."
        out := Char.ofNat v :: out
      | ' ' | '\t' => failAt it.line s!"invalid escape: '\\{String.singleton c}'"
      | _ => bug s!"Expected valid escape code after \\, but got '{String.singleton c}'."
    | c :: rest =>
      cs := rest
      out := c :: out
  return String.ofList out.reverse

/-- Whether underscores in a number stand between digits. -/
def underscoresOk (s : String) : Bool :=
  if ["nan", "+nan", "-nan", "inf", "-inf", "+inf"].contains s then true
  else
    let r := s.toList.foldl (fun (acc : Option Bool) c =>
      match acc with
      | none => none
      | some ok => if c == '_' && !ok then none else some (isHex c)) (some false)
    r == some true

/-- Whether a number has a leading zero that is not allowed. -/
def leadingZero (s : String) : Bool :=
  match s.toList with
  | '0' :: c :: _ => !(c == 'b' || c == 'o' || c == 'x')
  | s0 :: '0' :: _ :: _ => s0 == '-' || s0 == '+'
  | _ => false

/-- Whether every period in a float is followed by a digit and preceded by
one. -/
def periodsOk (s : String) : Bool :=
  let cs := s.toList
  (cs.zipIdx.all fun (c, i) =>
    c != '.' || (i > 0 && (cs.getD (i - 1) ' ').isDigit && (cs.getD (i + 1) ' ').isDigit))

/-- Reads an integer value. -/
def valueInteger (it : Item) : ParseM (Value × TType) := do
  if !underscoresOk it.val then
    failAt it.line s!"Invalid integer {Text.quote it.val}: underscores must be surrounded by digits"
  if leadingZero it.val then
    failAt it.line s!"Invalid integer {Text.quote it.val}: cannot have leading zeroes"
  match Cli.parseInteger it.val with
  | .ok n => return (.int n, .integer)
  | .error e =>
    if e.range then failAt it.line s!"{it.val} is out of range for int64"
    else bug s!"Expected integer value, but got '{it.val}'."

/-- Reads a float value. -/
def valueFloat (it : Item) : ParseM (Value × TType) := do
  let parts := (it.val.split fun c => c == '.' || c == 'e' || c == 'E').toList.map (·.toString)
  if parts.any fun p => !underscoresOk p then
    failAt it.line s!"Invalid float {Text.quote it.val}: underscores must be surrounded by digits"
  if leadingZero (parts.headD "") then
    failAt it.line s!"Invalid float {Text.quote it.val}: cannot have leading zeroes"
  if !periodsOk it.val then
    failAt it.line s!"Invalid float {Text.quote it.val}: '.' must be followed by one or more digits"
  let v := String.ofList (it.val.toList.filter (· != '_'))
  let body := match v.toList with
    | '+' :: r | '-' :: r => r
    | r => r
  let special := ["nan", "inf"].contains (String.ofList body)
  let mantissa := body.takeWhile fun c => c != 'e' && c != 'E'
  let expo := (body.drop (mantissa.length + 1))
  let digitsOk := !mantissa.isEmpty && mantissa.all (fun c => c.isDigit || c == '.') &&
    (mantissa.filter (· == '.')).length ≤ 1 &&
    (expo.isEmpty && mantissa.length == body.length ||
      (match expo with
        | '+' :: d | '-' :: d => !d.isEmpty && d.all Char.isDigit
        | d => !d.isEmpty && d.all Char.isDigit))
  if !special && !digitsOk then failAt it.line s!"Invalid float value: {Text.quote it.val}"
  return (.float v, .float)

/-- Whether text is a run of `n` digits. -/
def digitsN (cs : List Char) (n : Nat) : Bool := cs.length == n && cs.all Char.isDigit

/-- The value of a run of digits. -/
def digitsValue (cs : List Char) : Nat := cs.foldl (fun n c => n * 10 + (c.toNat - 48)) 0

/-- Reads `hh:mm:ss` with an optional fraction: the text as it prints and
the rest. -/
def clock (cs : List Char) : Option (String × List Char) :=
  match cs with
  | h1 :: h2 :: ':' :: m1 :: m2 :: ':' :: s1 :: s2 :: rest =>
    if digitsN [h1, h2, m1, m2, s1, s2] 6 && digitsValue [h1, h2] < 24 && digitsValue [m1, m2] < 60 &&
      digitsValue [s1, s2] < 60 then
      let (frac, rest) := match rest with
        | '.' :: d :: more =>
          if d.isDigit then
            let ds := (d :: more).takeWhile Char.isDigit
            let kept := ((ds.take 9).reverse.dropWhile (· == '0')).reverse
            (if kept.isEmpty then "" else "." ++ String.ofList kept, (d :: more).drop ds.length)
          else ("", rest)
        | _ => ("", rest)
      some (String.ofList [h1, h2, ':', m1, m2, ':', s1, s2] ++ frac, rest)
    else none
  | _ => none

/-- Reads a date `yyyy-mm-dd`: its text and the rest. -/
def date (cs : List Char) : Option (String × List Char) :=
  match cs with
  | y1 :: y2 :: y3 :: y4 :: '-' :: m1 :: m2 :: '-' :: d1 :: d2 :: rest =>
    let y := digitsValue [y1, y2, y3, y4]
    let m := digitsValue [m1, m2]
    let d := digitsValue [d1, d2]
    let leap := y % 4 == 0 && (y % 100 != 0 || y % 400 == 0)
    let days := if m == 2 then (if leap then 29 else 28) else if [4, 6, 9, 11].contains m then 30 else 31
    if digitsN [y1, y2, y3, y4, m1, m2, d1, d2] 8 && 1 ≤ m && m ≤ 12 && 1 ≤ d && d ≤ days then
      some (String.ofList (cs.take 10), rest)
    else none
  | _ => none

/-- Reads a date or time value. -/
def valueDatetime (it : Item) : ParseM (Value × TType) := do
  let cs := it.val.toList.map fun c => if c == 'z' then 'Z' else if c == 't' || c == ' ' then 'T' else c
  let shown : Option String := match date cs with
    | some (d, []) => some (d ++ " 00:00:00 +0000 date-local")
    | some (d, 'T' :: rest) =>
      match clock rest with
      | some (t, []) => some (d ++ " " ++ t ++ " +0000 datetime-local")
      | some (t, ['Z']) => some (d ++ " " ++ t ++ " +0000 UTC")
      | some (t, [sign, h1, h2, ':', m1, m2]) =>
        if (sign == '+' || sign == '-') && digitsN [h1, h2, m1, m2] 4 && digitsValue [h1, h2] < 24 &&
          digitsValue [m1, m2] < 60 then
          let off := String.ofList [sign, h1, h2, m1, m2]
          some (d ++ " " ++ t ++ (if [h1, h2, m1, m2].all (· == '0') then " +0000 UTC" else " " ++ off ++ " " ++ off))
        else none
      | _ => none
    | _ =>
      match clock cs with
      | some (t, []) => some ("0000-01-01 " ++ t ++ " +0000 time-local")
      | _ => none
  match shown with
  | some s => return (.datetime s, .datetime)
  | none => failAt it.line s!"invalid TOML datetime {Text.quote (String.ofList cs)}"

/-- The key part an item names. -/
def keyPart (it : Item) : ParseM String := do
  match it.kind with
  | .text => return it.val
  | .string | .rawString => return it.val
  | .stringEsc => replaceEscapes it it.val
  | .multiString => replaceEscapes it (stripEscapedNewlines (stripFirstNewline it.val))
  | .rawMultiString => return stripFirstNewline it.val
  | k => bug s!"Unexpected key type: {reprStr k}"

/-- Reads the parts of a key up to an end item, for at most `fuel` parts. -/
def keyParts (stop : Kind) : Nat → Item → List String → ParseM (List String × Item)
  | 0, it, acc => return (acc, it)
  | fuel + 1, it, acc => do
    if it.kind == stop || it.kind == .eof then return (acc, it)
    let part ← keyPart it
    keyParts stop fuel (← next) (acc ++ [part])

/-- Creates the missing tables of a path inside a table under construction,
for at most `fuel` levels. -/
def plant (v : Value) : Nat → List (String × Value) → List String → List (String × Value)
  | _, t, [] => t
  | _, t, [k] => setEntry t k v
  | 0, t, _ => t
  | fuel + 1, t, k :: rest =>
    match entry? t k with
    | some (.table e) => setEntry t k (.table (plant v fuel e rest))
    | none => setEntry t k (.table (plant v fuel [] rest))
    | _ => t

mutual

/-- Reads a value, for at most `fuel` levels of nesting. -/
def value : Nat → Item → Bool → ParseM (Value × TType)
  | 0, it, _ => failAt it.line "value nested too deeply"
  | fuel + 1, it, inArray => do
    match it.kind with
    | .string | .rawString => return (.str it.val, .string)
    | .stringEsc => return (.str (← replaceEscapes it it.val), .string)
    | .multiString => return (.str (← replaceEscapes it (stripEscapedNewlines (stripFirstNewline it.val))), .string)
    | .rawMultiString => return (.str (stripFirstNewline it.val), .string)
    | .integer => valueInteger it
    | .float => valueFloat it
    | .bool => return (.bool (it.val == "true"), .bool)
    | .datetime => valueDatetime it
    | .array => valueArray fuel it
    | .inlineStart => valueInlineTable fuel it inArray
    | k => bug s!"Unexpected value type: {reprStr k}"

/-- Reads the values of an array. -/
def valueArray : Nat → Item → ParseM (Value × TType)
  | 0, it => failAt it.line "value nested too deeply"
  | fuel + 1, it => do
    setType (← get).currentKey .array it.line
    let mut items : List Value := []
    for _ in [0:(← get).items.size] do
      let it ← next
      if it.kind == .arrayEnd then break
      if it.kind == .commentStart then
        expect .text
        continue
      let (v, _) ← value fuel it true
      items := items ++ [v]
    return (.array items, .array)

/-- Reads an inline table. -/
def valueInlineTable : Nat → Item → Bool → ParseM (Value × TType)
  | 0, it, _ => failAt it.line "value nested too deeply"
  | fuel + 1, _, inArray => do
    let p ← get
    let outerContext := p.context
    let outerKey := p.currentKey
    let inner := p.context ++ [p.currentKey]
    set { p with context := inner, currentKey := "" }
    addImplicit inner
    addContext inner inArray
    let prevContext := (← get).context
    let mut top : List (String × Value) := []
    for _ in [0:(← get).items.size] do
      let it ← next
      if it.kind == .inlineEnd then break
      if it.kind == .commentStart then
        expect .text
        continue
      let k ← nextPos
      let (key, last) ← keyParts .keyEnd (p.items.size + 1) k []
      assertEqual .keyEnd last.kind
      let cur := key.getLastD ""
      modify fun p => { p with currentKey := cur }
      let parents := key.dropLast
      for part in parents do
        addImplicitContext ((← get).context ++ [part])
      modify fun p => { p with ordered := p.ordered ++ [p.context ++ [cur]] }
      let (v, t) ← value fuel (← next) false
      setValue cur v
      setType cur t it.line
      let blocked := (List.range parents.length).any fun i =>
        match getAt (i + 2) top (parents.take (i + 1)) with
        | some (.table _) | none => false
        | _ => true
      if blocked then
        let ctx ← currentText
        fail s!"{Text.quote ctx} is not a table"
      top := plant v (parents.length + 1) top (parents ++ [cur])
      modify fun p => { p with context := prevContext }
    modify fun p => { p with context := outerContext, currentKey := outerKey }
    return (.table top, .hash)

end

/-- Reads one top-level item. -/
def topLevel (it : Item) : ParseM Unit := do
  let depth := (← get).items.size + 1
  match it.kind with
  | .commentStart => expect .text
  | .tableStart | .arrayTableStart =>
    let array := it.kind == .arrayTableStart
    let stop := if array then Kind.arrayTableEnd else Kind.tableEnd
    let name ← nextPos
    let (key, last) ← keyParts stop depth name []
    assertEqual stop last.kind
    addContext key array
    setType "" (if array then .arrayHash else .hash) it.line
    modify fun p => { p with ordered := p.ordered ++ [key] }
  | .keyStart =>
    let outer := (← get).context
    let k ← nextPos
    let (key, last) ← keyParts .keyEnd depth k []
    assertEqual .keyEnd last.kind
    let cur := key.getLastD ""
    modify fun p => { p with currentKey := cur }
    for part in key.dropLast do
      addImplicitContext ((← get).context ++ [part])
    modify fun p => { p with ordered := p.ordered ++ [p.context ++ [cur]] }
    let vItem ← next
    let (v, t) ← value depth vItem false
    setValue cur v
    setType cur t vItem.line
    modify fun p => { p with context := outer, currentKey := "" }
  | k => bug s!"Unexpected type at top level: {reprStr k}"

/-- Reads every top-level item. -/
def document : ParseM Unit := do
  for _ in [0:(← get).items.size + 1] do
    let it ← next
    if it.kind == .eof then return
    topLevel it

end Parser

/-- A parsed document: its tables, its keys in order of appearance and the
type and line of every key. -/
structure Document where
  root : List (String × Value)
  ordered : List (List String)
  keyInfo : List (String × TType × Nat)

/-- The line a key was defined on. -/
def Document.lineOf (d : Document) (k : List String) : Option Nat :=
  (d.keyInfo.find? (·.1 == keyText k)).map (·.2.2)

/-- Parses TOML text. -/
def parse (text : String) : Except Fault Document :=
  let text :=
    if text.startsWith "\uFEFF" then (text.drop 1).toString else text
  let nulls := "files cannot contain NULL bytes; probably using UTF-16; TOML files must be UTF-8"
  if (text.toList.take 6).contains '\x00' then .error { line := 1, lastKey := "", message := nulls }
  else
    match (Parser.document.run { items := lex text }) with
    | .ok (_, p) => .ok { root := p.root, ordered := p.ordered, keyInfo := p.keyInfo }
    | .error f => .error f

end Toml

end ParityGames
