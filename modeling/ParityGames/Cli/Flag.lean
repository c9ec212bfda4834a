import ParityGames.Text.Quoted

/-!
# Command-line flags

A flag has a long name, an optional one-letter short name, a kind and a
default.  Values are read as the POSIX-style conventions want:

* `--name=value`, or `--name value` for a flag that takes a value; a switch
  (a boolean flag) takes no separate value, `--name` alone means `true`;
* `-s value`, `-svalue` and `-s=value` for a short name, and several
  switches may share one dash, as in `-ab`;
* `--` ends the flags, and every other word is an argument, wherever it
  stands.

Numbers are read as integer literals: an optional sign, then decimal
digits, or `0x`, `0o`, `0b` or a leading `0` for hex, octal and binary, with
`_` allowed between digits; they must fit in 64 signed bits.  Booleans are
`1`, `t`, `T`, `true`, `TRUE`, `True` and their false counterparts.
-/

namespace ParityGames

namespace Cli

/-- What a flag holds. -/
inductive FlagKind where
  | switch
  | text
  | integer
  | integer64
  deriving DecidableEq, Repr

/-- The type name shown in help for a flag's value. -/
def FlagKind.valueName : FlagKind → String
  | .switch => ""
  | .text => "string"
  | .integer | .integer64 => "int"

/-- How a flag's value is completed in a shell. -/
inductive Completer where
  /-- One of a list of words. -/
  | one (words : List String)
  /-- A comma-separated list of words, each at most once. -/
  | commaList (words : List String)
  deriving Repr

/-- A flag. -/
structure Flag where
  name : String
  short : String := ""
  kind : FlagKind
  /-- The default value, as text. -/
  default : String := ""
  usage : String
  completer : Option Completer := none
  deriving Repr

/-- The value of a flag. -/
inductive Value where
  | switch (b : Bool)
  | text (s : String)
  | integer (n : Int)
  deriving Repr, DecidableEq

/-- Whether the default of a flag is its kind's zero value, which help does
not show. -/
def Flag.defaultIsZero (f : Flag) : Bool :=
  match f.kind with
  | .switch => f.default == "false"
  | .text => f.default.isEmpty
  | .integer | .integer64 => f.default == "0"

/-- The name of a flag in a message: `-s, --name` when it has a short
name, else `--name`. -/
def Flag.display (f : Flag) : String :=
  if f.short.isEmpty then "--" ++ f.name else "-" ++ f.short ++ ", --" ++ f.name

/-- A failed reading of a number or boolean: the function, the text and
whether it was out of range. -/
structure NumberFault where
  function : String
  text : String
  range : Bool
  deriving DecidableEq

/-- The text of a failed reading. -/
def NumberFault.message (e : NumberFault) : String :=
  s!"strconv.{e.function}: parsing {Text.quote e.text}: " ++
    if e.range then "value out of range" else "invalid syntax"

/-- The value of a digit in bases up to 36. -/
def digitValue (c : Char) : Option Nat :=
  if c.isDigit then some (c.toNat - 48)
  else if c.isAlpha then some (c.toLower.toNat - 97 + 10)
  else none

/-- Whether underscores in a literal only separate digits. -/
def underscoresOk (s : String) : Bool :=
  let cs := match s.toList with
    | '+' :: r | '-' :: r => r
    | r => r
  let (start, hex, cs) := match cs with
    | '0' :: b :: r =>
      if b.toLower == 'b' || b.toLower == 'o' || b.toLower == 'x' then ('0', b.toLower == 'x', r)
      else ('^', false, cs)
    | _ => ('^', false, cs)
  let last := cs.foldl (fun (saw : Option Char) c =>
    match saw with
    | none => none
    | some saw =>
      if c.isDigit || (hex && 'a' ≤ c.toLower && c.toLower ≤ 'f') then some '0'
      else if c == '_' then if saw != '0' then none else some '_'
      else if saw == '_' then none
      else some '!') (some start)
  match last with
  | some c => c != '_'
  | none => false

/-- Reads an unsigned literal with a base prefix: its value, or whether it
is out of range (`true`) or malformed (`false`). -/
def readUnsigned (s : String) : Except Bool Nat :=
  let (base, body) := match s.toList with
    | '0' :: b :: r =>
      if r.length ≥ 1 && b.toLower == 'b' then (2, r)
      else if r.length ≥ 1 && b.toLower == 'o' then (8, r)
      else if r.length ≥ 1 && b.toLower == 'x' then (16, r)
      else (8, b :: r)
    | ['0'] => (8, [])
    | cs => (10, cs)
  let step (acc : Except Bool Nat) (c : Char) : Except Bool Nat :=
    match acc with
    | .error e => .error e
    | .ok n =>
      if c == '_' then .ok n
      else match digitValue c with
        | none => .error false
        | some d =>
          if d ≥ base then .error false
          else if n * base + d ≥ Nat.pow 2 64 then .error true
          else .ok (n * base + d)
  match body.foldl step (.ok 0) with
  | .error e => .error e
  | .ok n => if body.contains '_' && !underscoresOk s then .error false else .ok n

/-- Reads a 64-bit signed integer literal. -/
def parseInteger (s : String) : Except NumberFault Int :=
  let fault (range : Bool) : Except NumberFault Int := .error ⟨"ParseInt", s, range⟩
  if s.isEmpty then fault false
  else
    let (neg, body) := match s.toList with
      | '+' :: r => (false, r)
      | '-' :: r => (true, r)
      | r => (false, r)
    if body.isEmpty then fault false
    else match readUnsigned (String.ofList body) with
      | .error range => if range then fault true else fault false
      | .ok n =>
        if !neg && n ≥ Nat.pow 2 63 then fault true
        else if neg && n > Nat.pow 2 63 then fault true
        else .ok (if neg then -(n : Int) else n)

/-- Reads a boolean. -/
def parseBool (s : String) : Except NumberFault Bool :=
  if ["1", "t", "T", "true", "TRUE", "True"].contains s then .ok true
  else if ["0", "f", "F", "false", "FALSE", "False"].contains s then .ok false
  else .error ⟨"ParseBool", s, false⟩

/-- Reads a flag's value from text. -/
def Flag.read (f : Flag) (s : String) : Except String Value :=
  let wrap {α : Type} (r : Except NumberFault α) (k : α → Value) : Except String Value :=
    match r with
    | .ok v => .ok (k v)
    | .error e => .error s!"invalid argument {Text.quote s} for {Text.quote f.display} flag: {e.message}"
  match f.kind with
  | .switch => wrap (parseBool s) .switch
  | .text => .ok (.text s)
  | .integer | .integer64 => wrap (parseInteger s) .integer

/-- The flags given on a command line, in order, and the arguments. -/
structure Parsed where
  values : List (String × Value) := []
  args : List String := []
  /-- The number of arguments before `--`, when it was given. -/
  dashAt : Option Nat := none
  deriving Repr

/-- Whether a flag was given. -/
def Parsed.changed (p : Parsed) (name : String) : Bool := p.values.any (·.1 == name)

/-- The last value given for a flag. -/
def Parsed.value? (p : Parsed) (name : String) : Option Value :=
  (p.values.reverse.find? (·.1 == name)).map (·.2)

/-- A switch's value, false when not given. -/
def Parsed.switch (p : Parsed) (name : String) : Bool :=
  match p.value? name with
  | some (.switch b) => b
  | _ => false

/-- A text flag's value, or a default. -/
def Parsed.text (p : Parsed) (name : String) (d : String := "") : String :=
  match p.value? name with
  | some (.text s) => s
  | _ => d

/-- An integer flag's value, or a default. -/
def Parsed.integer (p : Parsed) (name : String) (d : Int := 0) : Int :=
  match p.value? name with
  | some (.integer n) => n
  | _ => d

/-- Why reading flags stopped: a message, or a request for help. -/
inductive ParseStop where
  | failed (message : String)
  | help
  deriving Repr

/-- A single-quoted character literal of the first byte of a character,
read as a Latin-1 character. -/
def quoteChar (c : Char) : String :=
  let b := Char.ofNat ((String.singleton c).toUTF8.get! 0).toNat
  if b == '\'' then "'\\''"
  else if b == '"' then "'\"'"
  else String.ofList ('\'' :: Text.escapeChar b ++ ['\''])

/-- Sets a flag from text. -/
def Parsed.set (p : Parsed) (f : Flag) (s : String) : Except ParseStop Parsed :=
  match f.read s with
  | .ok v => .ok { p with values := p.values ++ [(f.name, v)] }
  | .error m => .error (.failed m)

/-- Reads a word of short flags after its dash, for at most `fuel`
letters. -/
def shortWord (flags : List Flag) : Nat → String → List Char → List String → Parsed →
    Except ParseStop (List String × Parsed)
  | 0, _, _, rest, p => .ok (rest, p)
  | _, _, [], rest, p => .ok (rest, p)
  | fuel + 1, word, c :: more, rest, p =>
    match flags.find? (·.short == c.toString) with
    | none =>
      if c == 'h' then .error .help
      else .error (.failed s!"unknown shorthand flag: {quoteChar c} in -{word}")
    | some f =>
      match more with
      | '=' :: v :: vs => (p.set f (String.ofList (v :: vs))).map fun p => (rest, p)
      | _ =>
        if f.kind == .switch then
          match p.set f "true" with
          | .ok p => shortWord flags fuel word more rest p
          | .error e => .error e
        else if !more.isEmpty then (p.set f (String.ofList more)).map fun p => (rest, p)
        else match rest with
          | v :: rest => (p.set f v).map fun p => (rest, p)
          | [] => .error (.failed s!"flag needs an argument: {quoteChar c} in -{word}")

/-- Reads a long flag word (without its dashes). -/
def longWord (flags : List Flag) (word : String) (rest : List String) (p : Parsed) :
    Except ParseStop (List String × Parsed) :=
  let body := (word.drop 2).toString
  if body.isEmpty || body.startsWith "-" || body.startsWith "=" then
    .error (.failed s!"bad flag syntax: {word}")
  else
    let (name, value) := match body.splitOn "=" with
      | n :: v :: vs => (n, some ("=".intercalate (v :: vs)))
      | _ => (body, none)
    match flags.find? (·.name == name) with
    | none => if name == "help" then .error .help else .error (.failed s!"unknown flag: --{name}")
    | some f =>
      match value with
      | some v => (p.set f v).map fun p => (rest, p)
      | none =>
        if f.kind == .switch then (p.set f "true").map fun p => (rest, p)
        else match rest with
          | v :: rest => (p.set f v).map fun p => (rest, p)
          | [] => .error (.failed s!"flag needs an argument: {word}")

/-- Reads a command line against a set of flags, for at most `fuel`
words. -/
def parseWords (flags : List Flag) : Nat → List String → Parsed → Except ParseStop Parsed
  | 0, _, p => .ok p
  | _, [], p => .ok p
  | fuel + 1, w :: rest, p =>
    if w.length < 2 || !w.startsWith "-" then parseWords flags fuel rest { p with args := p.args ++ [w] }
    else if w == "--" then .ok { p with args := p.args ++ rest, dashAt := some p.args.length }
    else if w.startsWith "--" then
      match longWord flags w rest p with
      | .ok (rest, p) => parseWords flags fuel rest p
      | .error e => .error e
    else
      match shortWord flags (w.length + 1) (w.drop 1).toString (w.drop 1).toString.toList rest p with
      | .ok (rest, p) => parseWords flags fuel rest p
      | .error e => .error e

/-- Reads a command line against a set of flags. -/
def parse (flags : List Flag) (words : List String) : Except ParseStop Parsed :=
  parseWords flags (words.length + 1) words {}

theorem parseInteger_hex : (parseInteger "0x1F").toOption = some 31 := by decide +kernel

theorem parseInteger_under : (parseInteger "1_000").toOption = some 1000 := by decide +kernel

end Cli

end ParityGames
