import ParityGames.Cli.Flag

/-!
# Commands and their help

A program's commands form a tree below a root command, kept as a list of
commands each with its path of names from the root; the list keeps the
order in which commands were added.

Finding the command a command line names walks down the tree: the first
word that is not a flag or a flag's value names a child, which is then
taken off the line, until no child matches.  A flag that takes a value
hides the next word from this walk, unless its value was joined with `=`.

A command's flags are its own flags, the persistent flags of its
ancestors, and a help switch `-h, --help`; the root also has a version
switch.  Help text lists them sorted by name, aligned in two columns.
-/

namespace ParityGames

namespace Cli

/-- What arguments a command accepts. -/
inductive ArgRule where
  /-- No rule: only the root refuses words that name no child. -/
  | unchecked
  /-- No arguments at all. -/
  | noArgs
  /-- Exactly `n` arguments. -/
  | exactly (n : Nat)
  /-- At least `n` arguments. -/
  | atLeast (n : Nat)
  /-- Exactly one argument, which must be one of the command's valid
  arguments. -/
  | oneValid
  deriving Repr, DecidableEq

/-- A command. -/
structure Command where
  /-- The names from the root down to this command; empty for the root. -/
  path : List String
  use : String
  short : String := ""
  long : String := ""
  flags : List Flag := []
  persistent : List Flag := []
  args : ArgRule := .unchecked
  validArgs : List String := []
  runnable : Bool := true
  hidden : Bool := false
  /-- Whether the usage line ends in `[flags]`. -/
  flagsInUseLine : Bool := true
  /-- Whether the command completes its arguments itself. -/
  completesArgs : Bool := false
  /-- Other names the command answers to. -/
  aliases : List String := []
  /-- Whether every word after the command is an argument, flags included. -/
  rawArgs : Bool := false
  deriving Repr

/-- The name of a command: the first word of its usage. -/
def Command.name (c : Command) : String := (c.use.splitOn " ").headD ""

/-- Whether a word names a command, by its name or an alias. -/
def Command.answersTo (c : Command) (word : String) : Bool :=
  c.name == word || c.aliases.contains word

/-- A program's command tree. -/
structure Tree where
  name : String
  version : String := ""
  commands : List Command
  deriving Repr

namespace Tree

/-- The command at a path. -/
def command? (t : Tree) (path : List String) : Option Command :=
  t.commands.find? (·.path == path)

/-- The root command. -/
def root (t : Tree) : Command :=
  (t.command? []).getD { path := [], use := t.name }

/-- The children of a command, in the order they were added. -/
def childrenAdded (t : Tree) (c : Command) : List Command :=
  t.commands.filter fun d => d.path.length == c.path.length + 1 && d.path.take c.path.length == c.path

/-- The children of a command, sorted by name. -/
def children (t : Tree) (c : Command) : List Command :=
  (t.childrenAdded c).mergeSort fun a b => decide (a.name ≤ b.name)

/-- Whether a command is the help command. -/
def isHelp (c : Command) : Bool := c.path == ["help"]

/-- Whether a command is listed: not hidden, not the help command, and
runnable or with a listed child. -/
def available (t : Tree) (c : Command) : Bool :=
  !c.hidden && !isHelp c &&
    (c.runnable || (t.childrenAdded c).any fun d => !d.hidden && !isHelp d && d.runnable)

/-- The path of a command as words, starting with the program's name. -/
def commandPath (t : Tree) (c : Command) : String := " ".intercalate (t.name :: c.path)

/-- The persistent flags a command inherits from its ancestors, sorted by
name. -/
def inherited (t : Tree) (c : Command) : List Flag :=
  let ancestors := (List.range c.path.length).filterMap fun i => t.command? (c.path.take i)
  let fs := ancestors.flatMap (·.persistent)
  fs.mergeSort fun a b => decide (a.name ≤ b.name)

/-- The help switch of a command. -/
def helpFlag (t : Tree) (c : Command) : Flag :=
  { name := "help", short := "h", kind := .switch, default := "false",
    usage := "help for " ++ (if c.path.isEmpty then t.name else c.name) }

/-- The version switch of the root, short `-v` unless that is taken. -/
def versionFlag (t : Tree) (c : Command) : Flag :=
  let taken := (c.flags ++ c.persistent).any (·.short == "v")
  { name := "version", short := if taken then "" else "v", kind := .switch, default := "false",
    usage := "version for " ++ t.name }

/-- A command's own flags, with its help switch (and the root's version
switch when the program has a version) when `full`, sorted by name. -/
def localFlags (t : Tree) (c : Command) (full : Bool) : List Flag :=
  let extra := if !full then []
    else if c.path.isEmpty && !t.version.isEmpty then [t.helpFlag c, t.versionFlag c]
    else [t.helpFlag c]
  (c.flags ++ c.persistent ++ extra).mergeSort fun a b => decide (a.name ≤ b.name)

/-- Every flag a command reads. -/
def allFlags (t : Tree) (c : Command) (full : Bool) : List Flag :=
  t.localFlags c full ++ t.inherited c

/-- Whether a flag word names a switch of a set of flags. -/
def isSwitch (flags : List Flag) (name : String) : Bool :=
  flags.any fun f => f.name == name && f.kind == .switch

/-- Whether a short flag letter names a switch. -/
def isShortSwitch (flags : List Flag) (letter : String) : Bool :=
  flags.any fun f => f.short == letter && f.kind == .switch

/-- Whether a word is a flag that takes the next word as its value. -/
def takesNext (flags : List Flag) (w : String) : Bool :=
  (w.startsWith "--" && !w.contains '=' && !isSwitch flags (w.drop 2).toString) ||
    (w.startsWith "-" && !w.contains '=' && w.length == 2 && !isShortSwitch flags (w.drop 1).toString)

/-- The words of a command line that are neither flags nor flag values,
for at most `fuel` words. -/
def nonFlags (flags : List Flag) : Nat → List String → List String
  | 0, _ => []
  | _, [] => []
  | fuel + 1, w :: rest =>
    if w == "--" then []
    else if takesNext flags w then
      if rest.length ≤ 1 then [] else nonFlags flags fuel (rest.drop 1)
    else if !w.isEmpty && !w.startsWith "-" then w :: nonFlags flags fuel rest
    else nonFlags flags fuel rest

/-- Removes the first word equal to `x` that is neither a flag nor a flag
value, for at most `fuel` words. -/
def withoutFirst (flags : List Flag) (x : String) : Nat → List String → List String
  | 0, ws => ws
  | _, [] => []
  | fuel + 1, w :: rest =>
    if w == "--" then w :: rest
    else if takesNext flags w then
      match rest with
      | v :: more => w :: v :: withoutFirst flags x fuel more
      | [] => [w]
    else if !w.startsWith "-" && w == x then rest
    else w :: withoutFirst flags x fuel rest

/-- Walks down from a command along a command line, for at most `fuel`
levels: the command found and the words left. -/
def walk (t : Tree) : Nat → Command → List String → Command × List String
  | 0, c, ws => (c, ws)
  | fuel + 1, c, ws =>
    let flags := t.allFlags c false
    match nonFlags flags (ws.length + 1) ws with
    | [] => (c, ws)
    | next :: _ =>
      match (t.childrenAdded c).find? (·.answersTo next) with
      | some d => walk t fuel d (withoutFirst flags next (ws.length + 1) ws)
      | none => (c, ws)

/-- The edit distance between two texts, ignoring case. -/
def distance (s u : String) : Nat :=
  let a := (s.map Char.toLower).toUTF8.toList
  let b := (u.map Char.toLower).toUTF8.toList
  let first := (List.range (b.length + 1))
  let row := a.zipIdx.foldl (fun (prev : List Nat) (x, i) =>
    let cells := b.zipIdx.foldl (fun (cur : List Nat) (y, j) =>
      let diag := prev.getD j 0
      let up := prev.getD (j + 1) 0
      let left := cur.getLast?.getD 0
      cur ++ [if x == y then diag else min (min up left) diag + 1]) [i + 1]
    cells) first
  row.getLastD 0

/-- The children whose names are close to a word or start with it. -/
def suggestions (t : Tree) (c : Command) (word : String) : List String :=
  ((t.childrenAdded c).filter fun d =>
    t.available d && (distance word d.name ≤ 2 ||
      (d.name.map Char.toLower).startsWith (word.map Char.toLower))).map (·.name)

/-- The suggestion text after an unknown word: empty, or a blank line and
the close names. -/
def suggestionText (t : Tree) (c : Command) (word : String) : String :=
  match t.suggestions c word with
  | [] => ""
  | names => "\n\nDid you mean this?\n" ++ String.join (names.map fun n => "\t" ++ n ++ "\n")

/-- Finds the command a command line names: the command and the words
left, or the failure for a word the root does not know. -/
def find (t : Tree) (words : List String) : Command × List String × Option String :=
  let (c, rest) := t.walk (words.length + 1) t.root words
  let unknown :=
    if c.args == .unchecked && c.path.isEmpty && !(t.childrenAdded c).isEmpty then
      match nonFlags (t.allFlags c false) (rest.length + 1) rest with
      | w :: _ => some (s!"unknown command {Text.quote w} for {Text.quote (t.commandPath c)}" ++
          t.suggestionText c w)
      | [] => none
    else none
  (c, rest, unknown)

/-- Checks a command's arguments against its rule. -/
def checkArgs (t : Tree) (c : Command) (args : List String) : Except String Unit :=
  match c.args with
  | .unchecked => .ok ()
  | .noArgs =>
    match args with
    | w :: _ => .error s!"unknown command {Text.quote w} for {Text.quote (t.commandPath c)}"
    | [] => .ok ()
  | .exactly n =>
    if args.length == n then .ok ()
    else .error s!"accepts {n} arg(s), received {args.length}"
  | .atLeast n =>
    if args.length ≥ n then .ok ()
    else .error s!"requires at least {n} arg(s), only received {args.length}"
  | .oneValid =>
    if args.length != 1 then .error s!"accepts 1 arg(s), received {args.length}"
    else match args.find? fun a => !c.validArgs.contains a with
      | some a => .error (s!"invalid argument {Text.quote a} for {Text.quote (t.commandPath c)}" ++
          t.suggestionText c a)
      | none => .ok ()

/-- The usage line of a runnable command. -/
def useLine (t : Tree) (c : Command) : String :=
  let rest := (c.use.splitOn " ").drop 1
  let line := " ".intercalate (t.commandPath c :: rest)
  if c.flagsInUseLine && (line.splitOn "[flags]").length == 1 then line ++ " [flags]" else line

/-- A text padded on the right with spaces to a width. -/
def padRight (s : String) (n : Nat) : String := s.pushn ' ' (n - s.length)

/-- The two-column listing of flags: names and value type, then the usage
and a default that is not the zero value. -/
def flagUsages (flags : List Flag) : String :=
  let heads := flags.map fun f =>
    let names := if f.short.isEmpty then "      --" ++ f.name else "  -" ++ f.short ++ ", --" ++ f.name
    if f.kind.valueName.isEmpty then names else names ++ " " ++ f.kind.valueName
  let width := heads.foldl (fun w h => max w h.utf8ByteSize) 0
  String.join ((flags.zip heads).map fun (f, h) =>
    let dflt := if f.defaultIsZero then ""
      else if f.kind == .text then s!" (default {Text.quote f.default})"
      else s!" (default {f.default})"
    h ++ " " ++ "".pushn ' ' (width + 1 - h.utf8ByteSize) ++ " " ++ f.usage ++ dflt ++ "\n")

/-- A text without its trailing blanks. -/
def trimEnd (s : String) : String := (s.dropEndWhile Char.isWhitespace).toString

/-- The usage text of a command; `full` lists the help and version
switches, which a command has once it runs. -/
def usageText (t : Tree) (c : Command) (full : Bool := true) : String :=
  let kids := t.children c
  let hasKids := kids.any t.available
  let listed := kids.filter fun d => t.available d || d.name == "help"
  let pad := max 11 ((t.childrenAdded c).foldl (fun w d => max w d.name.length) 0)
  let localFs := t.localFlags c full
  let inheritedFs := t.inherited c
  "Usage:" ++
  (if c.runnable then "\n  " ++ t.useLine c else "") ++
  (if hasKids then "\n  " ++ t.commandPath c ++ " [command]" else "") ++
  (if hasKids then
    "\n\nAvailable Commands:" ++ String.join (listed.map fun d => "\n  " ++ padRight d.name pad ++ " " ++ d.short)
   else "") ++
  (if localFs.isEmpty then "" else "\n\nFlags:\n" ++ trimEnd (flagUsages localFs)) ++
  (if inheritedFs.isEmpty then "" else "\n\nGlobal Flags:\n" ++ trimEnd (flagUsages inheritedFs)) ++
  (if hasKids then s!"\n\nUse \"{t.commandPath c} [command] --help\" for more information about a command."
   else "") ++ "\n"

/-- The help text of a command: its long description (or short one), then
its usage. -/
def helpText (t : Tree) (c : Command) : String :=
  let about := if c.long.isEmpty then c.short else c.long
  (if about.isEmpty then "" else trimEnd about ++ "\n\n") ++
    (if c.runnable || !(t.childrenAdded c).isEmpty then t.usageText c else "")

theorem distance_kitten : distance "kitten" "sitting" = 3 := by decide +kernel

end Tree

end Cli

end ParityGames
