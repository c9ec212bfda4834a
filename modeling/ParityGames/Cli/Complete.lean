import ParityGames.Cli.Command

/-!
# Completing a command line

Shell completion scripts ask the program itself what may follow the words
typed so far: they run the hidden command `__complete` with those words, the
last of which is the word being completed (empty when a new word starts).
The answer is one candidate per line, a candidate optionally followed by a
tab and a description, and a last line `:<directive>`, where the directive
is a set of bits telling the shell what to do besides (see `Directive`).

The candidates depend on where the word stands:

* a word starting with `-` completes flag names, long and short, of the
  flags not given yet;
* the value of a flag with a completer completes from that completer's
  words; a comma-separated list leaves out the words already listed and asks
  the shell not to add a space;
* otherwise a command with children completes their names when no
  argument has been given, and a command with a fixed set of arguments
  completes those.

A command line that names no command, or whose flags cannot be read,
completes nothing and is reported as an error beside the answer.
-/

namespace ParityGames

namespace Cli

/-- The bits of a completion directive. -/
def Directive.error : Nat := 1
/-- Do not add a space after the completion. -/
def Directive.noSpace : Nat := 2
/-- Do not complete file names when there is no candidate. -/
def Directive.noFileComp : Nat := 4
/-- Complete file names with the given extensions. -/
def Directive.filterFileExt : Nat := 8
/-- Complete directory names only. -/
def Directive.filterDirs : Nat := 16
/-- Keep the candidates in their order. -/
def Directive.keepOrder : Nat := 32

/-- The names of the bits of a directive, as shown after a completion. -/
def directiveText (d : Nat) : String :=
  let names := [(Directive.error, "ShellCompDirectiveError"),
    (Directive.noSpace, "ShellCompDirectiveNoSpace"),
    (Directive.noFileComp, "ShellCompDirectiveNoFileComp"),
    (Directive.filterFileExt, "ShellCompDirectiveFilterFileExt"),
    (Directive.filterDirs, "ShellCompDirectiveFilterDirs"),
    (Directive.keepOrder, "ShellCompDirectiveKeepOrder")]
  let set := names.filter fun (bit, _) => d / bit % 2 == 1
  if d ≥ 64 then s!"ERROR: unexpected ShellCompDirective value: {d}"
  else if set.isEmpty then "ShellCompDirectiveDefault"
  else ", ".intercalate (set.map (·.2))

/-- The answer to a completion request. -/
structure Completions where
  items : List String := []
  directive : Nat := 0
  /-- A failure met on the way, reported beside the answer. -/
  error : Option String := none
  deriving Repr

/-- A candidate with its description. -/
def withDescription (name description : String) : String := name ++ "\t" ++ description

/-- The candidates of a completer for a word. -/
def Completer.complete : Completer → String → List String × Nat
  | .one words, w => (words.filter (·.startsWith w), Directive.noFileComp)
  | .commaList words, w =>
    let cs := w.toList
    let (done, last) := match cs.reverse.findIdx? (· == ',') with
      | some j => let i := cs.length - 1 - j
        (String.ofList (cs.take (i + 1)), String.ofList (cs.drop (i + 1)))
      | none => ("", w)
    let given := (done.splitOn ",").map fun d => d.trimAscii.toString
    ((words.filter fun c => !given.contains c && c.startsWith last).map (done ++ ·),
      Directive.noFileComp + Directive.noSpace)

/-- Whether a word is a complete flag: `--` and a name, or `-` and a letter. -/
def isFlagWord (w : String) : Bool :=
  match w.toList with
  | '-' :: '-' :: _ :: _ => true
  | '-' :: c :: _ => c != '-'
  | _ => false

namespace Tree

/-- The flag a name refers to in a command: a long name, or a one-letter
short name. -/
def findFlag (t : Tree) (c : Command) (name : String) : Option Flag :=
  let flags := t.allFlags c true
  if name.length == 1 then flags.find? (·.short == name)
  else flags.find? (·.name == name)

/-- Which flag's value a word completes, if any: the flag, the words before
it that remain arguments, the part of the word being completed, and the
failure when the flag it names is not one of the command's. -/
def flagInCompletion (t : Tree) (c : Command) (args : List String) (last : String) :
    Option Flag × List String × String × Option String :=
  if c.rawArgs then (none, args, last, none) else
  let cs := last.toList
  let named : Option (String × String × Bool) :=
    if cs.head? == some '-' then
      match cs.findIdx? (· == '=') with
      | some i =>
        let front := String.ofList (cs.take i)
        let name := if front.startsWith "--" then String.ofList ((cs.take i).drop 2)
          else String.ofList ((cs.take i).drop (i - 1))
        some (name, String.ofList (cs.drop (i + 1)), true)
      | none => none
    else none
  if cs.head? == some '-' && named.isNone then (none, args, last, none) else
  let (name, value, withEqual, trimmed) : String × String × Bool × List String :=
    match named with
    | some (n, v, e) => (n, v, e, args)
    | none =>
      match args.getLast? with
      | some prev =>
        if isFlagWord prev && !prev.contains '=' then
          let n := if prev.startsWith "--" then (prev.drop 2).toString
            else String.singleton (prev.toList.getLastD ' ')
          (n, last, false, args.dropLast)
        else ("", last, false, args)
      | none => ("", last, false, args)
  if name.isEmpty then (none, trimmed, value, none) else
  match t.findFlag c name with
  | none => (none, args, last, some s!"Subcommand '{c.name}' does not support flag '{name}'")
  | some f =>
    if !withEqual && f.kind == .switch then (none, args, value, none)
    else (some f, trimmed, value, none)

/-- The flag-name candidates of a command for a word. -/
def flagNames (t : Tree) (c : Command) (given : Parsed) (w : String) : List String :=
  let names (f : Flag) : List String :=
    if given.changed f.name then [] else
    (if ("--" ++ f.name).startsWith w then [withDescription ("--" ++ f.name) f.usage] else []) ++
    (if !f.short.isEmpty && ("-" ++ f.short).startsWith w then [withDescription ("-" ++ f.short) f.usage]
     else [])
  (t.inherited c).flatMap names ++ (t.localFlags c true).flatMap names

/-- The children of a command offered as candidates for a word. -/
def childNames (t : Tree) (c : Command) (w : String) : List String :=
  ((t.children c).filter fun d => t.available d || (c.path.isEmpty && isHelp d)).filterMap fun d =>
    if d.name.startsWith w then some (withDescription d.name d.short) else none

/-- Whether a command offers its children at all. -/
def offersChildren (t : Tree) (c : Command) : Bool :=
  (t.children c).any fun d => t.available d || (c.path.isEmpty && isHelp d)

/-- What the help command offers after some words: the children of the
command they name. -/
def helpCandidates (t : Tree) (args : List String) (w : String) : List String :=
  match t.find args with
  | (_, _, some _) => []
  | (c, _, none) => t.childNames c w

/-- Completes a command line whose last word is being typed. -/
def complete (t : Tree) (words : List String) : Completions :=
  let last := words.getLastD ""
  let before := words.dropLast
  match t.find before with
  | (_, _, some _) =>
    let shown := " ".intercalate before
    { error := some s!"unable to find a command for arguments: [{shown}]" }
  | (c, rest, none) =>
    let (flag, args, w, flagFault) := t.flagInCompletion c rest last
    let flags := t.allFlags c true
    let parsed := if c.rawArgs then Except.ok ({ args } : Parsed) else
      match parse flags args with
      | .ok p => .ok p
      | .error (.failed m) => .error m
      | .error .help => .ok {}
    match parsed with
    | .error m =>
      let shown := " ".intercalate args
      { error := some s!"Error while parsing flags from args [{shown}]: {m}" }
    | .ok p =>
      let flagCompletion := c.rawArgs || match parse flags (args ++ ["--"]) with
        | .ok q => q.args.length ≤ p.args.length
        | .error _ => true
      if flagFault.isSome && flagCompletion then { error := flagFault } else
        if p.changed "help" || (c.path.isEmpty && p.changed "version") then
          { directive := Directive.noFileComp }
        else
        let finalArgs := p.args
        let flag := if flagCompletion then flag else none
        if flag.isNone && w.startsWith "-" && !w.contains '=' && flagCompletion then
          let items := t.flagNames c p w
          let directive := if items.length == 1 && (items.headD "").endsWith "=" then Directive.noSpace
            else Directive.noFileComp
          { items, directive }
        else
          match flag with
          | some f =>
            match f.completer with
            | some comp => let (items, directive) := comp.complete w; { items, directive }
            | none => {}
          | none =>
            let ownSet := (c.flags ++ [t.helpFlag c] ++
              (if c.path.isEmpty && !t.version.isEmpty then [t.versionFlag c] else [])).any
                fun f => p.changed f.name
            let (items, directive) :=
              if finalArgs.isEmpty && !ownSet && t.offersChildren c then
                (t.childNames c w, Directive.noFileComp)
              else ([], 0)
            if !c.validArgs.isEmpty then
              if finalArgs.isEmpty then
                { items := items ++ c.validArgs.filter (·.startsWith w), directive := Directive.noFileComp }
              else { items, directive }
            else if c.completesArgs then
              { items := items ++ t.helpCandidates finalArgs w, directive := Directive.noFileComp }
            else { items, directive }

end Tree

/-- The output of a completion request: each candidate on its own line,
without its description when descriptions are off, then the directive. -/
def Completions.output (c : Completions) (descriptions : Bool) : String :=
  let line (item : String) : String :=
    let item := if descriptions then item else (item.splitOn "\t").headD ""
    ((item.splitOn "\n").headD "").trimAscii.toString
  String.join (c.items.map fun i => line i ++ "\n") ++ s!":{c.directive}\n"

theorem directiveText_six :
    directiveText 6 = "ShellCompDirectiveNoSpace, ShellCompDirectiveNoFileComp" := by decide +kernel

end Cli

end ParityGames
