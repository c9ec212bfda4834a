import ParityGames.Cli.Command
import ParityGames.Cli.Shell.BashText

/-!
# The bash completion script

The bash script has one function per listed command, children before their
parent and siblings by name, the root last.  A command's function lists
its children, its flags (its own first, then those it inherits), the flags
whose values the program completes, and the arguments it accepts.  A switch
is written without `=`, a flag that takes a value both as `--name=` and as a
two-word flag.  Only the command that runs has its help switch, as help
switches are added to a command when it runs.
-/

namespace ParityGames

namespace Cli

namespace Shell

/-- The name of a command's function: its path joined by underscores. -/
def bashName (t : Tree) (c : Command) : String :=
  String.join (("_".intercalate (t.name :: c.path)).toList.map fun ch =>
    if ch == ':' then "__" else ch.toString)

/-- A text quoted for the script. -/
def bashQuote (s : String) : String := Text.quote s

/-- The lines that declare one flag, long and short name. -/
def bashFlag (t : Tree) (f : Flag) (own : Bool) : String :=
  let takesValue := f.kind != .switch
  let custom := bashQuote ("__" ++ t.name ++ "_handle_go_custom_completion")
  let handler (n : String) : String :=
    if f.completer.isSome then
      s!"    flags_with_completion+=({bashQuote n})\n" ++
        s!"    flags_completion+=({custom})\n"
    else ""
  let long := s!"    flags+=(\"--{f.name}" ++ (if takesValue then "=" else "") ++ "\")\n" ++
    (if takesValue then s!"    two_word_flags+=(\"--{f.name}\")\n" else "") ++ handler ("--" ++ f.name)
  let short := if f.short.isEmpty then ""
    else (if takesValue then "    two_word_flags+=" else "    flags+=") ++ s!"(\"-{f.short}\")\n" ++
      handler ("-" ++ f.short)
  let nonPersistent := if !own then ""
    else s!"    local_nonpersistent_flags+=(\"--{f.name}\")\n" ++
      (if takesValue then s!"    local_nonpersistent_flags+=(\"--{f.name}=\")\n" else "") ++
      (if f.short.isEmpty then "" else s!"    local_nonpersistent_flags+=(\"-{f.short}\")\n")
  long ++ short ++ nonPersistent

/-- The children of a command that its function lists. -/
def bashChildren (t : Tree) (c : Command) : List Command :=
  (t.children c).filter fun d => t.available d || (c.path.isEmpty && Tree.isHelp d)

/-- The function of one command; `running` is the path of the command that
writes the script. -/
def bashFunction (t : Tree) (running : List String) (c : Command) : String :=
  let n := bashName t c
  let header := if c.path.isEmpty then s!"_{n}_root_command()\n" else s!"_{n}()\n"
  let aliasLines (d : Command) : String :=
    if d.aliases.isEmpty then "" else
    "    if [[ -z \"$\x7bBASH_VERSION:-\x7d\" || \"$\x7bBASH_VERSINFO[0]:-\x7d\" -gt 3 ]]; then\n" ++
      String.join ((d.aliases.mergeSort fun a b => decide (a ≤ b)).map fun a =>
        s!"        command_aliases+=({bashQuote a})\n        aliashash[{bashQuote a}]={bashQuote d.name}\n") ++
      "    fi\n"
  let commands := "    commands=()\n" ++
    String.join ((bashChildren t c).map fun d => s!"    commands+=({bashQuote d.name})\n" ++ aliasLines d) ++ "\n"
  let helpHere := if c.path == running then [t.helpFlag c] else []
  let own := (c.flags ++ c.persistent ++ helpHere).mergeSort fun a b => decide (a.name ≤ b.name)
  let flags := "    flags=()\n    two_word_flags=()\n    local_nonpersistent_flags=()\n" ++
    "    flags_with_completion=()\n    flags_completion=()\n\n" ++
    (if c.rawArgs then "    flag_parsing_disabled=1\n" else "") ++
    String.join (own.map fun f => bashFlag t f (!c.persistent.any (·.name == f.name))) ++
    String.join ((t.inherited c).map fun f => bashFlag t f false) ++ "\n"
  let nouns := "    must_have_one_noun=()\n" ++
    String.join ((c.validArgs.mergeSort fun a b => decide (a ≤ b)).map fun v =>
      let word := bashQuote ((v.splitOn "\t").headD "")
      s!"    must_have_one_noun+=({word})\n") ++
    (if c.completesArgs then "    has_completion_function=1\n" else "")
  header ++ "\x7b\n" ++ s!"    last_command={bashQuote n}\n" ++ "\n" ++ "    command_aliases=()\n" ++ "\n" ++
    commands ++ flags ++ "    must_have_one_flag=()\n" ++ nouns ++ "    noun_aliases=()\n" ++ "\x7d\n\n"

/-- The functions of a command and of the commands below it, children
first, for at most `fuel` levels. -/
def bashFunctions (t : Tree) (running : List String) : Nat → Command → String
  | 0, _ => ""
  | fuel + 1, c =>
    String.join ((bashChildren t c).map (bashFunctions t running fuel)) ++ bashFunction t running c

/-- The bash completion script of a program, written by the command at
`running`. -/
def bashScript (t : Tree) (running : List String) : String :=
  bashPreamble t.name ++ bashFunctions t running (t.commands.length + 1) t.root ++ bashPostscript t.name

theorem bashName_nested : bashName { name := "p", commands := [] } { path := ["a", "b"], use := "b" } =
    "p_a_b" := by decide +kernel

end Shell

end Cli

end ParityGames
