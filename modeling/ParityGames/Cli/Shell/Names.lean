import ParityGames.Text.Quoted

/-!
# Names in completion scripts

Completion scripts name their functions and variables after the program.
A script's first line shows the program's name padded to a fixed width,
and the variable that turns ActiveHelp off is the name in capitals with
every other character made an underscore.
-/

namespace ParityGames

namespace Cli

namespace Shell

/-- A program name padded on the right to 36 columns. -/
def headerName (name : String) : String := name.pushn ' ' (36 - name.length)

/-- The prefix of a program's environment variables: its name in capitals,
characters other than letters and digits made underscores. -/
def envPrefix (name : String) : String :=
  name.map fun c => if c.isAlphanum then c.toUpper else '_'

/-- The variable that configures ActiveHelp for a program. -/
def activeHelpVar (name : String) : String := envPrefix name ++ "_ACTIVE_HELP"

theorem envPrefix_dash : envPrefix "my-app" = "MY_APP" := by decide +kernel

end Shell

end Cli

end ParityGames
