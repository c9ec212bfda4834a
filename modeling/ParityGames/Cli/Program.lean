import ParityGames.Cli.Command
import ParityGames.Solver.Strategy
import ParityGames.Server.Handler

/-!
# The commands of `papg`

The command tree of the program: what each command is called, what it says
about itself in help, which flags it reads and what arguments it takes.
`solve`, `render` and `explore` share the solve flags (strategy, seed, lock
policy, cache switches).  The tree of the installed program has one more
persistent flag on the root, `-v, --verbose`, which lowers the log level to
debug.

Two commands are part of every tree: `help`, which shows the help of the
command its arguments name, and the hidden `__complete`, which the shell
completion scripts call with the words typed so far.
-/

namespace ParityGames

namespace Cli

/-- The name of the program. -/
def programName : String := "papg"

/-- The names of the strategies, for completing flag values. -/
def strategyNames : List String := Strategy.all.map (·.name)

/-- The names of the lock policies, for completing flag values. -/
def lockPolicyNames : List String := ["safe", "eager"]

/-- The formats `render` draws, for completing flag values. -/
def formatNames : List String := ["svg", "dot", "png", "pdf"]

/-- A switch, false unless given. -/
def switch (name usage : String) : Flag :=
  { name, kind := .switch, default := "false", usage }

/-- The flags of the commands that solve games. -/
def solveFlags : List Flag :=
  [{ name := "strategy", short := "s", kind := .text,
     usage := "lifting strategy (see papg solve --help)", completer := some (.one strategyNames) },
   { name := "seed", kind := .integer64, default := "0", usage := "seed for the random strategies" },
   { name := "lock-policy", kind := .text,
     usage := "lock policy for the propagation strategies: safe, eager",
     completer := some (.one lockPolicyNames) },
   switch "no-cache" "disable the solution cache",
   switch "refresh" "ignore cached solutions"]

/-- The persistent flag naming the configuration file. -/
def configFlag : Flag :=
  { name := "config", kind := .text,
    usage := "config file (default $XDG_CONFIG_HOME/papg/config.toml)" }

/-- The persistent switch of the installed program that turns on debug
logging. -/
def verboseFlag : Flag :=
  { name := "verbose", short := "v", kind := .switch, default := "false",
    usage := "enable verbose logging" }

/-- The words the completion command accepts. -/
def shells : List String := ["bash", "zsh", "fish", "powershell"]

/-- The long help of `completion`. -/
def completionHelp : String :=
  "Generate shell completion scripts for papg.

Besides commands and flags, the scripts complete strategy names, lock
policies and render formats:

  $ papg solve games/elevator.gm --strategy <TAB>
  input  input-nonreturning  priority  ...  propagation-hybrid
  $ papg bench games/*.gm --strategies recursive,<TAB>
  $ papg render games/elevator.gm --format svg,<TAB>

To load completions:

Bash:
  $ source <(papg completion bash)

  # To load completions for each session, execute once:
  # Linux:
  $ papg completion bash > /etc/bash_completion.d/papg
  # macOS:
  $ papg completion bash > $(brew --prefix)/etc/bash_completion.d/papg

Zsh:
  # If shell completion is not already enabled in your environment,
  # you will need to enable it. You can execute the following once:
  $ echo \"autoload -U compinit; compinit\" >> ~/.zshrc

  # To load completions for each session, execute once:
  $ papg completion zsh > \"$\x7bfpath[1]\x7d/_papg\"

  # You will need to start a new shell for this setup to take effect.

Fish:
  $ papg completion fish | source

  # To load completions for each session, execute once:
  $ papg completion fish > ~/.config/fish/completions/papg.fish

PowerShell:
  PS> papg completion powershell | Out-String | Invoke-Expression

  # To load completions for every new session, run:
  PS> papg completion powershell > papg.ps1
  # and source this file from your PowerShell profile.
"

/-- The long help of `serve`. -/
def serveHelp : String :=
  "Serve the solver over HTTP.

Endpoints:
  GET  /healthz      liveness probe
  GET  /version      build information
  GET  /strategies   available lifting strategies
  POST /solve        solve the game in the request body
  POST /render       render the game in the request body

Games are sent in PGSolver format, or as JSON with Content-Type: application/json."

/-- The commands of the program, in the order they are added. -/
def commands (verbose : Bool) : List Command :=
  [{ path := [], use := programName,
     short := "papg solves parity games with small progress measures",
     long := "papg solves parity games with Jurdziński's small progress measures algorithm, comparing lifting strategies, rendering winning regions and serving solutions over HTTP.",
     persistent := if verbose then [configFlag, verboseFlag] else [configFlag],
     runnable := false },
   { path := ["solve"], use := "solve <game>", short := "Solve a parity game",
     long := "Solve a parity game in PGSolver or JSON format and print the winner of every vertex.\n\nStrategies: " ++
       ", ".intercalate strategyNames,
     args := .exactly 1,
     flags := solveFlags ++
       [switch "all" "run every strategy", switch "full" "print the winner of every vertex",
        { name := "json", kind := .text,
          usage := "write the solution as JSON to this file (- for stdout)" }] },
   { path := ["bench"], use := "bench <game>...", short := "Compare all strategies over a set of games",
     long := "Run every strategy on every game and report lift counts, timings and outcomes.

With --csv the three ';'-delimited tables \"Lifts:\", \"Time (µs):\" and
\"Outcome V0:\" are written, one row per game.",
     args := .atLeast 1,
     flags :=
       [switch "csv" "write ';'-delimited tables",
        { name := "repeat", kind := .integer, default := "1", usage := "runs per randomized strategy" },
        { name := "strategies", kind := .text, usage := "comma-separated strategies (default all)",
          completer := some (.commaList strategyNames) },
        { name := "seed", kind := .integer64, default := "0", usage := "seed of the first randomized run" },
        { name := "lock-policy", kind := .text,
          usage := "lock policy for the propagation strategies: safe, eager",
          completer := some (.one lockPolicyNames) }] },
   { path := ["render"], use := "render <game>", short := "Draw a game coloured by winner",
     long := "Solve a game and draw it with Graphviz. Even vertices are diamonds, odd
vertices boxes; fills show the winner and dashed edges leave a winning region.

PDF output requires rsvg-convert (librsvg).",
     args := .exactly 1,
     flags := solveFlags ++
       [{ name := "output", short := "o", kind := .text,
          usage := "output file (single format) or base path (multiple)" },
        { name := "format", short := "f", kind := .text,
          usage := "output format(s): svg (default), dot, png, pdf (comma-separated)",
          completer := some (.commaList formatNames) },
        switch "detailed" "add ids and owners to labels",
        switch "measures" "add the final progress measure to labels",
        switch "unsolved" "draw the game without solving it"] },
   { path := ["info"], use := "info <game>", short := "Print a structural summary of a game",
     args := .exactly 1,
     flags :=
       [{ name := "hubs", kind := .integer, default := "5",
          usage := "number of PageRank hubs to list (0 disables)" },
        switch "json" "print the summary as JSON"] },
   { path := ["explore"], use := "explore <game>", short := "Browse the vertices of a solved game",
     args := .exactly 1, flags := solveFlags },
   { path := ["serve"], use := "serve", short := "Serve the solver over HTTP", long := serveHelp,
     args := .noArgs,
     flags :=
       [{ name := "addr", kind := .text, default := Server.defaultAddr, usage := "listen address" },
        switch "no-cache" "disable the solution cache"] },
   { path := ["cache"], use := "cache", short := "Manage the solution cache", runnable := false },
   { path := ["cache", "clear"], use := "clear", short := "Drop every cached solution and rendering",
     args := .noArgs },
   { path := ["cache", "path"], use := "path", short := "Print the file cache directory",
     args := .noArgs },
   { path := ["completion"], use := "completion [bash|zsh|fish|powershell]",
     short := "Generate shell completion scripts", long := completionHelp,
     flagsInUseLine := false, validArgs := shells, args := .oneValid },
   { path := ["help"], use := "help [command]", short := "Help about any command",
     long := "Help provides help for any command in the application.\nSimply type papg help [path to command] for full details.",
     completesArgs := true },
   { path := ["__complete"], use := "__complete [command-line]",
     short := "Request shell completion choices for the specified command-line",
     long := "__complete is a special command that is used by the shell completion logic\nto request completion choices for the specified command-line.",
     hidden := true, aliases := ["__completeNoDesc"], flagsInUseLine := false,
     args := .atLeast 1, rawArgs := true }]

/-- The command tree of the program; `verbose` adds the debug switch of the
installed program. -/
def program (verbose : Bool) : Tree :=
  { name := programName, version := "dev", commands := commands verbose }

theorem program_root_not_runnable : ((program false).root).runnable = false := by decide

end Cli

end ParityGames
