import ParityGames.Cli.Program
import ParityGames.Cli.Complete
import ParityGames.Cli.Report
import ParityGames.Cli.Shell.Bash
import ParityGames.Cli.Shell.Zsh
import ParityGames.Cli.Shell.Fish
import ParityGames.Cli.Shell.PowerShell
import ParityGames.Pipeline.Load
import ParityGames.Config.Settings
import ParityGames.Cache.File
import ParityGames.Cache.Redis
import ParityGames.Screen.VertexList
import ParityGames.Screen.Keys
import ParityGames.BuildInfo
import ParityGames.Text.Time
import ParityGames.Log.Format

/-!
# Running the command line

A command line is run in steps, each of which may end it:

1. The words name a command (see `Tree.find`); a word the root does not
   know is an error, with a hint to run `papg --help`.
2. The command's flags are read; a bad flag is an error.
3. `--help`, the root's `--version`, or a command that only groups others
   print help or the version and end without error.
4. The arguments are checked against the command's rule.
5. The settings file is loaded (`--config`, or the default place); a bad
   file is an error.  From here on the log is on, at debug level when asked
   for, and then the pipeline's events are logged too.
6. The command runs.

An error is printed as `Error: <text>` on the error output and returned.
Reports go to the output, the log to the error output with the time of day
in front of every line.

The commands that solve games open the cache the settings name: a file
cache in the cache directory, none, or a Redis server, which cannot be
reached here.  A file cache whose directory cannot be made is left out with
a warning instead of failing the command.
-/

namespace ParityGames

namespace Cli

/-- One run of the command line. -/
structure Invocation where
  args : List String
  /-- Whether the program runs on its own, with its own standard streams:
  it then has the `--verbose` switch, shows completion diagnostics on the
  error output, and sends help that goes "to the output, else the error
  output" to the error output. -/
  standalone : Bool := false
  /-- Whether debug logging is on from the start. -/
  debug : Bool := false
  life : Lifetime := .live

/-- Where solutions are kept. -/
inductive Store where
  | none
  | files (store : Cache.FileStore)

/-- A command at work: the machine, the log level, whether events are
logged, the settings and the lifetime. -/
structure Session (m : Type → Type) where
  p : Platform m
  inv : Invocation
  tree : Tree
  level : Log.Level
  settings : Settings
  converter : Render.Converter

variable {m : Type → Type} [Monad m]

namespace Session

/-- The lifetime of the run. -/
def life (s : Session m) : Lifetime := s.inv.life

/-- Whether pipeline events are logged. -/
def hooks (s : Session m) : Bool := s.level == .debug

/-- Logs a record, with the time of day, when its level is shown. -/
def emit (s : Session m) (r : Log.Record) : m Unit := do
  if r.level.rank ≥ s.level.rank then
    let now ← s.p.now
    s.p.writeErr (Log.Record.line (some (Time.clockText now)) r)

/-- The pipeline's effects over a store. -/
def effects (s : Session m) (store : Store) : Pipeline.Effects m where
  cacheGet k := match store with
    | .none => pure (.ok none)
    | .files c => do
      match ← Cache.FileStore.get s.p c s.life k with
      | .ok v => pure (.ok v)
      | .error f => pure (.error f.text)
  cacheSet k d ttl := match store with
    | .none => pure (.ok ())
    | .files c => do
      match ← Cache.FileStore.set s.p c s.life k d ttl with
      | .ok () => pure (.ok ())
      | .error f => pure (.error f.text)
  log := s.emit
  solverLog := s.emit
  event e := if s.hooks then s.emit e.record else pure ()
  converter := s.converter

/-- The directory of the file cache: `$XDG_CACHE_HOME/papg`, or
`$HOME/.cache/papg`. -/
def cacheDir (s : Session m) : m (Except String String) := do
  match ← s.p.getEnv "XDG_CACHE_HOME" with
  | some d => if !d.isEmpty then return .ok (Path.join [d, programName]) else pure ()
  | none => pure ()
  match ← s.p.getEnv "HOME" with
  | some h => if !h.isEmpty then return .ok (Path.join [h, ".cache", programName]) else pure ()
  | none => pure ()
  return .error "$HOME is not defined"

/-- Opens the store the settings name; `off` opens none. -/
def openStore (s : Session m) (off : Bool) : ExceptT Failure m Store := do
  if off then return .none
  let c := s.settings.cache
  match c.backend with
  | "none" => return .none
  | "redis" =>
    match Cache.RedisClient.connect c.redisAddr c.redisPassword c.redisDb "" with
    | .error f => throw (f.context "open redis cache")
    | .ok _ => return .none
  | _ =>
    let disabled (err : String) : ExceptT Failure m Store := do
      s.emit (Log.warn "cache disabled" [("err", .text err)])
      return .none
    let dir ← if !c.dir.isEmpty then pure (Except.ok c.dir) else (s.cacheDir : m _)
    match dir with
    | .error e => disabled e
    | .ok dir =>
      match ← (monadLift (Cache.FileStore.create s.p dir) : ExceptT Failure m (Except Failure Cache.FileStore)) with
      | .error f => disabled f.text
      | .ok store => return .files store

/-- The runner of the settings. -/
def runner (s : Session m) : Pipeline.Runner :=
  let scope := s.settings.cache.scope
  { keyer := if scope.isEmpty then .standard else Cache.Keyer.scoped (scope ++ ":") .standard,
    ttl := s.settings.cache.ttl.toNat }

/-- The solve options of the settings, overridden by the flags given. -/
def solveOptions (s : Session m) (q : Parsed) : Pipeline.Options :=
  { strategy := if q.changed "strategy" then q.text "strategy" else s.settings.strategy,
    seed := if q.changed "seed" then q.integer "seed" else s.settings.seed,
    lockPolicy := if q.changed "lock-policy" then q.text "lock-policy" else s.settings.lockPolicy,
    refresh := q.switch "refresh" }

/-- Loads a game file. -/
def load (s : Session m) (fx : Pipeline.Effects m) (path : String) : ExceptT Failure m Arena :=
  ExceptT.mk (Pipeline.load s.p fx s.life path)

/-- Solves a game with the options of the flags. -/
def solveWith (s : Session m) (fx : Pipeline.Effects m) (q : Parsed) (a : Arena) :
    ExceptT Failure m Pipeline.Result :=
  ExceptT.mk (Pipeline.solve fx s.runner s.life a (s.solveOptions q))

end Session

/-- The value of an `Except`, or its failure. -/
def orFail {α : Type} (e : Except Failure α) : ExceptT Failure m α :=
  match e with
  | .ok v => pure v
  | .error f => throw f

/-- The file a drawing is written to: the given output for a single
format, else the game's path (or the output) with the format's extension
in place of its own, a `.gz` suffix dropped first. -/
def outputPath (input output : String) (f : Render.Format) (multi : Bool) : String :=
  if output.isEmpty || multi then
    let base := if output.isEmpty then input else output
    let base := if base.endsWith ".gz" then (base.dropEnd 3).toString else base
    let base := (base.dropEnd (Path.ext base).length).toString
    base ++ "." ++ f.name
  else output

/-- The formats of a comma-separated list; an empty list means SVG. -/
def parseFormats (s : String) : Except Failure (List Render.Format) :=
  if (s.toList.all isUnicodeBlank) then .ok [.svg]
  else (s.splitOn ",").mapM fun n => (Render.Format.parse n).mapError Failure.plain

/-- The strategy names of a comma-separated list; an empty list means all. -/
def parseStrategies (s : String) : Except Failure (List String) :=
  if (s.toList.all isUnicodeBlank) then .ok []
  else (s.splitOn ",").mapM fun n => (Strategy.parse n).map (·.name)

/-- Words shown as a topic: back-quoted when they can be. -/
def topicText (words : List String) : String :=
  let shown (w : String) : String :=
    if w.toList.all (fun c => c != '`' && c != '�' && (c == '\t' || !Screen.isControl c)) then
      "`" ++ w ++ "`"
    else Text.quote w
  "[" ++ " ".intercalate (words.map shown) ++ "]"

namespace Session

/-- `solve`: solves a game with one strategy or all, prints the outcome and
writes the solution as JSON when asked. -/
def solve (s : Session m) (q : Parsed) (path : String) : ExceptT Failure m Unit := do
  let fx := s.effects (← s.openStore (q.switch "no-cache"))
  let a ← s.load fx path
  let results ← if q.switch "all" then do
      let (rs, fault) ← (Pipeline.solveAll fx s.runner s.life a (s.solveOptions q) : m _)
      if let some f := fault then throw f
      pure rs.toList
    else do pure [← s.solveWith fx q a]
  s.p.writeOut (solveReport path a results (if q.switch "full" then 0 else winnersPreview))
  let target := q.text "json"
  if target.isEmpty then return
  let winners := results.head?.bind (·.winners)
  if target == "-" then
    match GameJson.write a winners with
    | .ok text => s.p.writeOut text
    | .error msg => throw (.plain msg)
  else
    orFail (Limits.checkOutputPath target)
    ExceptT.mk (GameFile.writeJson s.p a winners target)
    s.p.writeOut (fileLine target)

/-- `bench`: runs the strategies on every game and prints the tables. -/
def bench (s : Session m) (q : Parsed) (paths : List String) : ExceptT Failure m Unit := do
  let names ← orFail (parseStrategies (q.text "strategies"))
  let policy ← orFail (LockPolicy.parse
    (if q.changed "lock-policy" then q.text "lock-policy" else s.settings.lockPolicy))
  let seed := if q.changed "seed" then q.integer "seed" else s.settings.seed
  let fx := s.effects .none
  let games ← paths.mapM fun path => do
    return ({ name := path, arena := ← s.load fx path } : Benchmark.Game)
  let csv := q.switch "csv"
  let spinning ← if csv then pure false else (s.p.outIsTerminal : m Bool)
  let message := s!"Benchmarking {games.length} games..."
  let repetitions := q.integer "repeat" 1
  let out := Benchmark.run
    { strategies := names, repetitions, seed, policy, cancelled := s.life.failure?.isSome } games
  (out.log.forM s.emit : m Unit)
  if spinning then s.p.writeErr ("\r" ++ Screen.spaces (message.utf8ByteSize + 4) ++ "\r")
  if let some f := out.failure then throw f
  s.emit (Log.info "benchmark finished" [("games", .int games.length), ("elapsed", .duration 0)])
  s.p.writeOut (if csv then benchCsv out.report else benchReport out.report (repetitions > 1))

/-- `render`: draws a game in every format asked for. -/
def render (s : Session m) (q : Parsed) (path : String) : ExceptT Failure m Unit := do
  let formats ← orFail (parseFormats (q.text "format"))
  let output := q.text "output"
  if !output.isEmpty then orFail (Limits.checkOutputPath output)
  let fx := s.effects (← s.openStore (q.switch "no-cache"))
  let a ← s.load fx path
  let res ← if q.switch "unsolved" then pure none else some <$> s.solveWith fx q a
  for f in formats do
    let data ← ExceptT.mk (Pipeline.render fx s.runner a res
      { format := f.name, detailed := q.switch "detailed", measures := q.switch "measures" })
    let target := outputPath path output f (formats.length > 1)
    match ← s.p.writeFile target data with
    | .error e => throw (e.toFailure.context s!"write {target}")
    | .ok () => s.p.writeOut (fileLine target)
  s.emit (Log.info "rendered" [("formats", .int formats.length), ("elapsed", .duration 0)])

/-- `info`: prints the structural summary of a game. -/
def info (s : Session m) (q : Parsed) (path : String) : ExceptT Failure m Unit := do
  let a ← s.load (s.effects .none) path
  let summary := Analysis.summarize .standard a (q.integer "hubs" 5).toNat
  s.p.writeOut (if q.switch "json" then Json.encodeIndented summary.toJson else summaryReport path summary)

/-- Shows the vertex list and reads keys until one quits. -/
def browse (s : Session m) (model : Screen.VertexList) : List String → ExceptT Failure m Unit
  | [] => throw (.plain "program was killed: context deadline exceeded")
  | key :: rest => do
    match model.press key with
    | .error _ => throw (.plain "program was killed: program experienced a panic")
    | .ok (next, quit) =>
      match next.view with
      | .ok frame => s.p.writeOut (frame ++ "\n")
      | .error _ => throw (.plain "program was killed: program experienced a panic")
      if !quit then browse s next rest

/-- `explore`: solves a game and browses its vertices with the keys read
from the input. -/
def explore (s : Session m) (q : Parsed) (path : String) : ExceptT Failure m Unit := do
  let fx := s.effects (← s.openStore (q.switch "no-cache"))
  let a ← s.load fx path
  let res ← s.solveWith fx q a
  let model := Screen.VertexList.new path a res.strategy.name (res.winners.getD #[]) (res.measures.getD #[])
  match model.view with
  | .ok frame => s.p.writeOut (frame ++ "\n")
  | .error _ => throw (.plain "program was killed: program experienced a panic")
  s.browse model (Screen.keysOf (← s.p.readIn))

/-- `serve`: checks the listen address and serves until the run ends. -/
def serve (s : Session m) (q : Parsed) : ExceptT Failure m Unit := do
  let _ ← s.openStore (q.switch "no-cache")
  let addr := if q.changed "addr" then q.text "addr" else s.settings.server.addr
  let addr := if addr.isEmpty then Server.defaultAddr else addr
  s.emit (Log.info "listening" [("addr", .text addr)])
  match Server.addressFault addr with
  | some why => throw (.plain s!"listen tcp: {why}")
  | none => s.emit (Log.info "shutting down")

/-- `cache clear`: empties the store. -/
def cacheClear (s : Session m) : ExceptT Failure m Unit := do
  match ← s.openStore false with
  | .none => pure ()
  | .files c =>
    match ← (monadLift (Cache.FileStore.clear s.p c) : ExceptT Failure m (Except Failure Unit)) with
    | .error f => throw (f.context "clear cache")
    | .ok () => pure ()
  s.p.writeOut (successLine "Cache cleared" ++ detailLine s!"Backend: {s.settings.cache.backend}")

/-- `cache path`: prints the directory of the file cache. -/
def cachePath (s : Session m) : ExceptT Failure m Unit := do
  let dir ← if !s.settings.cache.dir.isEmpty then pure s.settings.cache.dir else do
    match ← s.cacheDir with
    | .ok d => pure d
    | .error e => throw (.plain s!"get cache dir: {e}")
  s.p.writeOut (dir ++ "\n")

/-- `completion`: writes the completion script of a shell. -/
def completion (s : Session m) (shell : String) : ExceptT Failure m Unit :=
  let name := s.tree.name
  s.p.writeOut <| match shell with
    | "bash" => Shell.bashScript s.tree ["completion"]
    | "zsh" => Shell.zshScript name
    | "fish" => Shell.fishScript name
    | _ => Shell.powerShellScript name

/-- `help`: prints the help of the command the words name. -/
def help (s : Session m) (words : List String) : ExceptT Failure m Unit :=
  match s.tree.find words with
  | (_, _, some _) =>
    let text := s!"Unknown help topic {topicText words}\n" ++ s.tree.usageText s.tree.root false
    if s.inv.standalone then s.p.writeErr text else s.p.writeOut text
  | (c, _, none) => s.p.writeOut (s.tree.helpText c)

/-- Records a completion diagnostic where diagnostics go. -/
def diagnose (s : Session m) (message : String) : m Unit := do
  let line := s!"[Debug] [Error] {message}\n"
  match ← s.p.getEnv "BASH_COMP_DEBUG_FILE" with
  | some file =>
    if !file.isEmpty then
      let before := match ← s.p.readFile file with
        | .ok b => some b
        | .error e => if e.notFound then some ByteArray.empty else none
      if let some b := before then
        let _ ← s.p.writeFile file (b ++ line.toUTF8)
  | none => pure ()
  if s.inv.standalone then s.p.writeErr line

/-- `__complete`: answers a completion request. -/
def complete (s : Session m) (words : List String) : ExceptT Failure m Unit := do
  let calledAs := (s.inv.args.find? fun w => w == "__complete" || w == "__completeNoDesc").getD ""
  let answer := s.tree.complete words
  if let some e := answer.error then s.diagnose e
  let setting ← match ← s.p.getEnv (Shell.envPrefix s.tree.name ++ "_COMPLETION_DESCRIPTIONS") with
    | some v => if v.isEmpty then (s.p.getEnv "COBRA_COMPLETION_DESCRIPTIONS" : m _) else pure (some v)
    | none => (s.p.getEnv "COBRA_COMPLETION_DESCRIPTIONS" : m _)
  let wanted := match (setting.getD "").isEmpty, parseBool (setting.getD "") with
    | false, .ok b => b
    | _, _ => true
  s.p.writeOut (answer.output (calledAs != "__completeNoDesc" && wanted))
  s.p.writeErr s!"Completion ended with directive: {directiveText answer.directive}\n"

/-- Runs a command with its flags and arguments. -/
def dispatch (s : Session m) (c : Command) (q : Parsed) : ExceptT Failure m Unit :=
  let first := q.args.headD ""
  match c.path with
  | ["solve"] => s.solve q first
  | ["bench"] => s.bench q q.args
  | ["render"] => s.render q first
  | ["info"] => s.info q first
  | ["explore"] => s.explore q first
  | ["serve"] => s.serve q
  | ["cache", "clear"] => s.cacheClear
  | ["cache", "path"] => s.cachePath
  | ["completion"] => s.completion first
  | ["help"] => s.help q.args
  | ["__complete"] => s.complete q.args
  | _ => pure ()

end Session

/-- Prints an error and returns it. -/
def fail (p : Platform m) (f : Failure) : m (Option Failure) := do
  p.writeErr ("Error: " ++ f.text ++ "\n")
  return some f

/-- Runs a command line on a platform: the error it ends with, if any. -/
def run (p : Platform m) (inv : Invocation) : m (Option Failure) := do
  let t := program inv.standalone
  let (c, rest, unknown) := t.find inv.args
  if let some msg := unknown then
    p.writeErr ("Error: " ++ msg ++ "\n" ++ s!"Run '{t.commandPath c} --help' for usage.\n")
    return some (.plain msg)
  let parsed : Except String Parsed :=
    if c.rawArgs then .ok { args := rest }
    else match parse (t.allFlags c true) rest with
      | .ok q => .ok q
      | .error (.failed msg) => .error msg
      | .error .help => .ok { values := [("help", .switch true)] }
  match parsed with
  | .error msg => fail p (.plain msg)
  | .ok q =>
    if q.switch "help" then
      p.writeOut (t.helpText c)
      return none
    if c.path.isEmpty && !t.version.isEmpty && q.switch "version" then
      p.writeOut (BuildInfo.current.versionText t.name)
      return none
    if !c.runnable then
      p.writeOut (t.helpText c)
      return none
    match t.checkArgs c q.args with
    | .error msg => fail p (.plain msg)
    | .ok () =>
      let (settings, fault) ← Settings.load p (q.text "config")
      if let some f := fault then return ← fail p f
      let level : Log.Level := if inv.debug || q.switch "verbose" then .debug else .info
      let s : Session m := { p, inv, tree := t, level, settings, converter := ← p.converter }
      match ← (s.dispatch c q).run with
      | .ok () => return none
      | .error f => fail p f

/-- Runs the program as a process does and gives its exit status: `0` on
success, `130` when it was interrupted, else `1` after writing the failure
once more on the error stream. -/
def exitStatus (p : Platform m) (inv : Invocation) : m UInt32 := do
  match ← run p inv with
  | none => return 0
  | some f =>
    if f.has .canceled then return 130
    p.writeErr (f.text ++ "\n")
    return 1

theorem outputPath_multi : outputPath "g.gm.gz" "" .svg false = "g.svg" := by decide +kernel

end Cli

end ParityGames
