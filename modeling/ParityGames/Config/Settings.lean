import ParityGames.Config.TomlDocument
import ParityGames.System.Platform
import ParityGames.System.Path
import ParityGames.Solver.Strategy
import ParityGames.Text.Duration
import ParityGames.Json.Decode

/-!
# Settings

The program's defaults come from an optional TOML file:

    strategy    = "recursive"
    seed        = 42
    lock_policy = "safe"

    [cache]
    backend    = "file"       # file | redis | none
    ttl        = "168h"
    redis_addr = "localhost:6379"

    [server]
    addr         = ":8080"
    max_priority = 4096

A key names a field exactly or, failing that, ignoring case.  A value of the
wrong type stops the reading, keeping the fields read before it; a duration
is written as text such as `90s` (a number, boolean or date is read as its
text).  Keys that name no field are refused afterwards, all at once, in the
order they appear.  Finally the names and ranges are checked.

The file is `config.toml` in `$XDG_CONFIG_HOME/papg`, or in
`$HOME/.config/papg`; that default file may be absent, but a file named
explicitly must exist.
-/

namespace ParityGames

/-- The settings of the solution cache. -/
structure CacheSettings where
  backend : String := "file"
  dir : String := ""
  /-- How long entries are kept, in nanoseconds. -/
  ttl : Int := 168 * 3600 * 1000000000
  redisAddr : String := "localhost:6379"
  redisPassword : String := ""
  redisDb : Int := 0
  /-- A prefix for every key, separating deployments that share a store. -/
  scope : String := ""
  deriving Repr, DecidableEq

/-- The settings of the HTTP server. -/
structure ServerSettings where
  addr : String := ":8080"
  maxBodyBytes : Int := 8388608
  maxVertices : Int := 0
  maxPriority : Int := 4096
  maxMeasureCells : Int := 33554432
  /-- The time a solve may take, in nanoseconds; zero means no limit. -/
  timeout : Int := 0
  deriving Repr, DecidableEq

/-- The program's settings. -/
structure Settings where
  strategy : String := "recursive"
  seed : Int := 0
  lockPolicy : String := "safe"
  cache : CacheSettings := {}
  server : ServerSettings := {}
  deriving Repr, DecidableEq

namespace Settings

/-- The program's name, which names its directories. -/
def appName : String := "papg"

/-- Checks names and ranges. -/
def validate (c : Settings) : Except Failure Unit := do
  let _ ← Strategy.parse c.strategy
  let _ ← LockPolicy.parse c.lockPolicy
  if !(["file", "redis", "none"].contains c.cache.backend) then
    throw (Failure.coded ErrorCode.invalidConfig
      s!"unknown cache backend {Text.quote c.cache.backend} (want file, redis or none)")
  if c.server.maxVertices < 0 then
    throw (Failure.coded ErrorCode.invalidConfig "server max_vertices must not be negative")
  if c.server.maxPriority < 0 then
    throw (Failure.coded ErrorCode.invalidConfig "server max_priority must not be negative")
  if c.server.maxMeasureCells < 0 then
    throw (Failure.coded ErrorCode.invalidConfig "server max_measure_cells must not be negative")
  if c.cache.ttl < 0 then
    throw (Failure.coded ErrorCode.invalidConfig "cache ttl must not be negative")

/-- The settings as JSON, with the keys of the file and durations as
text such as `168h0m0s`. -/
def toJson (c : Settings) : Json :=
  .obj [("strategy", .str c.strategy), ("seed", .int c.seed), ("lock_policy", .str c.lockPolicy),
    ("cache", .obj [("backend", .str c.cache.backend), ("dir", .str c.cache.dir),
      ("ttl", .str (Text.durationText c.cache.ttl)), ("redis_addr", .str c.cache.redisAddr),
      ("redis_password", .str c.cache.redisPassword), ("redis_db", .int c.cache.redisDb),
      ("namespace", .str c.cache.scope)]),
    ("server", .obj [("addr", .str c.server.addr), ("max_body_bytes", .int c.server.maxBodyBytes),
      ("max_vertices", .int c.server.maxVertices), ("max_priority", .int c.server.maxPriority),
      ("max_measure_cells", .int c.server.maxMeasureCells),
      ("timeout", .str (Text.durationText c.server.timeout))])]

/-- The name of the type a TOML value is held in, as messages show it. -/
def heldType : Toml.Value → String
  | .str _ => "string"
  | .int _ => "int64"
  | .float _ => "float64"
  | .bool _ => "bool"
  | .datetime _ => "time.Time"
  | .array _ => "[]interface {}"
  | .table _ => "map[string]interface {}"
  | .tables _ => "[]map[string]interface {}"

/-- Decimal text with exactly six digits after the point, rounded half to
even, from a float's text. -/
def fixed6 (text : String) : String :=
  let (neg, body) := match text.toList with
    | '-' :: r => (true, r)
    | '+' :: r => (false, r)
    | r => (false, r)
  let sign := if neg then "-" else ""
  if body == ['n', 'a', 'n'] then "NaN"
  else if body == ['i', 'n', 'f'] then (if neg then "-Inf" else "+Inf")
  else
    let mantissa := body.takeWhile fun c => c != 'e' && c != 'E'
    let expo := body.drop (mantissa.length + 1)
    let e : Int := match expo with
      | '-' :: d => -((Text.digitsValue d).getD 0 : Int)
      | '+' :: d => (Text.digitsValue d).getD 0
      | d => (Text.digitsValue d).getD 0
    let whole := mantissa.takeWhile (· != '.')
    let frac := (mantissa.drop (whole.length + 1))
    let digits := whole ++ frac
    let n := (Text.digitsValue digits).getD 0
    -- the value is n * 10^(e - frac.length); scale it to millionths
    let shift : Int := e - frac.length + 6
    let (q, r, d) : Nat × Nat × Nat :=
      if shift ≥ 0 then (n * Nat.pow 10 shift.toNat, 0, 1)
      else (n / Nat.pow 10 (-shift).toNat, n % Nat.pow 10 (-shift).toNat, Nat.pow 10 (-shift).toNat)
    let q := if 2 * r > d || (2 * r == d && q % 2 == 1) then q + 1 else q
    let ds := (toString q).toList
    let ds := List.replicate (7 - min 7 ds.length) '0' ++ ds
    sign ++ String.ofList (ds.take (ds.length - 6)) ++ "." ++ String.ofList (ds.drop (ds.length - 6))

/-- The reading of a document into settings: the settings so far and the
keys read, kept when the reading stops. -/
abbrev Reading := ExceptT Failure (StateM (Settings × List String))

/-- The failure of a value at a key, with the key's line when known. -/
def keyFailure (doc : Toml.Document) (ctx : List String) (msg : String) : Failure :=
  let k := Toml.keyText ctx
  if ctx.isEmpty then .plain ("toml: " ++ msg)
  else match doc.lineOf ctx with
    | some l => .plain s!"toml: line {l} (last key {Text.quote k}): {msg}"
    | none => .plain s!"toml: (last key {Text.quote k}): {msg}"

/-- A value of the wrong type. -/
def badType (doc : Toml.Document) (ctx : List String) (dst : String) (v : Toml.Value) : Failure :=
  keyFailure doc ctx s!"incompatible types: TOML value has type {heldType v}; destination has type {dst}"

/-- Reads text. -/
def readText (doc : Toml.Document) (ctx : List String) (v : Toml.Value) : Reading String :=
  match v with
  | .str s => pure s
  | _ => throw (badType doc ctx "string" v)

/-- Reads an integer. -/
def readInt (doc : Toml.Document) (ctx : List String) (v : Toml.Value) : Reading Int :=
  match v with
  | .int n => pure n
  | _ => throw (badType doc ctx "integer" v)

/-- Reads a duration from the text of a value. -/
def readDuration (doc : Toml.Document) (ctx : List String) (v : Toml.Value) : Reading Int := do
  let text ← match v with
    | .str s => pure s
    | .bool b => pure (if b then "true" else "false")
    | .int n => pure (toString n)
    | .float t => pure (fixed6 t)
    | .datetime shown => pure shown
    | _ => throw (badType doc ctx "primitive (string-like)" v)
  match Text.parseDuration text with
  | .ok d => pure d
  | .error m =>
    let line := (doc.lineOf ctx).getD 0
    throw (.marked (Toml.Fault.text { line, lastKey := Toml.keyText ctx, message := m }) .tomlSyntax)

/-- Records a key as read. -/
def markRead (ctx : List String) : Reading Unit :=
  modify fun (s, ks) => (s, Toml.keyText ctx :: ks)

/-- The entries of a table value, or the failure of a value that is not a
table. -/
def tableEntries (doc : Toml.Document) (ctx : List String) (typeName : String) (v : Toml.Value) :
    Reading (List (String × Toml.Value)) :=
  match v with
  | .table es => pure es
  | _ => throw (keyFailure doc ctx s!"type mismatch for {typeName}: expected table but found {heldType v}")

/-- Reads the cache table. -/
def readCache (doc : Toml.Document) (v : Toml.Value) : Reading Unit := do
  let fields := ["backend", "dir", "ttl", "redis_addr", "redis_password", "redis_db", "namespace"]
  for (key, val) in ← tableEntries doc ["cache"] "cli.CacheConfig" v do
    match Json.fieldOf fields key with
    | none => pure ()
    | some f =>
      let ctx := ["cache", key]
      markRead ctx
      let c := (← get).1.cache
      let c ← match f with
        | "backend" => pure { c with backend := ← readText doc ctx val }
        | "dir" => pure { c with dir := ← readText doc ctx val }
        | "ttl" => pure { c with ttl := ← readDuration doc ctx val }
        | "redis_addr" => pure { c with redisAddr := ← readText doc ctx val }
        | "redis_password" => pure { c with redisPassword := ← readText doc ctx val }
        | "redis_db" => pure { c with redisDb := ← readInt doc ctx val }
        | _ => pure { c with scope := ← readText doc ctx val }
      modify fun (s, ks) => ({ s with cache := c }, ks)

/-- Reads the server table. -/
def readServer (doc : Toml.Document) (v : Toml.Value) : Reading Unit := do
  let fields := ["addr", "max_body_bytes", "max_vertices", "max_priority", "max_measure_cells", "timeout"]
  for (key, val) in ← tableEntries doc ["server"] "cli.ServerConfig" v do
    match Json.fieldOf fields key with
    | none => pure ()
    | some f =>
      let ctx := ["server", key]
      markRead ctx
      let c := (← get).1.server
      let c ← match f with
        | "addr" => pure { c with addr := ← readText doc ctx val }
        | "max_body_bytes" => pure { c with maxBodyBytes := ← readInt doc ctx val }
        | "max_vertices" => pure { c with maxVertices := ← readInt doc ctx val }
        | "max_priority" => pure { c with maxPriority := ← readInt doc ctx val }
        | "max_measure_cells" => pure { c with maxMeasureCells := ← readInt doc ctx val }
        | _ => pure { c with timeout := ← readDuration doc ctx val }
      modify fun (s, ks) => ({ s with server := c }, ks)

/-- Reads a document into settings. -/
def readDocument (doc : Toml.Document) : Reading Unit := do
  let fields := ["strategy", "seed", "lock_policy", "cache", "server"]
  for (key, val) in doc.root do
    match Json.fieldOf fields key with
    | none => pure ()
    | some f =>
      let ctx := [key]
      markRead ctx
      match f with
      | "strategy" =>
        let t ← readText doc ctx val
        modify fun (s, ks) => ({ s with strategy := t }, ks)
      | "seed" =>
        let n ← readInt doc ctx val
        modify fun (s, ks) => ({ s with seed := n }, ks)
      | "lock_policy" =>
        let t ← readText doc ctx val
        modify fun (s, ks) => ({ s with lockPolicy := t }, ks)
      | "cache" => readCache doc val
      | _ => readServer doc val

/-- Why TOML text could not be read into settings. -/
inductive ReadFault where
  /-- The text is not TOML, or a value has the wrong type. -/
  | invalid (f : Failure)
  /-- Keys that name no setting, in the order they appear. -/
  | unknownKeys (keys : List String)

/-- Reads TOML text over the defaults: the settings read (so far, on a
failure) and the failure, if any. -/
def ofText (text : String) : Settings × Option ReadFault :=
  match Toml.parse text with
  | .error f => ({}, some (.invalid (.marked f.text .tomlSyntax)))
  | .ok doc =>
    let (r, (s, read)) := (readDocument doc).run.run ({}, [])
    match r with
    | .error f => (s, some (.invalid f))
    | .ok () =>
      let unknown := doc.ordered.filter fun k => !read.contains (Toml.keyText k)
      if unknown.isEmpty then (s, none) else (s, some (.unknownKeys (unknown.map Toml.keyText)))

variable {m : Type → Type} [Monad m]

/-- The directory of the settings file: `$XDG_CONFIG_HOME/papg`, or
`$HOME/.config/papg`. -/
def configDir (p : Platform m) : m (Option String) := do
  match ← p.getEnv "XDG_CONFIG_HOME" with
  | some d => if !d.isEmpty then return some (Path.join [d, appName]) else pure ()
  | none => pure ()
  match ← p.getEnv "HOME" with
  | some h => if h.isEmpty then return none else return some (Path.join [h, ".config", appName])
  | none => return none

/-- Loads the settings file at a path, or at the default place when the
path is empty: the settings (as far as they were read) and the failure, if
any. -/
def load (p : Platform m) (path : String) : m (Settings × Option Failure) := do
  let explicit := !path.isEmpty
  let path ← if explicit then pure (some path) else do
    match ← configDir p with
    | some d => pure (some (Path.join [d, "config.toml"]))
    | none => pure none
  match path with
  | none => return ({}, none)
  | some path =>
    match ← p.readFile path with
    | .error e =>
      if e.notFound then
        if explicit then
          return ({}, some (Failure.wrapCoded ErrorCode.fileNotFound e.toFailure s!"config {path}"))
        else return ({}, none)
      else return ({}, some (Failure.wrapCoded ErrorCode.invalidConfig e.toFailure s!"config {path}"))
    | .ok bytes =>
      let text := String.fromUTF8? bytes |>.getD ""
      match ofText text with
      | (s, none) =>
        match s.validate with
        | .ok () => return (s, none)
        | .error f => return (s, some (f.context s!"config {path}"))
      | (s, some (.invalid f)) =>
        return (s, some (Failure.wrapCoded ErrorCode.invalidConfig f s!"config {path}"))
      | (s, some (.unknownKeys ks)) =>
        let listed := ", ".intercalate ks
        return (s, some (Failure.coded ErrorCode.invalidConfig s!"config {path}: unknown keys: {listed}"))

theorem fixed6_half : fixed6 "1.5" = "1.500000" := by decide +kernel

end Settings

end ParityGames
