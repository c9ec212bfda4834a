import ParityGames.Pipeline.Options
import ParityGames.Pipeline.Entry
import ParityGames.Solver.Run
import ParityGames.Format.Game
import ParityGames.Render.Convert
import ParityGames.Observe.Hooks
import ParityGames.Log.Record
import ParityGames.Lifetime

/-!
# Solving and rendering with a cache

A runner solves games and draws them, keeping solutions and drawings in a
store under keys made from the game's hash and the options.  A solve first
resolves its options, then looks for a stored solution (unless asked to
refresh): an entry that cannot be read or has the wrong number of winners
counts as a miss.  Otherwise it runs the solver, unless the request was
cancelled or past its deadline, and stores the new solution; a failed write is only logged.
Solving with every strategy stops at the first failure, naming the
strategy.

A drawing is looked up the same way; a drawing of an unsolved game has its
own key, and its measures flag is ignored.

The runner is written against the effects it needs from the world, so that
the same code serves an in-memory store, files on disk or no store at all.
-/

namespace ParityGames

namespace Pipeline

/-- What a runner needs from the world. -/
structure Effects (m : Type → Type) where
  /-- Reads a stored value: `none` on a miss, or the text of a failure. -/
  cacheGet : String → m (Except String (Option ByteArray))
  /-- Stores a value for a time in nanoseconds. -/
  cacheSet : String → ByteArray → Nat → m (Except String Unit)
  /-- The runner's log. -/
  log : Log.Record → m Unit
  /-- Where the solver's records go. -/
  solverLog : Log.Record → m Unit
  /-- Instrumentation events. -/
  event : Observe.Event → m Unit
  /-- The converter that makes PDF. -/
  converter : Render.Converter

/-- How a runner names and keeps entries. -/
structure Runner where
  keyer : Cache.Keyer := .standard
  /-- How long entries are kept, in nanoseconds; zero means a week. -/
  ttl : Nat := 0
  deriving Repr, Inhabited

/-- A week in nanoseconds, the default time entries are kept. -/
def defaultTtl : Nat := 7 * 24 * 3600 * 1000000000

/-- How long a runner keeps entries. -/
def Runner.keep (r : Runner) : Nat := if r.ttl > 0 then r.ttl else defaultTtl

/-- The outcome of one solve. -/
structure Result where
  strategy : Strategy
  winners : Option (Array Player)
  measures : Option (Array String)
  stats : Counts
  /-- The solve time in nanoseconds. -/
  duration : Int
  gameHash : String
  cacheHit : Bool
  deriving Repr

/-- The vertices a result gives to a player. -/
def Result.wonBy (r : Result) (p : Player) : List Nat :=
  ((r.winners.getD #[]).toList.zipIdx.filter fun (w, _) => w.code == p.code).map (·.2)

/-- The content hash of a game: the SHA-256 of its canonical PGSolver text. -/
def gameHash (a : Arena) : String := Sha256.hashText (PGSolver.write a)

/-- The text of stored bytes. -/
def bytesText (b : ByteArray) : String := String.fromUTF8? b |>.getD ""

variable {m : Type → Type} [Monad m]

/-- Stores a value, logging a failed write. -/
def store (fx : Effects m) (r : Runner) (kind key : String) (data : ByteArray) : m Unit := do
  match ← fx.cacheSet key data r.keep with
  | .error e =>
    fx.log (Log.warn "cache write failed" [("kind", .text kind), ("key", .text key), ("err", .text e)])
  | .ok _ => fx.event (.cacheSet kind data.size)

/-- Looks up a stored solution of a game of `size` vertices. -/
def cachedResult (fx : Effects m) (key : String) (size : Nat) : m (Option Entry) := do
  match ← fx.cacheGet key with
  | .error e =>
    fx.log (Log.warn "cache read failed" [("err", .text e)])
    fx.event (.cacheMiss "solution")
    return none
  | .ok none =>
    fx.event (.cacheMiss "solution")
    return none
  | .ok (some data) =>
    match Entry.read (bytesText data) with
    | .ok e =>
      if (e.winners.map (·.size)).getD 0 == size then
        fx.event (.cacheHit "solution")
        return some e
      else
        fx.event (.cacheMiss "solution")
        return none
    | .error _ =>
      fx.event (.cacheMiss "solution")
      return none

/-- Runs the solver without the store. -/
def solveFresh (fx : Effects m) (a : Arena) (s : Settings) : m Result := do
  fx.event (.solveStart s.strategy.name a.size)
  let solver := Solver.new a (Solver.generatorFor s.seed) s.policy
  let (winners, solver, records) := solver.solve s.strategy
  records.forM fx.solverLog
  fx.event (.solveComplete s.strategy.name solver.stats.lifts 0 none)
  let measures := (Array.range a.size).map fun v => (solver.measure v).render
  let st := solver.stats
  return { strategy := s.strategy, winners := some winners, measures := some measures,
           stats := { lifts := st.lifts, maxRecursionDepth := st.maxRecursionDepth,
                      locked := st.locked },
           duration := 0, gameHash := "", cacheHit := false }

/-- Solves a game with one strategy, using the store. -/
def solve (fx : Effects m) (r : Runner) (life : Lifetime) (a : Arena) (o : Options) :
    m (Except Failure Result) := do
  match o.resolve with
  | .error f => return .error f
  | .ok s =>
    let hash := gameHash a
    let key := r.keyer.solutionKey hash s.keyOpts
    let stored ← if s.refresh then pure none else cachedResult fx key a.size
    match stored with
    | some e =>
      fx.log (Log.debug "solution from cache" [("strategy", .text s.strategy.name), ("key", .text key)])
      return .ok { strategy := s.strategy, winners := e.winners, measures := e.measures,
                   stats := e.stats, duration := e.durationUs * 1000, gameHash := hash,
                   cacheHit := true }
    | none =>
      if let some f := life.failure? then return .error f
      let res ← solveFresh fx a s
      let entry : Entry := { winners := res.winners, measures := res.measures, stats := res.stats,
                             durationUs := res.duration / 1000 }
      store fx r "solution" key (Json.compact true entry.toJson).toUTF8
      return .ok { res with gameHash := hash }

/-- Solves with every strategy in order, for at most the remaining
strategies; the first failure stops, naming its strategy. -/
def solveEach (fx : Effects m) (r : Runner) (life : Lifetime) (a : Arena) (o : Options) :
    List Strategy → Array Result → m (Array Result × Option Failure)
  | [], acc => return (acc, none)
  | st :: rest, acc => do
    match ← solve fx r life a { o with strategy := st.name } with
    | .error f => return (acc, some (f.context st.name))
    | .ok res => solveEach fx r life a o rest (acc.push res)

/-- Solves with every strategy. -/
def solveAll (fx : Effects m) (r : Runner) (life : Lifetime) (a : Arena) (o : Options) :
    m (Array Result × Option Failure) :=
  solveEach fx r life a o Strategy.all #[]

/-- Draws a game without the store; the options are already resolved. -/
def renderUncached (fx : Effects m) (a : Arena) (res : Option Result) (rs : RenderSettings) :
    m (Except Failure ByteArray) := do
  let name := rs.format.name
  fx.event (.renderStart name)
  let opts : Render.DotOptions := match res with
    | some r => { detailed := rs.detailed, winners := r.winners.getD #[],
                  measures := if rs.measures then r.measures.getD #[] else #[] }
    | none => { detailed := rs.detailed }
  let dot := Render.toDot a opts
  let data : Except Failure ByteArray := match rs.format with
    | .dot => .ok dot.toUTF8
    | .svg => Render.renderSvg dot
    | .png => Render.renderPng dot
    | .pdf => Render.renderPdf fx.converter dot
  match data with
  | .ok d =>
    fx.event (.renderComplete name 0 none)
    return .ok d
  | .error f =>
    fx.event (.renderComplete name 0 (some f.text))
    return .error (f.context s!"render {name}")

/-- Draws a game, using the store; `none` draws it unsolved. -/
def renderWith (fx : Effects m) (r : Runner) (a : Arena) (res : Option Result)
    (rs : RenderSettings) : m (Except Failure ByteArray) := do
  let hash := gameHash a
  let (hash, keyOpts) := match res with
    | some _ => (hash, rs.keyOpts)
    | none => ("unsolved:" ++ hash, { rs.keyOpts with measures := false })
  let key := r.keyer.renderKey hash keyOpts
  match ← fx.cacheGet key with
  | .ok (some data) =>
    fx.event (.cacheHit "render")
    return .ok data
  | _ =>
    fx.event (.cacheMiss "render")
    match ← renderUncached fx a res rs with
    | .error f => return .error f
    | .ok data =>
      store fx r "render" key data
      return .ok data

/-- Validates the options and draws a game, using the store. -/
def render (fx : Effects m) (r : Runner) (a : Arena) (res : Option Result) (ro : RenderOptions) :
    m (Except Failure ByteArray) := do
  match ro.validate with
  | .error f => return .error f
  | .ok rs => renderWith fx r a res rs

/-- Reads a game in a named format (anything but `json` reads as PGSolver). -/
def decode (fx : Effects m) (format : String) (text : String) : m (Except Failure Arena) := do
  fx.event (.loadStart format)
  let f := if format == "json" then GameFormat.json else GameFormat.pgsolver
  match f.read text with
  | .error e =>
    fx.event (.loadComplete format 0 0 (some e.text))
    return .error (Failure.wrapCoded ErrorCode.invalidGame e s!"decode {format} game")
  | .ok a =>
    fx.event (.loadComplete format a.size 0 none)
    return .ok a

end Pipeline

end ParityGames
