import ParityGames.Cache.File
import ParityGames.Cache.Redis
import ParityGames.Pipeline.Load
import ParityGames.Pipeline.Memory
import ParityGames.Format.GameFile
import ParityGames.Transcript.Workspace

/-!
# Scripted sessions with stores and game files

A script is a list of calls on one machine.  Each call is recorded, in
order, with its failure (masked) and what it gave back:

* on a file store: reads (a hit and the data), writes, removals, clearing,
  and the things that happen to a store from outside: an entry overwritten,
  time passing, the directory removed or replaced by a file.  Each record
  also counts the files below the store's directory;
* on game files: reading in the format the name implies or in a given one,
  loading through the pipeline, and writing in either format;
* on a Redis store: opening one, and reads, writes and removals on the open
  one.  A call that needs an open store when none is open is refused.
-/

namespace ParityGames

namespace Transcript

/-- The record of a call's failure: its masked text, or null. -/
def failureJson (root : String) : Option Failure → Json
  | some f => .str (errorText root f)
  | none => .null

/-- The failure of an outcome, if any. -/
def failureOf {α : Type} : Except Failure α → Option Failure
  | .error f => some f
  | .ok _ => none

/-- One call on a file store. -/
inductive StoreCall where
  | get (key : String) (cancelled : Bool)
  | set (key data : String) (ttlMs : Nat)
  | setCancelled (key : String)
  | delete (key : String)
  | clear
  /-- A call that changes nothing, such as closing the store. -/
  | close
  | dir
  /-- Overwrites the file of an entry. -/
  | corrupt (key data : String)
  | sleep (ms : Nat)
  | removeDir
  | replaceWithFile
  deriving Repr

/-- Runs one call on a file store, from the workspace directory `root`. -/
def StoreCall.run (root : String) (c : Cache.FileStore) : StoreCall → StateM Machine (List (String × Json))
  | .get key cancelled => do
    let r ← Cache.FileStore.get Machine.platform c (.ofCancelled cancelled) key
    let found := match r with | .ok (some d) => some d | _ => none
    return [("error", failureJson root (failureOf r)), ("hit", .bool found.isSome),
      ("data", .str (Pipeline.bytesText (found.getD .empty)))]
  | .set key data ttlMs => do
    let r ← Cache.FileStore.set Machine.platform c .live key data.toUTF8 (ttlMs * 1000000)
    return [("error", failureJson root (failureOf r))]
  | .setCancelled key => do
    let r ← Cache.FileStore.set Machine.platform c .canceled key "x".toUTF8 0
    return [("error", failureJson root (failureOf r))]
  | .delete key => do
    let r ← Cache.FileStore.delete Machine.platform c key
    return [("error", failureJson root (failureOf r))]
  | .clear => do
    let r ← Cache.FileStore.clear Machine.platform c
    return [("error", failureJson root (failureOf r))]
  | .close => return [("error", .null)]
  | .dir => return [("error", .null), ("dir", .str (mask root c.dir))]
  | .corrupt key data => do
    discard <| Machine.platform.writeFile (c.entryPath key) data.toUTF8
    return [("error", .null)]
  | .sleep ms => do
    Machine.platform.sleep (ms * 1000000)
    return [("error", .null)]
  | .removeDir => do
    discard <| Machine.platform.removeAll c.dir
    return [("error", .null)]
  | .replaceWithFile => do
    discard <| Machine.platform.removeAll c.dir
    discard <| Machine.platform.writeFile c.dir "x".toUTF8
    return [("error", .null)]

/-- Opens a file store in a directory of a workspace machine and runs
calls on it: the record of each call with the number of files below the
directory after it. -/
def storeScript (root dir : String) (m : Machine) (calls : List StoreCall) : Except Failure Json :=
  match (Cache.FileStore.create Machine.platform dir).run m with
  | (.error f, _) => .error f
  | (.ok c, m) =>
    let entries (m : Machine) : Json := .nat (m.files.filesBelow (Path.absolute m.cwd dir)).length
    let (records, _) := (calls.mapM fun (call : StoreCall) => do
      let r ← call.run root c
      return Json.obj (r ++ [("entries", entries (← get))])).run m
    .ok (.obj [("steps", .arr records)])

/-- One call on game files. -/
inductive FileCall where
  /-- Reads a game in the format its name implies, decompressing `.gz`. -/
  | importFile (path : String)
  | importAs (format : GameFormat) (path : String)
  | load (path : String) (cancelled : Bool)
  /-- Writes a game (or fails as building it failed) in PGSolver format. -/
  | exportPGSolver (game : Except Failure Arena) (path : String)
  | exportJson (game : Except Failure Arena) (winners : Option (Array Player)) (path : String)

/-- The record of a read: the game in PGSolver format, or the failure. -/
def readRecord (root : String) (encode : Failure → Json) : Except Failure Arena → List (String × Json)
  | .ok a => [("pgsolver", .str (PGSolver.write a))]
  | .error f => [("error", encode { f with text := mask root f.text })]

/-- Runs one call on game files; `encode` writes a failure. -/
def FileCall.run (root : String) (encode : Failure → Json) : FileCall → StateM Machine (List (String × Json))
  | .importFile path => readRecord root encode <$> GameFile.read Machine.platform path
  | .importAs f path => readRecord root encode <$> GameFile.readAs Machine.platform f path
  | .load path cancelled =>
    readRecord root encode <$>
      Pipeline.load Machine.platform (Pipeline.Effects.silent .missing) (.ofCancelled cancelled) path
  | .exportPGSolver game path => written path (game.map fun a => GameFile.writePGSolver Machine.platform a path)
  | .exportJson game winners path =>
    written path (game.map fun a => GameFile.writeJson Machine.platform a winners path)
where
  /-- The record of a write: the file's text afterwards, or the failure. -/
  written (path : String) (w : Except Failure (StateM Machine (Except Failure Unit))) :
      StateM Machine (List (String × Json)) := do
    let r ← match w with
      | .ok act => act
      | .error f => pure (.error f)
    match r with
    | .ok () =>
      let text := match ← Machine.platform.readFile path with
        | .ok d => Pipeline.bytesText d
        | .error _ => ""
      return [("written", .str text)]
    | .error f => return readRecord root encode (.error f)

/-- Runs calls on game files: the record of each. -/
def fileScript (root : String) (encode : Failure → Json) (m : Machine) (calls : List FileCall) : Json :=
  .obj [("steps", .arr (Id.run ((calls.mapM fun (c : FileCall) => Json.obj <$> c.run root encode).run m)).1)]

/-- One call on a Redis store. -/
inductive RedisCall where
  | open (password : String) (db : Int) (keyPrefix : String)
  | openClient (keyPrefix : String)
  | get (key : String)
  | set (key data : String) (ttlMs : Nat)
  | delete (key : String)
  | clear
  | close

/-- The record of a call on a Redis store: its failure's text and whether
it was a network failure and worth retrying. -/
def redisRecord : Option Failure → List (String × Json)
  | some f => [("error", .str f.text), ("network", .bool (f.has .network)),
      ("retryable", .bool (f.has .retryable))]
  | none => [("error", .null)]

/-- Runs one call with the store opened so far at a server address: the
record and the open store after, or the refusal of a call that needs an
open store when none is. -/
def RedisCall.run (addr : String) (store : Option Cache.RedisClient) :
    RedisCall → StateM Machine (Except String (List (String × Json) × Option Cache.RedisClient))
  | .open password db keyPrefix => pure <| .ok <|
    match Cache.RedisClient.connect addr password db keyPrefix with
    | .ok c => (redisRecord none, some c)
    | .error f => (redisRecord (some f), store)
  | .openClient keyPrefix => pure (.ok (redisRecord none, some (.ofClient addr keyPrefix)))
  | .get key => withOpen fun c => do
    match ← c.get Machine.platform .live key with
    | .ok v => return (redisRecord none ++ [("hit", .bool v.isSome),
        ("data", .str (Pipeline.bytesText (v.getD .empty)))], store)
    | .error f => return (redisRecord (some f), store)
  | .set key data ttlMs => withOpen fun c => do
    let r ← c.set Machine.platform .live key data.toUTF8 (ttlMs * 1000000)
    return (redisRecord (failureOf r), store)
  | .delete key => withOpen fun c => do
    let r ← c.delete Machine.platform .live key
    return (redisRecord (failureOf r), store)
  | .clear => withOpen fun c => pure (redisRecord (failureOf c.clear), store)
  | .close => withOpen fun c => pure (redisRecord c.close.1, some c.close.2)
where
  /-- Runs an action on the open store, or refuses. -/
  withOpen (act : Cache.RedisClient → StateM Machine (List (String × Json) × Option Cache.RedisClient)) :
      StateM Machine (Except String (List (String × Json) × Option Cache.RedisClient)) :=
    match store with
    | some c => .ok <$> act c
    | none => pure (.error "no redis cache open")

theorem failureJson_none (root : String) : failureJson root none = .null := rfl

end Transcript

end ParityGames
