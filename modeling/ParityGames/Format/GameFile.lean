import ParityGames.Format.Game
import ParityGames.Compress.Gzip
import ParityGames.System.Platform

/-!
# Game files

A game file is read in the format its name implies (see `GameFormat.detect`);
a name ending in `.gz`, ignoring case, is gunzipped first.  The failures
name the step that failed:

* `open <path>: …` when the file cannot be opened, marked as missing when it
  does not exist;
* `gunzip <path>: …` when the gzip header cannot be read;
* `<path>: …` when the content is not a game.  A failure to read the content
  (the path is a directory, or the compressed data is corrupt) surfaces
  there too, after the complete lines already read in PGSolver format
  (`read: …`) or at once in JSON (`decode: …`).

Writing a game creates or truncates the file; a failure to create it is
`create <path>: …`.
-/

namespace ParityGames

namespace GameFile

/-- The text of bytes read as UTF-8, a stray byte shown as the replacement
character. -/
def bytesText (b : ByteArray) : String :=
  match String.fromUTF8? b with
  | some s => s
  | none => String.ofList ((Text.decode b.toList).map Text.Piece.shown)

/-- The complete lines of a text: everything up to its last newline. -/
def completeLines (s : String) : String :=
  match (s.splitOn "\n").dropLast with
  | [] => ""
  | ls => "\n".intercalate ls ++ "\n"

/-- Reads a game whose content could only be read in part: `text` is what
was read and `fault` the text of the failure that stopped the reading. -/
def readPartial (f : GameFormat) (text : String) (fault : Option String) :
    Except Failure Arena :=
  match fault with
  | none => f.read text
  | some e =>
    match f with
    | .json => .error (.plain ("decode: " ++ e))
    | .pgsolver =>
      match PGSolver.scanLines (PGSolver.lines (completeLines text)) with
      | .error r => .error r.toFailure
      | .ok _ => .error (.plain ("read: " ++ e))

/-- Whether a file name asks for gunzipping. -/
def isGzip (path : String) : Bool := (path.map Char.toLower).endsWith ".gz"

variable {m : Type → Type} [Monad m]

/-- Reads a game file. -/
def read (p : Platform m) (path : String) : m (Except Failure Arena) := do
  let format := GameFormat.detect path
  let content ← p.readFile path
  let (data, fault) ← match content with
    | .error e =>
      if e.op == "open" then return .error (e.toFailure.context s!"open {path}")
      else pure (ByteArray.empty, some e.message)
    | .ok d => pure (d, none)
  let (data, fault) ← if !isGzip path then pure (data, fault)
    else match fault with
      | some e => return .error (.plain s!"gunzip {path}: {e}")
      | none =>
        match Gzip.open_ data with
        | .error f => return .error (.plain s!"gunzip {path}: {f.message}")
        | .ok start =>
          let (out, f) := Gzip.decompress data start
          pure (out, f.map Gzip.Fault.message)
  return (readPartial format (bytesText data) fault).mapError (·.context path)

/-- Reads a game file in a given format, without decompressing it; a
failure of the reading itself does not name the path. -/
def readAs (p : Platform m) (f : GameFormat) (path : String) : m (Except Failure Arena) := do
  match ← p.readFile path with
  | .error e =>
    if e.op == "open" then return .error (e.toFailure.context s!"open {path}")
    else return readPartial f "" (some e.message)
  | .ok d => return f.read (bytesText d)

/-- Writes text to a new file. -/
def create (p : Platform m) (path : String) (text : String) : m (Except Failure Unit) := do
  match ← p.writeFile path text.toUTF8 with
  | .ok _ => return .ok ()
  | .error e => return .error (e.toFailure.context s!"create {path}")

/-- Writes a game in PGSolver format. -/
def writePGSolver (p : Platform m) (a : Arena) (path : String) : m (Except Failure Unit) :=
  create p path (PGSolver.write a)

/-- Writes a game in JSON, with one winner per vertex when winners are
given.  The file is created before the winners are checked, as a stream
writer does. -/
def writeJson (p : Platform m) (a : Arena) (winners : Option (Array Player)) (path : String) :
    m (Except Failure Unit) := do
  match GameJson.write a winners with
  | .ok text => create p path text
  | .error msg =>
    match ← create p path "" with
    | .error f => return .error f
    | .ok _ => return .error (.plain msg)

theorem isGzip_upper : isGzip "GAME.GZ" = true := by decide +kernel

end GameFile

end ParityGames
