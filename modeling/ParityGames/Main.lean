import ParityGames.Cli.Run
import ParityGames.System.Machine
import Std.Time.DateTime.Timestamp

/-!
# The `papg` program

The program runs the command line (see `Cli.run`) on the machine it runs
on: its files, environment, clock and standard streams.  A returned error
is printed once more on the error output and the program exits with
status 1, or 130 when it was interrupted.  No drawing converter is run from
here, so PDF and PNG conversion report the converter as missing.
-/

namespace ParityGames

namespace Console

/-- The cause of a failed system call. -/
def errnoOf : IO.Error → Errno
  | .noFileOrDirectory .. => .noEntry
  | .alreadyExists .. => .exists
  | .inappropriateType _ code _ => if code == 21 then .isDirectory else .notDirectory
  | .unsatisfiedConstraints .. => .notEmpty
  | .permissionDenied .. => .permission
  | _ => .invalid

/-- Runs a system call, turning its failure into a file-system error. -/
def attempt {α : Type} (op path : String) (target : Option String) (act : IO α) :
    IO (Except FsError α) := do
  try return .ok (← act)
  catch e => return .error { op, path, target, errno := errnoOf e }

/-- Reads a file; a directory fails on reading, after a successful open. -/
def readFile (path : String) : IO (Except FsError ByteArray) := do
  match ← attempt "open" path none (IO.FS.readBinFile path) with
  | .error e => return .error (if e.errno == .isDirectory then { e with op := "read" } else e)
  | .ok d => return .ok d

/-- Removes a file or an empty directory. -/
def remove (path : String) : IO (Except FsError Unit) :=
  attempt "remove" path none do
    try IO.FS.removeFile path
    catch _ => IO.FS.removeDir path

/-- Removes a path and everything below it. -/
def removeAll (path : String) : IO (Except FsError Unit) :=
  attempt "unlinkat" path none do
    try IO.FS.removeFile path
    catch _ => IO.FS.removeDirAll path

/-- The sorted names in a directory. -/
def readDir (path : String) : IO (Except FsError (List String)) :=
  attempt "open" path none do
    let entries ← (System.mkFilePath [path]).readDir
    return (entries.toList.map (·.fileName)).mergeSort fun a b => decide (a ≤ b)

/-- Creates a new empty file named by a pattern in a directory. -/
def createTemp (dir pattern : String) : IO (Except FsError String) := do
  let n ← IO.monoNanosNow
  let name := Machine.tempName dir pattern (n % 1000000000)
  attempt "open" name none do
    let _ ← IO.FS.Handle.mk name .writeNew
    return name

/-- The time, in nanoseconds since 1970. -/
def now : IO Nat := do
  let t ← Std.Time.Timestamp.now
  return t.toNanosecondsSinceUnixEpoch.val.toNat

/-- The platform of the machine the program runs on. -/
def platform (stdin stdout stderr : IO.FS.Stream) : Platform IO where
  readFile := readFile
  writeFile p d := attempt "open" p none (IO.FS.writeBinFile p d)
  mkdirAll p := attempt "mkdir" p none (IO.FS.createDirAll p)
  remove := remove
  removeAll := removeAll
  readDir := readDir
  rename a b := attempt "rename" a (some b) (IO.FS.rename a b)
  createTemp := createTemp
  getEnv k := IO.getEnv k
  now := now
  sleep d := IO.sleep (d / 1000000).toUInt32
  converter := pure .missing
  writeOut s := do stdout.putStr s; stdout.flush
  writeErr s := do stderr.putStr s; stderr.flush
  readIn := stdin.readToEnd
  outIsTerminal := stdout.isTty

end Console

end ParityGames

open ParityGames in
/-- Runs `papg` with the words of its command line. -/
def main (args : List String) : IO UInt32 := do
  let p := Console.platform (← IO.getStdin) (← IO.getStdout) (← IO.getStderr)
  Cli.exitStatus p { args, standalone := true }
