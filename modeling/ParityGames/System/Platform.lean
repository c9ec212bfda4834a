import ParityGames.System.FileSystem
import ParityGames.Render.Convert

/-!
# What a program asks of its machine

A platform is the set of services a command uses: files, environment
variables, the clock, the drawing converter and the standard streams.  A
program written against a platform runs on any monad that provides them:
on a machine held in memory, or on the real one.
-/

namespace ParityGames

/-- The services of a machine, in a monad `m`. -/
structure Platform (m : Type → Type) where
  /-- Reads a whole file. -/
  readFile : String → m (Except FsError ByteArray)
  /-- Creates or truncates a file and writes it. -/
  writeFile : String → ByteArray → m (Except FsError Unit)
  /-- Makes a directory and its missing ancestors. -/
  mkdirAll : String → m (Except FsError Unit)
  /-- Removes a file or an empty directory. -/
  remove : String → m (Except FsError Unit)
  /-- Removes a path and everything below it. -/
  removeAll : String → m (Except FsError Unit)
  /-- The sorted names inside a directory. -/
  readDir : String → m (Except FsError (List String))
  /-- Moves a path. -/
  rename : String → String → m (Except FsError Unit)
  /-- Creates a new empty file in a directory, its name the pattern with
  the `*` replaced by a fresh number; the path of the file. -/
  createTemp : String → String → m (Except FsError String)
  /-- An environment variable. -/
  getEnv : String → m (Option String)
  /-- The time, in nanoseconds since 1970 UTC. -/
  now : m Nat
  /-- Waits for a number of nanoseconds. -/
  sleep : Nat → m Unit
  /-- The drawing converter. -/
  converter : m Render.Converter
  /-- Writes to the standard output. -/
  writeOut : String → m Unit
  /-- Writes to the standard error. -/
  writeErr : String → m Unit
  /-- The whole standard input. -/
  readIn : m String
  /-- Whether the standard output is a terminal. -/
  outIsTerminal : m Bool

end ParityGames
