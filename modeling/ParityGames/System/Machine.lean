import ParityGames.System.Platform

/-!
# A machine in memory

A machine held as a value: its file tree, working directory, environment,
clock, converter, standard input and the text written to its standard
streams.  Its clock only moves when a program waits, so every measured
duration is zero; temporary files are numbered in order.
-/

namespace ParityGames

/-- A machine held in memory. -/
structure Machine where
  files : FileSystem := {}
  cwd : String := "/"
  env : List (String × String) := []
  clock : Nat := 0
  tempCount : Nat := 0
  converter : Render.Converter := .missing
  stdin : String := ""
  terminal : Bool := false
  stdout : String := ""
  stderr : String := ""

namespace Machine

/-- Runs a file-tree change seen from the working directory, keeping the
tree on success. -/
def change (f : FileSystem → String → Except FsError FileSystem) :
    StateM Machine (Except FsError Unit) :=
  modifyGet fun w =>
    match f w.files w.cwd with
    | .ok fs => (.ok (), { w with files := fs })
    | .error e => (.error e, w)

/-- The name of a temporary file for a pattern and a number. -/
def tempName (dir pattern : String) (n : Nat) : String :=
  let name := match pattern.splitOn "*" with
    | [whole] => whole ++ toString n
    | front :: rest => front ++ toString n ++ "*".intercalate rest
    | [] => toString n
  if dir.isEmpty then name else dir ++ "/" ++ name

/-- The platform of a machine in memory. -/
def platform : Platform (StateM Machine) where
  readFile p := return (← get).files.readFile (← get).cwd p
  writeFile p d := change fun fs cwd => fs.writeFile cwd p d
  mkdirAll p := change fun fs cwd => fs.mkdirAll cwd p
  remove p := change fun fs cwd => fs.remove cwd p
  removeAll p := change fun fs cwd => fs.removeAll cwd p
  readDir p := return (← get).files.readDir (← get).cwd p
  rename a b := change fun fs cwd => fs.rename cwd a b
  createTemp dir pattern := do
    let w ← get
    let n := w.tempCount + 1
    set { w with tempCount := n }
    let name := tempName dir pattern (1000000000 + n)
    let p := Path.absolute w.cwd name
    match w.files.reach p with
    | .error e => return .error { op := "open", path := name, errno := e }
    | .ok (some _) => return .error { op := "open", path := name, errno := .exists }
    | .ok none =>
      modify fun w => { w with files := w.files.put p (.file ByteArray.empty) }
      return .ok name
  getEnv k := return ((← get).env.find? (·.1 == k)).map (·.2)
  now := return (← get).clock
  sleep d := modify fun w => { w with clock := w.clock + d }
  converter := return (← get).converter
  writeOut s := modify fun w => { w with stdout := w.stdout ++ s }
  writeErr s := modify fun w => { w with stderr := w.stderr ++ s }
  readIn := return (← get).stdin
  outIsTerminal := return (← get).terminal

end Machine

end ParityGames
