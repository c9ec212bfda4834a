import ParityGames.System.Path
import ParityGames.Failure

/-!
# A file tree in memory

A file tree maps rooted, cleaned paths to files (their bytes) and
directories; the root is always a directory.  The operations follow the
rules of a POSIX system and fail with the same causes:

* a path is reached through its ancestors, nearest the root first; an
  ancestor that is missing makes the call fail with *no such file or
  directory*, one that is a file with *not a directory*;
* opening a directory for reading succeeds but reading it fails with
  *is a directory*; creating over a directory fails the same way;
* making a directory that exists fails with *file exists*; making all
  directories of a path succeeds when it is already a directory and stops at
  the first ancestor that is a file;
* removing a non-empty directory fails with *directory not empty*;
* renaming onto an existing directory fails with *file exists*.

A failure names the call and the path as it was given, as in
`open a/b: not a directory`.
-/

namespace ParityGames

/-- The cause of a failed file-system call. -/
inductive Errno where
  | noEntry
  | notDirectory
  | isDirectory
  | exists
  | notEmpty
  | invalid
  | permission
  deriving DecidableEq, Repr

/-- The text of a cause. -/
def Errno.text : Errno → String
  | .noEntry => "no such file or directory"
  | .notDirectory => "not a directory"
  | .isDirectory => "is a directory"
  | .exists => "file exists"
  | .notEmpty => "directory not empty"
  | .invalid => "invalid argument"
  | .permission => "permission denied"

/-- A failed file-system call: the call, the path as given (and the second
path of a rename), and the cause. -/
structure FsError where
  op : String
  path : String
  target : Option String := none
  errno : Errno
  deriving DecidableEq, Repr

/-- The text of a failed call. -/
def FsError.message (e : FsError) : String :=
  match e.target with
  | some t => s!"{e.op} {e.path} {t}: {e.errno.text}"
  | none => s!"{e.op} {e.path}: {e.errno.text}"

/-- Whether the failure says that the path does not exist. -/
def FsError.notFound (e : FsError) : Bool := e.errno == .noEntry

/-- A failed call as a failure; a missing path is marked so. -/
def FsError.toFailure (e : FsError) : Failure :=
  if e.notFound then .marked e.message .notExist else .plain e.message

/-- What a path holds. -/
inductive Node where
  | file (data : ByteArray)
  | directory

/-- Whether a node is a directory. -/
def Node.isDirectory : Node → Bool
  | .directory => true
  | .file _ => false

/-- A file tree: rooted, cleaned paths and what they hold, in creation
order. -/
structure FileSystem where
  nodes : List (String × Node) := []

namespace FileSystem

/-- What a rooted path holds. -/
def get? (fs : FileSystem) (p : String) : Option Node :=
  if p == "/" then some .directory else (fs.nodes.find? (·.1 == p)).map (·.2)

/-- The ancestors of a rooted path, nearest the root first, the root left
out. -/
def ancestors (p : String) : List String :=
  let es := Path.elements p
  (List.range (es.length - 1)).map fun i => "/" ++ "/".intercalate (es.take (i + 1))

/-- Reaches a rooted path: what it holds, or why an ancestor stops the
way. -/
def reach (fs : FileSystem) (p : String) : Except Errno (Option Node) :=
  let blocked := (ancestors p).findSome? fun a =>
    match fs.get? a with
    | none => some Errno.noEntry
    | some (.file _) => some Errno.notDirectory
    | some .directory => none
  match blocked with
  | some e => .error e
  | none => .ok (fs.get? p)

/-- Whether `q` lies strictly below directory `p`. -/
def isBelow (p q : String) : Bool :=
  if p == "/" then q != "/" else q.startsWith (p ++ "/")

/-- Sets what a rooted path holds. -/
def put (fs : FileSystem) (p : String) (n : Node) : FileSystem :=
  if fs.nodes.any (·.1 == p) then
    { nodes := fs.nodes.map fun e => if e.1 == p then (p, n) else e }
  else { nodes := fs.nodes ++ [(p, n)] }

/-- Drops a rooted path and everything below it. -/
def drop (fs : FileSystem) (p : String) : FileSystem :=
  { nodes := fs.nodes.filter fun e => e.1 != p && !isBelow p e.1 }

/-- The names directly inside a directory, sorted. -/
def children (fs : FileSystem) (p : String) : List String :=
  let inside := fs.nodes.filter fun e => isBelow p e.1
  let direct := inside.filter fun e => (Path.elements e.1).length == (Path.elements p).length + 1
  (direct.map fun e => Path.base e.1).mergeSort (fun a b => decide (a ≤ b))

/-- Reads a file. -/
def readFile (fs : FileSystem) (cwd name : String) : Except FsError ByteArray :=
  match fs.reach (Path.absolute cwd name) with
  | .error e => .error { op := "open", path := name, errno := e }
  | .ok none => .error { op := "open", path := name, errno := .noEntry }
  | .ok (some .directory) => .error { op := "read", path := name, errno := .isDirectory }
  | .ok (some (.file d)) => .ok d

/-- Creates or truncates a file and writes it. -/
def writeFile (fs : FileSystem) (cwd name : String) (data : ByteArray) :
    Except FsError FileSystem :=
  let p := Path.absolute cwd name
  match fs.reach p with
  | .error e => .error { op := "open", path := name, errno := e }
  | .ok (some .directory) => .error { op := "open", path := name, errno := .isDirectory }
  | .ok _ => .ok (fs.put p (.file data))

/-- Makes one directory. -/
def mkdir (fs : FileSystem) (cwd name : String) : Except FsError FileSystem :=
  let p := Path.absolute cwd name
  match fs.reach p with
  | .error e => .error { op := "mkdir", path := name, errno := e }
  | .ok (some _) => .error { op := "mkdir", path := name, errno := .exists }
  | .ok none => .ok (fs.put p .directory)

/-- The text of a path up to and including the slash before its last
element: trailing slashes and then the last element are cut. -/
def parentText (name : String) : String :=
  let cs := (name.toList.reverse.dropWhile (· == '/'))
  String.ofList (cs.dropWhile (· != '/')).reverse

/-- Makes a directory and all its missing ancestors, for at most `fuel`
levels. -/
def mkdirAllFuel (fs : FileSystem) (cwd : String) : Nat → String → Except FsError FileSystem
  | 0, name => fs.mkdir cwd name
  | fuel + 1, name =>
    let p := Path.absolute cwd name
    match fs.reach p with
    | .ok (some .directory) => .ok fs
    | .ok (some (.file _)) => .error { op := "mkdir", path := name, errno := .notDirectory }
    | _ =>
      let parent := String.ofList (parentText name).toList.dropLast
      let made := if parent.isEmpty then Except.ok fs else fs.mkdirAllFuel cwd fuel parent
      match made with
      | .error e => .error e
      | .ok fs =>
        match fs.mkdir cwd name with
        | .ok fs => .ok fs
        | .error e =>
          match fs.reach p with
          | .ok (some .directory) => .ok fs
          | _ => .error e

/-- Makes a directory and all its missing ancestors. -/
def mkdirAll (fs : FileSystem) (cwd name : String) : Except FsError FileSystem :=
  fs.mkdirAllFuel cwd (name.length + 1) name

/-- Removes a file or an empty directory. -/
def remove (fs : FileSystem) (cwd name : String) : Except FsError FileSystem :=
  let p := Path.absolute cwd name
  match fs.reach p with
  | .error e => .error { op := "remove", path := name, errno := e }
  | .ok none => .error { op := "remove", path := name, errno := .noEntry }
  | .ok (some (.file _)) => .ok (fs.drop p)
  | .ok (some .directory) =>
    if p == "/" || !(fs.children p).isEmpty then .error { op := "remove", path := name, errno := .notEmpty }
    else .ok (fs.drop p)

/-- Removes a path and everything below it; a missing path is no failure. -/
def removeAll (fs : FileSystem) (cwd name : String) : Except FsError FileSystem :=
  if name.isEmpty then .ok fs
  else
    let p := Path.absolute cwd name
    match fs.reach p with
    | .ok (some _) => if p == "/" then .ok { nodes := [] } else .ok (fs.drop p)
    | _ => .ok fs

/-- The names inside a directory, sorted. -/
def readDir (fs : FileSystem) (cwd name : String) : Except FsError (List String) :=
  let p := Path.absolute cwd name
  match fs.reach p with
  | .error e => .error { op := "open", path := name, errno := e }
  | .ok none => .error { op := "open", path := name, errno := .noEntry }
  | .ok (some (.file _)) => .error { op := "open", path := name, errno := .notDirectory }
  | .ok (some .directory) => .ok (fs.children p)

/-- Moves a path, replacing a file at the destination; a directory at the
destination is refused. -/
def rename (fs : FileSystem) (cwd old new : String) : Except FsError FileSystem :=
  let po := Path.absolute cwd old
  let pn := Path.absolute cwd new
  let fail (e : Errno) : Except FsError FileSystem :=
    .error { op := "rename", path := old, target := some new, errno := e }
  match fs.reach pn with
  | .ok (some .directory) =>
    match fs.reach po with
    | .error e => fail e
    | .ok none => fail .noEntry
    | .ok (some _) => if po == pn then .ok fs else fail .exists
  | target =>
    match fs.reach po with
    | .error e => fail e
    | .ok none => fail .noEntry
    | .ok (some node) =>
      match target with
      | .error e => fail e
      | .ok _ =>
        if po == pn then .ok fs
        else if node.isDirectory && isBelow po pn then fail .invalid
        else
          let moved := fs.nodes.filterMap fun e =>
            if e.1 == po then some (pn, e.2)
            else if isBelow po e.1 then some (pn ++ (e.1.drop po.length).toString, e.2)
            else none
          .ok { nodes := (fs.drop pn |>.drop po).nodes ++ moved }

/-- Whether a path names a directory. -/
def isDirectory (fs : FileSystem) (cwd name : String) : Bool :=
  match fs.reach (Path.absolute cwd name) with
  | .ok (some .directory) => true
  | _ => false

/-- The files at or below a rooted path with their bytes, in creation
order. -/
def filesBelow (fs : FileSystem) (p : String) : List (String × ByteArray) :=
  fs.nodes.filterMap fun e =>
    match e.2 with
    | .file d => if e.1 == p || isBelow p e.1 then some (e.1, d) else none
    | .directory => none

end FileSystem

end ParityGames
