import ParityGames.System.Machine
import ParityGames.Compress.Gzip
import ParityGames.Json.Value
import ParityGames.Transcript.Mask

/-!
# Workspaces

A workspace is a machine started in a fresh directory: the files it is
given are laid out there first, in order of their paths, and its home,
cache and configuration directories point inside it.  Commands then run on
the machine, and `Workspace.leftFiles` reads back what they left: entries
of the solution cache are only counted, every other new file is described
by what it holds (`describe`).
-/

namespace ParityGames

namespace Transcript

/-- What a file of a workspace starts as. -/
inductive Seed where
  /-- A file holding a text. -/
  | text (s : String)
  /-- A directory. -/
  | directory
  /-- A file holding a text compressed with gzip. -/
  | gzip (s : String)
  deriving Repr, DecidableEq

/-- The environment of a workspace in a directory: home, cache and
configuration directories inside it. -/
def baseEnvironment (root : String) : List (String × String) :=
  [("HOME", root), ("XDG_CACHE_HOME", root ++ "/.cache"), ("XDG_CONFIG_HOME", root ++ "/.config")]

/-- Changes an environment: a name with a value is set (`$WORK` in it
standing for the directory), a name without one is removed. -/
def adjustEnvironment (root : String) (env : List (String × String)) :
    List (String × Option String) → List (String × String)
  | [] => env
  | (k, v) :: rest =>
    let kept := env.filter (·.1 != k)
    let env := match v with
      | some v => kept ++ [(k, String.ofList (rewrite (literal "$WORK") false root v.toList).1)]
      | none => kept
    adjustEnvironment root env rest

/-- Lays out one file of a workspace, making its directory first. -/
def plant (path : String) (seed : Seed) : StateM Machine Unit := do
  let p := Machine.platform
  match seed with
  | .directory => discard <| p.mkdirAll path
  | .text s =>
    discard <| p.mkdirAll (Path.dir path)
    discard <| p.writeFile path s.toUTF8
  | .gzip s =>
    discard <| p.mkdirAll (Path.dir path)
    discard <| p.writeFile path (Gzip.store s.toUTF8)

/-- The instant a workspace's clock starts at, 2026-11-12 00:00:00 UTC in
nanoseconds: stored expiry instants from before it have passed, later ones
have not. -/
def startInstant : Nat := 1794441600 * 1000000000

/-- A machine started in a fresh directory with files laid out in order of
their paths and an environment adjusted from the workspace's own. -/
def Workspace.start (root : String) (files : List (String × Seed))
    (env : List (String × Option String)) (converter : Render.Converter) : Machine :=
  let sorted := files.mergeSort fun a b => decide (a.1 ≤ b.1)
  let fresh : Machine :=
    { cwd := root
      clock := startInstant
      converter := converter
      env := adjustEnvironment root (baseEnvironment root) env
      files := (FileSystem.ancestors root ++ [root]).foldl (fun fs d => fs.put d .directory) {} }
  ((sorted.forM fun (path, seed) => plant path seed).run fresh).2

/-- Whether an SVG text starts with the plain header that normalizing
gives it: a view box at the origin with two decimals, and whole width and
height. -/
def hasPlainHeader (t : String) : Bool :=
  let number (x : String) (fraction : Bool) : Bool :=
    match x.splitOn "." with
    | [a, b] => fraction && !a.isEmpty && a.all Char.isDigit && b.length == 2 && b.all Char.isDigit
    | [a] => !fraction && !a.isEmpty && a.all Char.isDigit
    | _ => false
  match t.splitOn "<svg xmlns=\"http://www.w3.org/2000/svg\" viewBox=\"0 0 " with
  | _ :: after :: _ =>
    match after.splitOn "\"" with
    | box :: " width=" :: w :: " height=" :: h :: rest =>
      (match box.splitOn " " with | [a, b] => number a true && number b true | _ => false) &&
        number w false && number h false && (rest.headD "").startsWith ">"
    | _ => false
  | _ => false

/-- The number of times a piece occurs in a text. -/
def occurrences (t piece : String) : Nat := (t.splitOn piece).length - 1

/-- Describes a file by what it holds: a PNG image, an SVG drawing (its
node and edge count and whether its header is plain), a text (masked), or
else its size. -/
def describe (work : String) (b : ByteArray) : Json :=
  if b.toList.take 4 == [0x89, 0x50, 0x4E, 0x47] then .obj [("png", .bool true)] else
  match String.fromUTF8? b with
  | some t =>
    if occurrences t "<svg" > 0 then
      .obj [("svg", .bool true), ("nodes", .nat (occurrences t "class=\"node\"")),
        ("edges", .nat (occurrences t "class=\"edge\"")), ("normalized", .bool (hasPlainHeader t))]
    else .str (mask work t)
  | none => .obj [("bytes", .nat b.size)]

/-- Whether a text is a JSON object with exactly the keys `data` and
`expires_at`, as a file cache entry is. -/
def isCacheEntry (t : String) : Bool :=
  let t := t.trimAscii.toString
  t.startsWith "\x7b\"data\":" && (t.splitOn "\",\"expires_at\":\"").length == 2 &&
    t.endsWith "\"\x7d" && occurrences t "\":" == 2

/-- Whether a file left in a workspace is a solution-cache entry: it lies
under the cache directories or holds a file cache entry. -/
def isCacheFile (rel : String) (b : ByteArray) : Bool :=
  rel.startsWith ".cache/" || rel.startsWith "cachedir/" ||
    (String.fromUTF8? b).any isCacheEntry

/-- The files a machine holds under a workspace directory that were not
laid out at the start, by path relative to it, and the number of cache
entries among them, which are not listed. -/
def Workspace.leftFiles (root : String) (m : Machine) (given : List String) :
    List (String × ByteArray) × Nat :=
  let below := (m.files.filesBelow root).filterMap fun (p, b) =>
    let rel := (p.drop (root.length + 1)).toString
    if p.startsWith (root ++ "/") && !given.contains rel then some (rel, b) else none
  let entries := below.filter fun (rel, b) => isCacheFile rel b
  (below.filter (fun (rel, b) => !isCacheFile rel b), entries.length)

/-- The files a workspace's commands left, as a JSON object: each described,
and the count of cache entries under `$cache_entries`. -/
def Workspace.report (root : String) (m : Machine) (given : List String) : Json :=
  let (files, entries) := Workspace.leftFiles root m given
  .obj ((files.map fun (rel, b) => (rel, describe root b)) ++ [("$cache_entries", .nat entries)])

theorem baseEnvironment_home (root : String) :
    (baseEnvironment root).lookup "HOME" = some root := rfl

end Transcript

end ParityGames
