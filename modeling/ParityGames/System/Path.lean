/-!
# Slash-separated paths

Lexical operations on paths whose separator is `/`.  Cleaning reduces a path
to its shortest equivalent by purely lexical processing: runs of slashes
become one, `.` elements go, an inner `..` removes the element before it, a
`..` at the start of a rooted path goes, and the empty result is `.`.  No
operation looks at a file system.
-/

namespace ParityGames

namespace Path

/-- Whether a path is rooted. -/
def isAbsolute (p : String) : Bool := p.startsWith "/"

/-- The non-empty elements of a path, in order. -/
def elements (p : String) : List String := (p.splitOn "/").filter (· ≠ "")

/-- Resolves `.` and `..` elements on a stack of kept elements (innermost
first); `..` pops a kept element that is not itself `..`, and is dropped at
the root of a rooted path. -/
def resolve (rooted : Bool) : List String → List String → List String
  | [], kept => kept.reverse
  | "." :: rest, kept => resolve rooted rest kept
  | ".." :: rest, kept =>
    match kept with
    | top :: below => if top == ".." then resolve rooted rest (".." :: kept) else resolve rooted rest below
    | [] => if rooted then resolve rooted rest [] else resolve rooted rest [".."]
  | e :: rest, kept => resolve rooted rest (e :: kept)

/-- The shortest lexically equivalent path. -/
def clean (p : String) : String :=
  let rooted := isAbsolute p
  let body := "/".intercalate (resolve rooted (elements p) [])
  if rooted then "/" ++ body
  else if body.isEmpty then "."
  else body

/-- Joins elements with slashes, ignoring empty ones, and cleans the result;
nothing but empty elements gives the empty path. -/
def join (parts : List String) : String :=
  match parts.filter (· ≠ "") with
  | [] => ""
  | ps => clean ("/".intercalate ps)

/-- Everything before the last slash, cleaned: the directory of a path. -/
def dir (p : String) : String :=
  let cs := p.toList
  let front := (cs.reverse.dropWhile (· ≠ '/')).reverse
  clean (String.ofList front)

/-- The last element of a path, after trailing slashes are dropped; `.` for
the empty path and `/` for a path of slashes. -/
def base (p : String) : String :=
  if p.isEmpty then "."
  else
    let cs := (p.toList.reverse.dropWhile (· == '/')).reverse
    if cs.isEmpty then "/"
    else String.ofList (cs.reverse.takeWhile (· ≠ '/')).reverse

/-- The extension of the last element: from its last dot on, or empty. -/
def ext (p : String) : String :=
  let tail := (p.toList.reverse.takeWhile (· ≠ '/')).reverse
  match (tail.reverse.takeWhile (· ≠ '.')).length, tail.contains '.' with
  | n, true => String.ofList (tail.drop (tail.length - n - 1))
  | _, false => ""

/-- The path of `p` seen from directory `cwd`: `p` itself when rooted. -/
def absolute (cwd p : String) : String :=
  if isAbsolute p then clean p else clean (cwd ++ "/" ++ p)

end Path

end ParityGames
