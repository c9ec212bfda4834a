import ParityGames.System.Platform
import ParityGames.Digest.Sha256
import ParityGames.Json.Parse
import ParityGames.Json.Decode
import ParityGames.Text.Base64
import ParityGames.Text.Time
import ParityGames.Lifetime

/-!
# A store of files

A file store keeps each value in its own file, below a directory: the key's
SHA-256 hash in hex names it, its first two characters a subdirectory and
the rest the file, as in `dir/ab/cdef….json`.  A file holds the value in
base64 and its expiry time:

    {"data":"aGVsbG8=","expires_at":"2025-06-01T12:00:00Z"}

The zero instant as expiry means the value never expires.

* Reading a key that has no file is a miss; a file that cannot be decoded,
  or whose expiry has passed, is removed and also a miss; any other failure
  to read is returned.
* Writing goes to a fresh temporary file `.entry-…` in the subdirectory,
  which is then renamed onto the entry, so that a reader never sees half an
  entry; a failed rename leaves the temporary file behind.
* Clearing removes everything inside the directory but keeps it.

A cancelled request fails before touching any file.
-/

namespace ParityGames

namespace Cache

/-- A store of files below a directory. -/
structure FileStore where
  dir : String
  deriving Repr

/-- A stored value with its expiry instant. -/
structure Stored where
  data : ByteArray := ByteArray.empty
  expiresAt : Int := Time.zero

/-- The text of a stored value. -/
def Stored.text (s : Stored) : String :=
  "\x7b\"data\":\"" ++ Base64.encode s.data ++ "\",\"expires_at\":\"" ++
    Time.rfc3339 s.expiresAt ++ "\"\x7d"

/-- Reads one member of a stored value: `data` takes base64 text or null,
`expires_at` RFC 3339 text or null; other members are ignored. -/
def fillStored (s : Stored) (field : String) : Json → Option Stored
  | .null => if field == "data" then some { s with data := ByteArray.empty } else some s
  | .str t =>
    if field == "data" then (Base64.decode? t).map fun d => { s with data := d }
    else (Time.parse? t).map fun e => { s with expiresAt := e }
  | _ => none

/-- Decodes the text of a stored value, as a whole-text decoder into the
record does: `null` is an empty value, an object fills the fields it
names (ignoring case), and anything else is refused. -/
def Stored.read? (text : String) : Option Stored :=
  match Json.readExact text with
  | .error _ => none
  | .ok .null => some {}
  | .ok (.obj members) =>
    members.foldlM (fun s (key, value) =>
      match Json.fieldOf ["data", "expires_at"] key with
      | some f => fillStored s f value
      | none => some s) {}
  | .ok _ => none

/-- The hex hash that names a key's file. -/
def hash (key : String) : String := Sha256.hashText key

variable {m : Type → Type} [Monad m]

namespace FileStore

/-- The subdirectory of a key. -/
def folder (c : FileStore) (key : String) : String :=
  Path.join [c.dir, ((hash key).take 2).toString]

/-- The file of a key. -/
def entryPath (c : FileStore) (key : String) : String :=
  Path.join [c.dir, ((hash key).take 2).toString, ((hash key).drop 2).toString ++ ".json"]

/-- Opens a store, making its directory. -/
def create (p : Platform m) (dir : String) : m (Except Failure FileStore) := do
  match ← p.mkdirAll dir with
  | .error e => return .error (e.toFailure.context "create cache dir")
  | .ok () => return .ok { dir }

/-- Reads a key: its value, or `none` on a miss. -/
def get (p : Platform m) (c : FileStore) (life : Lifetime) (key : String) :
    m (Except Failure (Option ByteArray)) := do
  if let some f := life.failure? then return .error f
  let path := c.entryPath key
  match ← p.readFile path with
  | .error e => return if e.notFound then .ok none else .error e.toFailure
  | .ok bytes =>
    let stored := (String.fromUTF8? bytes).bind Stored.read?
    match stored with
    | none =>
      let _ ← p.remove path
      return .ok none
    | some s =>
      let now ← p.now
      if s.expiresAt != Time.zero && (now : Int) > s.expiresAt then
        let _ ← p.remove path
        return .ok none
      else return .ok (some s.data)

/-- Writes a key, to expire after `ttl` nanoseconds (never when zero). -/
def set (p : Platform m) (c : FileStore) (life : Lifetime) (key : String) (data : ByteArray)
    (ttl : Nat) : m (Except Failure Unit) := do
  if let some f := life.failure? then return .error f
  let now ← p.now
  let expiresAt : Int := if ttl > 0 then now + ttl else Time.zero
  let text := Stored.text { data, expiresAt }
  let folder := c.folder key
  match ← p.mkdirAll folder with
  | .error e => return .error e.toFailure
  | .ok () =>
    match ← p.createTemp folder ".entry-*" with
    | .error e => return .error e.toFailure
    | .ok tmp =>
      match ← p.writeFile tmp text.toUTF8 with
      | .error e =>
        let _ ← p.remove tmp
        return .error e.toFailure
      | .ok () =>
        match ← p.rename tmp (c.entryPath key) with
        | .error e => return .error e.toFailure
        | .ok () => return .ok ()

/-- Removes a key; a key with no file is no failure. -/
def delete (p : Platform m) (c : FileStore) (key : String) : m (Except Failure Unit) := do
  match ← p.remove (c.entryPath key) with
  | .error e => return if e.notFound then .ok () else .error e.toFailure
  | .ok () => return .ok ()

/-- Removes everything inside the directory, keeping it; a missing
directory is no failure. -/
def clear (p : Platform m) (c : FileStore) : m (Except Failure Unit) := do
  match ← p.readDir c.dir with
  | .error e => return if e.notFound then .ok () else .error e.toFailure
  | .ok names =>
    names.foldlM (fun acc name => do
      match acc with
      | .error e => return .error e
      | .ok () =>
        match ← p.removeAll (Path.join [c.dir, name]) with
        | .error e => return .error e.toFailure
        | .ok () => return .ok ()) (.ok ())

end FileStore

theorem stored_null : (Stored.read? "null").isSome = true := by decide +kernel

end Cache

end ParityGames
