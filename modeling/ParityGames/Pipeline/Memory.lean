import ParityGames.Pipeline.Runner
import ParityGames.Log.Format

/-!
# A pipeline kept in memory

The effects of a pipeline whose cache is a list of entries in memory and
whose log is a text.  The cache can be switched off (every read misses and
every write is dropped) or made to fail its reads or its writes, which the
runner must treat as misses and skipped writes.  Every value written is
also kept in `written`, in order, so that a caller can see what a call
stored.
-/

namespace ParityGames

namespace Pipeline

/-- The effects of a pipeline that keeps nothing: no cache, no log. -/
def Effects.silent {m : Type → Type} [Monad m] (converter : Render.Converter) : Effects m where
  cacheGet _ := pure (.ok none)
  cacheSet _ _ _ := pure (.ok ())
  log _ := pure ()
  solverLog _ := pure ()
  event _ := pure ()
  converter := converter

/-- A cache and a log in memory. -/
structure MemoryStore where
  entries : List (String × ByteArray) := []
  /-- Whether the cache is switched off. -/
  disabled : Bool := false
  failReads : Bool := false
  failWrites : Bool := false
  /-- The values written, oldest first. -/
  written : Array (String × ByteArray) := #[]
  /-- The logger that writes to `log`; none drops every record. -/
  logger : Option Log.Logger := none
  log : String := ""

namespace MemoryStore

/-- Stores a value under a key, replacing an older one. -/
def insert (s : MemoryStore) (key : String) (data : ByteArray) : MemoryStore :=
  { s with entries := s.entries.filter (·.1 != key) ++ [(key, data)],
           written := s.written.push (key, data) }

/-- The effects of a pipeline on a store in memory. -/
def effects (converter : Render.Converter) : Effects (StateM MemoryStore) where
  cacheGet k := do
    let s ← get
    return if s.disabled then .ok none
      else if s.failReads then .error "cache read failed"
      else .ok (s.entries.lookup k)
  cacheSet k d _ := do
    let s ← get
    if s.disabled then return .ok ()
    if s.failWrites then return .error "cache write failed"
    set (s.insert k d)
    return .ok ()
  log r := modify fun s =>
    match s.logger with
    | some l => { s with log := s.log ++ l.write r }
    | none => s
  solverLog _ := pure ()
  event _ := pure ()
  converter := converter

theorem insert_lookup (s : MemoryStore) (k : String) (d : ByteArray) :
    (s.insert k d).entries.lookup k = some d := by
  simp only [insert]
  induction s.entries with
  | nil => simp
  | cons e rest ih =>
    rw [List.filter_cons]
    by_cases h : e.1 = k
    · simp [h, ih]
    · have keep : (e.1 != k) = true := by simp [h]
      have other : (k == e.1) = false := by simp [Ne.symm h]
      rw [keep, if_pos rfl, List.cons_append, List.lookup_cons, other]
      exact ih

end MemoryStore

end Pipeline

end ParityGames
