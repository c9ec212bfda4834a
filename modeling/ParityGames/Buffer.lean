/-!
# Growable buffers

A buffer is a sequence stored at the front of a larger block of storage.
Shortening a buffer keeps the storage behind its end, and lengthening it
within the block shows those old entries again; only outgrowing the block
moves the elements to a fresh, larger block whose tail is blank.

How large a fresh block is decides which old entries can come back, so it
follows the allocator's rule exactly: the wanted number of elements grows
by doubling (by a quarter plus 192 from 256 on), the byte size is rounded up
to the next size class, and a block of entries that hold references pays
an eight-byte header once it is over 512 bytes.
-/

namespace ParityGames

/-- The byte sizes of small blocks. -/
def sizeClasses : List Nat :=
  [8, 16, 24, 32, 48, 64, 80, 96, 112, 128, 144, 160, 176, 192, 208, 224, 240, 256,
   288, 320, 352, 384, 416, 448, 480, 512, 576, 640, 704, 768, 896, 1024, 1152, 1280,
   1408, 1536, 1792, 2048, 2304, 2688, 3072, 3200, 3456, 4096, 4864, 5376, 6144, 6528,
   6784, 6912, 8192, 9472, 9728, 10240, 10880, 12288, 13568, 14336, 16384, 18432,
   19072, 20480, 21760, 24576, 27264, 28672, 32768]

/-- The usable bytes of the block that serves a request of `bytes` bytes;
`refs` tells whether the entries hold references. -/
def blockBytes (refs : Bool) (bytes : Nat) : Nat :=
  if bytes ≤ 32760 then
    let header := if refs && bytes > 512 then 8 else 0
    match sizeClasses.find? (fun c => c ≥ bytes + header) with
    | some c => c - header
    | none => bytes
  else
    (bytes + 8191) / 8192 * 8192

/-- The element count that growth asks for when a buffer of capacity `cap`
must hold `need` elements. -/
def wantedCapacity (cap need : Nat) : Nat :=
  if need > 2 * cap then need
  else if cap < 256 then 2 * cap
  else Nat.repeat (fun c => if c ≥ need then c else c + (c + 768) / 4) 64 cap

/-- The capacity of the block that a buffer of capacity `cap` moves to
when it must hold `need` elements of `size` bytes each. -/
def grownCapacity (size : Nat) (refs : Bool) (cap need : Nat) : Nat :=
  if size = 0 then wantedCapacity cap need
  else blockBytes refs (wantedCapacity cap need * size) / size

/-- The capacity of a fresh block made for exactly `n` elements. -/
def exactCapacity (size : Nat) (refs : Bool) (n : Nat) : Nat :=
  if size = 0 then n else blockBytes refs (n * size) / size

/-- A buffer: its elements are the first `length` entries of `store`, and the
rest of `store` is spare room that may hold old entries. -/
structure Buffer (α : Type) where
  store : Array α := #[]
  length : Nat := 0
  deriving Repr, Inhabited

namespace Buffer

variable {α : Type}

/-- The elements of a buffer. -/
def items (b : Buffer α) : Array α := b.store.extract 0 b.length

/-- The capacity of a buffer. -/
def capacity (b : Buffer α) : Nat := b.store.size

/-- A buffer that holds exactly the given elements in a block of its own. -/
def ofArray (size : Nat) (refs : Bool) (blank : α) (xs : Array α) : Buffer α :=
  { store := xs ++ Array.replicate (exactCapacity size refs xs.size - xs.size) blank,
    length := xs.size }

/-- Makes room for at least `need` elements, moving to a larger block when
the current one is too small; only the elements move. -/
def reserve (size : Nat) (refs : Bool) (blank : α) (b : Buffer α) (need : Nat) :
    Buffer α :=
  if need ≤ b.capacity then b
  else
    let cap := grownCapacity size refs b.capacity need
    { b with store := b.items ++ Array.replicate (cap - b.length) blank }

/-- Appends one element. -/
def push (size : Nat) (refs : Bool) (blank : α) (b : Buffer α) (x : α) : Buffer α :=
  let b := b.reserve size refs blank (b.length + 1)
  { store := b.store.set! b.length x, length := b.length + 1 }

/-- Sets the length, within the capacity. -/
def setLength (b : Buffer α) (n : Nat) : Buffer α := { b with length := min n b.capacity }

/-- Replaces the entry at `i`. -/
def set (b : Buffer α) (i : Nat) (x : α) : Buffer α := { b with store := b.store.set! i x }

/-- The entry at `i`, or `blank` past the storage. -/
def get (b : Buffer α) (blank : α) (i : Nat) : α := b.store.getD i blank

theorem items_size_le (b : Buffer α) : b.items.size ≤ b.length := by
  simp [items, Nat.min_le_left]

end Buffer

end ParityGames
