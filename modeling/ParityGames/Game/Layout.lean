import ParityGames.Game.Arena
import ParityGames.Buffer

/-!
# Where an arena's lists live

Each vertex keeps its successor and predecessor lists in blocks of storage.
A list is a view of the front of a block: appending within the block writes
the next entry in place, outgrowing the block copies the list to a fresh,
larger one (`grownCapacity`), and shortening a list blanks the entries
behind its new end.  Clearing a vertex gives it empty lists without
storage; copying an arena gives every list a block of its own, just large
enough (`exactCapacity`).

A snapshot of an arena keeps the views, not the entries: read later, it
shows what the blocks hold then.  `Layout.step` follows one edit of an
arena and `Layout.read` reads a view.
-/

namespace ParityGames

/-- A list as a view of a block: the block's number, the list's length and
the block's capacity. -/
structure Slot where
  block : Nat := 0
  length : Nat := 0
  capacity : Nat := 0
  deriving Inhabited, Repr, DecidableEq

/-- The blocks of storage of an arena and the slots of its vertices'
successor and predecessor lists. -/
structure Layout where
  blocks : Array (Array Nat) := #[]
  slots : Array (Slot × Slot) := #[]

namespace Layout

/-- The bytes of one list entry. -/
def entryBytes : Nat := 8

/-- The layout of a fresh arena: every list empty, without storage. -/
def ofArena (a : Arena) : Layout := { slots := Array.replicate a.size ({}, {}) }

/-- Places a list in a fresh block of just the right size; an empty list
gets no block. -/
def place (l : Layout) (xs : Array Nat) : Layout × Slot :=
  if xs.isEmpty then (l, {}) else
  let c := exactCapacity entryBytes false xs.size
  ({ l with blocks := l.blocks.push (xs ++ Array.replicate (c - xs.size) 0) }, ⟨l.blocks.size, xs.size, c⟩)

/-- Follows one list from its old entries to its new ones: an append writes
in place or moves to a grown block, a shortening blanks the entries behind
the new end. -/
def follow (l : Layout) (s : Slot) (old new : Array Nat) : Layout × Slot :=
  if new.size == old.size + 1 && s.length == old.size then
    if s.length < s.capacity then
      ({ l with blocks := l.blocks.modify s.block (·.set! s.length (new.getD old.size 0)) },
        { s with length := s.length + 1 })
    else
      let c := grownCapacity entryBytes false s.capacity new.size
      ({ l with blocks := l.blocks.push (new ++ Array.replicate (c - new.size) 0) },
        ⟨l.blocks.size, new.size, c⟩)
  else if new.size < old.size then
    ({ l with blocks := l.blocks.modify s.block fun block =>
        (List.range block.size).toArray.map fun i =>
          if i < new.size then new.getD i 0 else if i < old.size then 0 else block.getD i 0 },
      { s with length := new.size })
  else (l, s)

/-- Follows one edit of an arena from `old` to `new`: `cleared` names a
vertex that was cleared, `copied` tells that the arena was copied. -/
def step (l : Layout) (old new : Arena) (cleared : Option Nat) (copied : Bool) : Layout := Id.run do
  let mut l := l
  for i in [0:new.size] do
    let nv := new.vertex i
    if copied then
      let (l1, so) := l.place nv.outgoing
      let (l2, si) := l1.place nv.incoming
      l := { l2 with slots := if i < l2.slots.size then l2.slots.set! i (so, si) else l2.slots.push (so, si) }
    else if i ≥ old.size then l := { l with slots := l.slots.push ({}, {}) }
    else if cleared == some i then l := { l with slots := l.slots.set! i ({}, {}) }
    else
      let ov := old.vertex i
      let (so, si) := l.slots.getD i ({}, {})
      let (l1, so) := l.follow so ov.outgoing nv.outgoing
      let (l2, si) := l1.follow si ov.incoming nv.incoming
      l := { l2 with slots := l2.slots.set! i (so, si) }
  return l

/-- The entries a slot shows in a layout. -/
def read (l : Layout) (s : Slot) : List Nat := ((l.blocks.getD s.block #[]).toList.take s.length)

theorem read_empty (l : Layout) : l.read {} = [] := by
  simp [read]

end Layout

end ParityGames
