import ParityGames.Screen.VertexList
import ParityGames.Text.Decimal
import Mathlib.Tactic.SplitIfs

/-!
# The window of the vertex list

A vertex list shows the vertices its filter lets through, in increasing order,
and a window of `height` rows over them with the cursor inside.  `Window` is
that shape: the height is at least five, the listed vertices are exactly those
the filter lists, a non-empty list has `0 ≤ offset ≤ cursor < size` and the
cursor inside the window, and an empty one has cursor and offset at zero.

Every message keeps the shape and no message or drawing fails, as long as the
window's arithmetic stays inside the 64-bit machine range: each terminal height
`rows` has `rows - 10` in range, with room above it for every position of the
list (`browsing_keeps_window`).  Following an edge then lands on the first
listed successor of the selected vertex.  A height near the bottom of the
machine range wraps the window's height to the top of the range, the next
scroll wraps the offset below zero, and drawing fails
(`window_wraps_below_zero`).
-/

namespace ParityGames

namespace Screen

open Text (int64Min int64Max)

variable {m : VertexList}

/-- Whether a filter lists vertex `v` of a solution with these winners. -/
def Filter.lists (f : Filter) (winners : Array Player) (v : Nat) : Bool :=
  match f with
  | .all => true
  | .even => winners[v]?.any (·.code == Player.even.code)
  | .odd => winners[v]?.any (·.code == Player.odd.code)

/-- The list a filter gives: the vertices it lists, with cursor and window
at the start. -/
def VertexList.filtered (m : VertexList) (f : Filter) : VertexList :=
  { m with visible := (Array.range m.arena.size).filter (f.lists m.winners), filter := f,
           cursor := 0, offset := 0 }

/-- The list after answering each message in turn, whether or not one of them
asked to quit. -/
def VertexList.updates (m : VertexList) : List Message → Except String VertexList
  | [] => pure m
  | msg :: msgs => do
    let (m, _) ← m.update msg
    m.updates msgs

/-- What a list shows, apart from where its cursor is: one winner per vertex,
a height of at least five with room above it for every position of the list,
and exactly the vertices its filter lists, in increasing order. -/
structure Listing (m : VertexList) : Prop where
  winners_size : m.winners.size = m.arena.size
  height_ge : 5 ≤ m.height
  room : m.height + m.arena.size ≤ int64Max
  visible_eq : m.visible = (Array.range m.arena.size).filter (m.filter.lists m.winners)

/-- The shape of every list the browser shows: an empty list has cursor and
window at the start; otherwise the window starts in the list at or before the
cursor, and the cursor is in the list and in the window. -/
structure Window (m : VertexList) : Prop extends Listing m where
  empty : m.visible.size = 0 → m.cursor = 0 ∧ m.offset = 0
  placed : 0 < m.visible.size →
    0 ≤ m.offset ∧ m.offset ≤ m.cursor ∧ m.cursor < m.visible.size ∧ m.cursor < m.offset + m.height

section Arithmetic

theorem wrap_of_fits {n : Int} (low : int64Min ≤ n) (high : n ≤ int64Max) : wrap n = n := by
  simp only [int64Min, int64Max] at low high
  unfold wrap
  omega

theorem Listing.visible_size_le (listing : Listing m) : m.visible.size ≤ m.arena.size := by
  rw [listing.visible_eq]
  exact Nat.le_trans Array.size_filter_le (Nat.le_of_eq Array.size_range)

theorem Listing.lt_of_mem (listing : Listing m) {v : Nat} (mem : v ∈ m.visible) : v < m.arena.size := by
  rw [listing.visible_eq] at mem
  exact Array.mem_range.1 (Array.mem_of_mem_filter mem)

end Arithmetic

section Move

@[simp] theorem visible_move (m : VertexList) (d : Int) : (m.move d).visible = m.visible := by
  unfold VertexList.move; split <;> rfl

@[simp] theorem height_move (m : VertexList) (d : Int) : (m.move d).height = m.height := by
  unfold VertexList.move; split <;> rfl

@[simp] theorem arena_move (m : VertexList) (d : Int) : (m.move d).arena = m.arena := by
  unfold VertexList.move; split <;> rfl

@[simp] theorem winners_move (m : VertexList) (d : Int) : (m.move d).winners = m.winners := by
  unfold VertexList.move; split <;> rfl

@[simp] theorem filter_move (m : VertexList) (d : Int) : (m.move d).filter = m.filter := by
  unfold VertexList.move; split <;> rfl

theorem move_of_empty (m : VertexList) (d : Int) (empty : m.visible.size = 0) :
    (m.move d).cursor = 0 ∧ (m.move d).offset = 0 := by
  unfold VertexList.move
  rw [if_pos (Array.isEmpty_iff_size_eq_zero.2 empty)]
  exact ⟨rfl, rfl⟩

/-- A move puts the cursor in the list and the window around it, from a window
that starts in range: clamping keeps the cursor in the list whatever the sum
`cursor + delta` wraps to, and the window's ends stay in machine range. -/
theorem move_placed (delta : Int) (nonempty : 0 < m.visible.size) (offsetLow : 0 ≤ m.offset)
    (offsetHigh : m.offset + m.height ≤ int64Max) (heightLow : 1 ≤ m.height)
    (room : m.height + m.visible.size ≤ int64Max) :
    0 ≤ (m.move delta).offset ∧ (m.move delta).offset ≤ (m.move delta).cursor ∧
      (m.move delta).cursor < m.visible.size ∧ (m.move delta).cursor < (m.move delta).offset + m.height := by
  simp only [int64Max] at offsetHigh room
  unfold VertexList.move
  rw [if_neg (by rw [Array.isEmpty_iff_size_eq_zero]; omega)]
  dsimp only
  unfold wrap
  split_ifs <;> omega

/-- Moving within the list lands exactly where asked. -/
theorem move_cursor_of_lt (listing : Listing m) {delta : Int} (low : 0 ≤ m.cursor + delta)
    (high : m.cursor + delta < m.visible.size) : (m.move delta).cursor = m.cursor + delta := by
  have within := listing.visible_size_le
  have room := listing.room
  have height := listing.height_ge
  simp only [int64Max] at room
  unfold VertexList.move
  rw [if_neg (by rw [Array.isEmpty_iff_size_eq_zero]; omega)]
  dsimp only
  rw [wrap_of_fits (by simp only [int64Min]; omega) (by simp only [int64Max]; omega)]
  omega

/-- Any move of a listing whose window starts in the list gives a window. -/
theorem Listing.window_move (listing : Listing m)
    (start : 0 < m.visible.size → 0 ≤ m.offset ∧ m.offset < m.visible.size) (delta : Int) :
    Window (m.move delta) where
  winners_size := by simpa using listing.winners_size
  height_ge := by simpa using listing.height_ge
  room := by simpa using listing.room
  visible_eq := by simpa using listing.visible_eq
  empty empty := move_of_empty m delta (by simpa using empty)
  placed nonempty := by
    rw [visible_move] at nonempty ⊢
    have within := listing.visible_size_le
    have room := listing.room
    have height := listing.height_ge
    obtain ⟨low, high⟩ := start nonempty
    rw [height_move]
    exact move_placed delta nonempty low (by omega) (by omega) (by omega)

theorem Window.move (window : Window m) (delta : Int) : Window (m.move delta) :=
  window.toListing.window_move (fun nonempty => by
    obtain ⟨low, le, lt, _⟩ := window.placed nonempty
    exact ⟨low, by omega⟩) delta

end Move

section Filters

theorem filterM_eq_ok {ε α : Type} {p : α → Except ε Bool} {q : α → Bool} (as : Array α)
    (agree : ∀ a ∈ as, p a = .ok (q a)) : as.filterM p = .ok (as.filter q) := by
  unfold Array.filterM Array.filter
  rw [← Array.foldlM_toList, ← Array.foldl_toList]
  have agreeList : ∀ a ∈ as.toList, p a = .ok (q a) := fun a mem => agree a (Array.mem_toList_iff.1 mem)
  generalize as.toList = xs at agreeList ⊢
  generalize (#[] : Array α) = acc
  induction xs generalizing acc with
  | nil => rfl
  | cons x xs ih =>
    rw [List.foldlM_cons, List.foldl_cons]
    have first : (do if (← p x) = true then return acc.push x else return acc : Except ε (Array α)) =
        .ok (if q x = true then acc.push x else acc) := by
      rw [agreeList x List.mem_cons_self]
      cases q x <;> rfl
    rw [first]
    exact ih (fun a mem => agreeList a (List.mem_cons_of_mem x mem)) _

/-- With one winner per vertex, a filter never fails: it lists what
`Filter.lists` lets through and puts cursor and window at the start. -/
theorem applyFilter_eq (sized : m.winners.size = m.arena.size) (f : Filter) :
    m.applyFilter f = .ok (m.filtered f) := by
  unfold VertexList.applyFilter
  dsimp only
  rw [filterM_eq_ok (q := f.lists m.winners)]
  · rfl
  · intro v mem
    have inside : v < m.winners.size := by rw [sized]; exact Array.mem_range.1 mem
    have found : m.winner v = .ok m.winners[v] := by simp [VertexList.winner, inside]
    cases f <;> simp [Filter.lists, found, inside, bind, Except.bind, pure, Except.pure]

theorem Window.filtered (window : Window m) (f : Filter) : Window (m.filtered f) where
  winners_size := window.winners_size
  height_ge := window.height_ge
  room := window.room
  visible_eq := rfl
  empty _ := ⟨rfl, rfl⟩
  placed nonempty := by
    have height := window.height_ge
    dsimp only [VertexList.filtered] at nonempty ⊢
    omega

end Filters

section Follow

theorem findSome?_findIdx?_eq_some {vis : Array Nat} :
    ∀ {succ : List Nat} {i : Nat}, succ.findSome? (fun w => vis.findIdx? (· == w)) = some i →
      i < vis.size ∧ vis[i]? = succ.find? (vis.contains ·)
  | [], _, found => nomatch found
  | w :: ws, i, found => by
    rw [List.findSome?_cons] at found
    cases first : vis.findIdx? (· == w) with
    | some j =>
      rw [first] at found
      cases found
      obtain ⟨inside, same, _⟩ := Array.findIdx?_eq_some_iff_getElem.1 first
      have same : vis[i] = w := by simpa using same
      have listed : vis.contains w = true := by
        rw [Array.contains_iff_mem, ← same]
        exact Array.getElem_mem inside
      refine ⟨inside, ?_⟩
      rw [List.find?_cons_of_pos listed, Array.getElem?_eq_getElem inside, same]
    | none =>
      rw [first] at found
      have unlisted : w ∉ vis := fun mem => by
        have := Array.findIdx?_eq_none_iff.1 first w mem
        simp at this
      rw [List.find?_cons_of_neg (by simpa using unlisted)]
      exact findSome?_findIdx?_eq_some found

theorem findSome?_findIdx?_isSome {vis : Array Nat} :
    ∀ {succ : List Nat}, (∃ w ∈ succ, w ∈ vis) →
      ∃ i, succ.findSome? (fun w => vis.findIdx? (· == w)) = some i
  | [], ⟨_, mem, _⟩ => nomatch mem
  | w :: ws, ⟨x, mem, listed⟩ => by
    rw [List.findSome?_cons]
    cases first : vis.findIdx? (· == w) with
    | some j => exact ⟨j, rfl⟩
    | none =>
      rcases List.mem_cons.1 mem with rfl | later
      · have := Array.findIdx?_eq_none_iff.1 first x listed
        simp at this
      · exact findSome?_findIdx?_isSome ⟨x, later, listed⟩

/-- Following an edge never fails and keeps the window and the arena. -/
theorem Window.follow (window : Window m) : ∃ m', m.follow = .ok m' ∧ Window m' ∧ m'.arena = m.arena := by
  unfold VertexList.follow
  split
  · exact ⟨m, rfl, window, rfl⟩
  · dsimp only
    split
    · exact ⟨_, rfl, window.move _, arena_move _ _⟩
    · split
      · split
        · rw [applyFilter_eq window.winners_size]
          exact ⟨_, rfl, (window.filtered .all).move _, arena_move _ _⟩
        · exact ⟨m, rfl, window, rfl⟩
      · exact ⟨m, rfl, window, rfl⟩

/-- When a successor of the selected vertex is listed, following an edge
keeps the list and puts the cursor on the first such successor. -/
theorem Window.follow_first_listed (window : Window m) {v : Nat}
    (selected : m.visible[m.cursor.toNat]? = some v)
    (listed : ∃ w ∈ (m.arena.vertex v).outgoing, w ∈ m.visible) :
    ∃ m', m.follow = .ok m' ∧ m'.visible = m.visible ∧
      m'.visible[m'.cursor.toNat]? = (m.arena.vertex v).outgoing.toList.find? (m.visible.contains ·) := by
  obtain ⟨i, target⟩ : ∃ i,
      (m.arena.vertex v).outgoing.toList.findSome? (fun w => m.visible.findIdx? (· == w)) = some i := by
    obtain ⟨w, out, mem⟩ := listed
    exact findSome?_findIdx?_isSome ⟨w, Array.mem_toList_iff.2 out, mem⟩
  obtain ⟨inside, first⟩ := findSome?_findIdx?_eq_some target
  have nonempty : 0 < m.visible.size := by omega
  obtain ⟨low, _, _, _⟩ := window.placed nonempty
  unfold VertexList.follow
  rw [selected]
  dsimp only
  rw [target]
  refine ⟨_, rfl, visible_move _ _, ?_⟩
  rw [visible_move, move_cursor_of_lt window.toListing (by omega) (by omega)]
  rw [show (m.cursor + (i - m.cursor)).toNat = i by omega]
  exact first

end Follow

section Messages

/-- An answer that succeeds with a window over the same arena. -/
def Answers (m : VertexList) (r : Except String (VertexList × Bool)) : Prop :=
  ∃ m' quits, r = .ok (m', quits) ∧ Window m' ∧ m'.arena = m.arena

theorem Window.press (window : Window m) (key : String) : Answers m (m.press key) := by
  have stays (quits : Bool) : Answers m (pure (m, quits)) := ⟨m, quits, rfl, window, rfl⟩
  have moves (d : Int) : Answers m (pure (m.move d, false)) :=
    ⟨_, false, rfl, window.move d, arena_move m d⟩
  have filters (f : Filter) : Answers m (do return (← m.applyFilter f, false)) := by
    rw [applyFilter_eq window.winners_size]
    exact ⟨_, false, rfl, window.filtered f, rfl⟩
  have follows : Answers m (do return (← m.follow, false)) := by
    obtain ⟨m', followed, window', sameArena⟩ := window.follow
    rw [followed]
    exact ⟨m', false, rfl, window', sameArena⟩
  -- every key quits or stays, moves the cursor, filters, or follows an edge
  unfold VertexList.press
  split <;> simp only [stays, moves, filters, follows]

/-- `enter` and `l` follow an edge and never quit. -/
theorem press_follow (m : VertexList) {key : String} (named : key ∈ ["enter", "l"]) :
    m.press key = (do return (← m.follow, false)) := by
  rcases List.mem_cons.1 named with rfl | later
  · unfold VertexList.press
    rfl
  · rw [List.mem_singleton.1 later]
    unfold VertexList.press
    rfl

/-- A new terminal height whose `rows - 10` stays in machine range, with room
above it for the list, keeps the window. -/
theorem Window.resize (window : Window m) {rows : Int} (low : int64Min ≤ rows - 10)
    (high : rows - 10 + m.arena.size ≤ int64Max) : Window (m.resize rows) := by
  have room := window.room
  have height := window.height_ge
  simp only [int64Min, int64Max] at low high room
  unfold VertexList.resize
  rw [wrap_of_fits (by simp only [int64Min]; omega) (by simp only [int64Max]; omega)]
  have listing : Listing { m with height := max (rows - 10) 5 } :=
    ⟨window.winners_size, Int.le_max_right _ _, by simp only [int64Max]; omega, window.visible_eq⟩
  refine listing.window_move (fun nonempty => ?_) 0
  obtain ⟨low, le, lt, _⟩ := window.placed nonempty
  exact ⟨low, by dsimp only; omega⟩

theorem Window.update (window : Window m) (msg : Message)
    (fits : ∀ rows, msg = .window rows → int64Min ≤ rows - 10 ∧ rows - 10 + m.arena.size ≤ int64Max) :
    Answers m (m.update msg) := by
  cases msg with
  | key name => exact window.press name
  | window rows =>
    obtain ⟨low, high⟩ := fits rows rfl
    refine ⟨_, false, rfl, window.resize low high, ?_⟩
    unfold VertexList.resize
    exact arena_move _ _

theorem Window.updates (window : Window m) :
    ∀ msgs : List Message,
      (∀ rows, Message.window rows ∈ msgs → int64Min ≤ rows - 10 ∧ rows - 10 + m.arena.size ≤ int64Max) →
      ∃ m', m.updates msgs = .ok m' ∧ Window m' ∧ m'.arena = m.arena := by
  intro msgs
  induction msgs generalizing m with
  | nil => exact fun _ => ⟨m, rfl, window, rfl⟩
  | cons msg msgs ih =>
    intro fits
    obtain ⟨next, quits, answered, nextWindow, sameArena⟩ :=
      window.update msg fun rows isWindow => fits rows (by rw [isWindow]; exact List.mem_cons_self)
    obtain ⟨last, run, lastWindow, lastArena⟩ := ih nextWindow fun rows mem => by
      rw [sameArena]
      exact fits rows (List.mem_cons_of_mem msg mem)
    refine ⟨last, ?_, lastWindow, lastArena.trans sameArena⟩
    rw [VertexList.updates, answered]
    exact run

theorem window_new {a : Arena} {winners : Array Player} (sized : winners.size = a.size)
    (small : (a.size : Int) + 15 ≤ int64Max) (title strategy : String) (measures : Array String) :
    Window (VertexList.new title a strategy winners measures) where
  winners_size := sized
  height_ge := show (5 : Int) ≤ 15 by decide
  room := show 15 + (a.size : Int) ≤ int64Max by omega
  visible_eq := (Array.filter_eq_self.2 fun _ _ => rfl).symm
  empty _ := ⟨rfl, rfl⟩
  placed nonempty := by
    simp only [VertexList.new] at nonempty ⊢
    omega

end Messages

section View

theorem mapM_eq_ok_of_forall {α β ε : Type} {f : α → Except ε β} :
    ∀ l : List α, (∀ a ∈ l, ∃ b, f a = .ok b) → ∃ bs, l.mapM f = .ok bs
  | [], _ => ⟨[], rfl⟩
  | a :: l, each => by
    obtain ⟨b, first⟩ := each a List.mem_cons_self
    obtain ⟨bs, rest⟩ := mapM_eq_ok_of_forall l fun x mem => each x (List.mem_cons_of_mem a mem)
    refine ⟨b :: bs, ?_⟩
    rw [List.mapM_cons, first, rest]
    rfl

theorem Window.row_ok (window : Window m) {i : Nat} (inside : i < m.visible.size) :
    ∃ cells, m.row i = .ok cells := by
  have listed : m.visible[i] < m.winners.size := by
    rw [window.winners_size]
    exact window.lt_of_mem (Array.getElem_mem inside)
  unfold VertexList.row
  rw [Array.getElem?_eq_getElem inside, Option.getD_some]
  simp only [VertexList.winner, Array.getElem?_eq_getElem listed]
  exact ⟨_, rfl⟩

/-- Drawing never fails: the rows drawn are positions of the list, from the
offset up to the end of the window or of the list, and every listed vertex
has its winner. -/
theorem Window.view_ok (window : Window m) : ∃ text, m.view = .ok text := by
  have offsetLow : 0 ≤ m.offset := by
    by_cases nonempty : 0 < m.visible.size
    · exact (window.placed nonempty).1
    · have := (window.empty (by omega)).2
      omega
  unfold VertexList.view
  dsimp only
  rw [if_neg (by omega)]
  obtain ⟨rows, drawn⟩ := mapM_eq_ok_of_forall
    (f := fun k => m.row (m.offset.toNat + k))
    (List.range (min (wrap (m.offset + m.height)) (m.visible.size : Int) - m.offset).toNat)
    (fun k mem => window.row_ok (by rw [List.mem_range] at mem; omega))
  simp only [bind, Except.bind, pure, Except.pure]
  rw [drawn]
  exact ⟨_, rfl⟩

end View

/-- Browsing a solved game keeps the shape of its window.  For every arena
with one winner per vertex and room for the first window, and every run of
keys and terminal heights whose `rows - 10` stays in machine range with room
above it for every vertex: no message fails, the list ends in a `Window` (the
height is at least five, the listed vertices are those the filter lets
through in increasing order, and the cursor and the window's start are in the
list, the cursor inside the window, or both at zero for an empty list),
drawing it never fails, and `enter` or `l` moves the cursor onto the first
listed successor of the selected vertex whenever one is listed. -/
theorem browsing_keeps_window {a : Arena} {winners : Array Player} (sized : winners.size = a.size)
    (small : (a.size : Int) + 15 ≤ int64Max) (title strategy : String) (measures : Array String) :
    ∀ msgs : List Message,
      (∀ rows, Message.window rows ∈ msgs → int64Min ≤ rows - 10 ∧ rows - 10 + a.size ≤ int64Max) →
      ∃ m, (VertexList.new title a strategy winners measures).updates msgs = .ok m ∧ Window m ∧
        (∃ text, m.view = .ok text) ∧
        ∀ key ∈ ["enter", "l"], ∀ v, m.visible[m.cursor.toNat]? = some v →
          (∃ w ∈ (m.arena.vertex v).outgoing, w ∈ m.visible) →
          ∃ m', m.press key = .ok (m', false) ∧ m'.visible = m.visible ∧
            m'.visible[m'.cursor.toNat]? = (m.arena.vertex v).outgoing.toList.find? (m.visible.contains ·) := by
  intro msgs fits
  obtain ⟨m, run, window, _⟩ := (window_new sized small title strategy measures).updates msgs fits
  refine ⟨m, run, window, window.view_ok, fun key named v selected listed => ?_⟩
  obtain ⟨m', followed, sameList, first⟩ := window.follow_first_listed selected listed
  have pressed : m.press key = .ok (m', false) := by
    rw [press_follow m named, followed]
    rfl
  exact ⟨m', pressed, sameList, first⟩

/-- Six vertices, each won by even, browsed through three messages. -/
theorem browsing_keeps_window_six :
    (Array.replicate 6 Player.even).size = (Arena.new 6).size ∧ ((Arena.new 6).size : Int) + 15 ≤ int64Max ∧
    ∀ msgs : List Message,
      (∀ rows, Message.window rows ∈ msgs →
        int64Min ≤ rows - 10 ∧ rows - 10 + (Arena.new 6).size ≤ int64Max) →
      ∃ m, (VertexList.new "game" (Arena.new 6) "recursive" (Array.replicate 6 .even) #[]).updates msgs =
          .ok m ∧ Window m ∧ (∃ text, m.view = .ok text) ∧
        ∀ key ∈ ["enter", "l"], ∀ v, m.visible[m.cursor.toNat]? = some v →
          (∃ w ∈ (m.arena.vertex v).outgoing, w ∈ m.visible) →
          ∃ m', m.press key = .ok (m', false) ∧ m'.visible = m.visible ∧
            m'.visible[m'.cursor.toNat]? = (m.arena.vertex v).outgoing.toList.find? (m.visible.contains ·) := by
  have sized : (Array.replicate 6 Player.even).size = (Arena.new 6).size := by decide
  have small : ((Arena.new 6).size : Int) + 15 ≤ int64Max := by decide
  exact ⟨sized, small, browsing_keeps_window sized small "game" "recursive" #[]⟩

/-- A terminal height of `-9223372036854775799` rows wraps the window's height
to the top of the machine range; with the cursor on the last of six vertices
and the window one row down, the offset then wraps far below zero, and
drawing looks up that negative position. -/
theorem window_wraps_below_zero :
    ((VertexList.new "game" (Arena.new 6) "recursive" (Array.replicate 6 .even) #[]).updates
        [.window 0, .key "end", .window (-9223372036854775799)]).toOption.map
        (fun m => (m.cursor, m.offset, m.height)) =
      some (5, -9223372036854775801, 9223372036854775807) ∧
    (((VertexList.new "game" (Arena.new 6) "recursive" (Array.replicate 6 .even) #[]).updates
        [.window 0, .key "end", .window (-9223372036854775799)] >>= VertexList.view) matches
      .error "runtime error: index out of range [-9223372036854775801]") := by
  decide +kernel

end Screen

end ParityGames
