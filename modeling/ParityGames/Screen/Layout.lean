/-!
# Laying text out in terminal cells

A terminal shows text in a grid of cells.  Most characters take one cell,
East Asian wide characters and emoji take two, and control characters and
combining marks take none.  A *block* is text laid out as a rectangle: tabs
become four spaces, `\r\n` becomes `\n`, and when the text spans several
lines or has a fixed width, every line is padded on the right to the width
of the widest line (or to the fixed width, if that is wider).  Padding adds
spaces to the left and right of every line.

Styles such as colours and bold are not drawn: output goes to terminals
without colour, so a styled text is laid out exactly like a plain one.
-/

namespace ParityGames

namespace Screen

/-- Whether a code point lies in one of the ranges, given as closed
intervals. -/
def inSpans (spans : List (Nat × Nat)) (n : Nat) : Bool :=
  spans.any fun (lo, hi) => lo ≤ n && n ≤ hi

/-- Code points that take no cell: combining marks, zero-width spaces and
joiners, and variation selectors. -/
def zeroWidthSpans : List (Nat × Nat) :=
  [(0x0300, 0x036F), (0x0483, 0x0489), (0x0591, 0x05BD), (0x0610, 0x061A),
   (0x064B, 0x065F), (0x1AB0, 0x1AFF), (0x1DC0, 0x1DFF), (0x200B, 0x200F),
   (0x20D0, 0x20FF), (0xFE00, 0xFE0F), (0xFE20, 0xFE2F), (0xE0100, 0xE01EF)]

/-- Code points that take two cells: East Asian wide and full-width forms and
emoji. -/
def wideSpans : List (Nat × Nat) :=
  [(0x1100, 0x115F), (0x231A, 0x231B), (0x2329, 0x232A), (0x23E9, 0x23EC),
   (0x25FD, 0x25FE), (0x2614, 0x2615), (0x2648, 0x2653), (0x26AA, 0x26AB),
   (0x26BD, 0x26BE), (0x26C4, 0x26C5), (0x2705, 0x2705), (0x270A, 0x270B),
   (0x274C, 0x274C), (0x2753, 0x2755), (0x2795, 0x2797), (0x2B1B, 0x2B1C),
   (0x2E80, 0x303E), (0x3041, 0x33FF), (0x3400, 0x4DBF), (0x4E00, 0x9FFF),
   (0xA000, 0xA4CF), (0xA960, 0xA97F), (0xAC00, 0xD7A3), (0xF900, 0xFAFF),
   (0xFE10, 0xFE19), (0xFE30, 0xFE6F), (0xFF00, 0xFF60), (0xFFE0, 0xFFE6),
   (0x1F004, 0x1F004), (0x1F0CF, 0x1F0CF), (0x1F18E, 0x1F18E), (0x1F191, 0x1F19A),
   (0x1F200, 0x1F251), (0x1F300, 0x1F64F), (0x1F680, 0x1F6FF), (0x1F7E0, 0x1F7EB),
   (0x1F900, 0x1F9FF), (0x1FA70, 0x1FAFF), (0x20000, 0x3FFFD)]

/-- The number of cells a character takes. -/
def charWidth (c : Char) : Nat :=
  let n := c.toNat
  if n < 0x20 || (0x7F ≤ n && n < 0xA0) then 0
  else if inSpans zeroWidthSpans n then 0
  else if inSpans wideSpans n then 2
  else 1

/-- The number of cells a line of text takes. -/
def lineWidth (s : String) : Nat := (s.toList.map charWidth).foldr (· + ·) 0

/-- The lines of a text. -/
def lines (s : String) : List String := s.splitOn "\n"

/-- The width of a text: that of its widest line. -/
def width (s : String) : Nat := (lines s).foldl (fun n l => max n (lineWidth l)) 0

/-- Pads a line with spaces on the right to a width. -/
def padTo (w : Nat) (l : String) : String :=
  l ++ String.ofList (List.replicate (w - lineWidth l) ' ')

/-- Spaces. -/
def spaces (n : Nat) : String := String.ofList (List.replicate n ' ')

/-- Lays text out as a block of at least `fixed` cells wide (`0` for no
fixed width) with `pad` spaces on either side of every line. -/
def block (fixed : Nat := 0) (pad : Nat := 0) (s : String) : String :=
  let s := (s.replace "\t" "    ").replace "\r\n" "\n"
  let ls := (lines s).map fun l => spaces pad ++ l ++ spaces pad
  match ls with
  | [l] => if fixed == 0 then l else padTo fixed l
  | _ =>
    let w := max fixed (ls.foldl (fun n l => max n (lineWidth l)) 0)
    "\n".intercalate (ls.map (padTo w))

theorem charWidth_ascii : charWidth 'a' = 1 := by decide

theorem charWidth_wide : charWidth '中' = 2 := by decide

end Screen

end ParityGames
