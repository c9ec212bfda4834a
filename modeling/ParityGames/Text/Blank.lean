/-!
# Blank characters

The white-space class used when names and lines are trimmed: the ASCII
blanks, next-line, no-break space and the other Unicode `White_Space`
characters.  Lean's own `Char.isWhitespace` knows only the ASCII ones and
misses the vertical tab and form feed.
-/

namespace ParityGames

namespace Text

/-- The Unicode white-space characters. -/
def isBlank (c : Char) : Bool :=
  let n := c.toNat
  (n ≥ 9 && n ≤ 13) || n == 32 || n == 0x85 || n == 0xA0 || n == 0x1680 ||
    (n ≥ 0x2000 && n ≤ 0x200A) || n == 0x2028 || n == 0x2029 || n == 0x202F ||
    n == 0x205F || n == 0x3000

/-- Drops blanks at both ends of a text. -/
def trimBlanks (s : String) : String :=
  ((s.dropWhile isBlank).dropEndWhile isBlank).toString

/-- The ASCII lower case of a text.  Names compared after folding are all
ASCII words without `k`, so no other character can fold into one of them. -/
def foldCase (s : String) : String := s.map Char.toLower

/-- The canonical form in which keywords are compared: trimmed, then folded. -/
def keyword (s : String) : String := foldCase (trimBlanks s)

/-- Splits a text at runs of blanks, dropping empty pieces. -/
def fields (s : String) : List String :=
  let rec go (cs : List Char) (cur : List Char) (acc : List String) : List String :=
    match cs with
    | [] => (if cur.isEmpty then acc else String.ofList cur.reverse :: acc).reverse
    | c :: rest =>
      if isBlank c then
        go rest [] (if cur.isEmpty then acc else String.ofList cur.reverse :: acc)
      else go rest (c :: cur) acc
  go s.toList [] []

/-- Splits a text at every occurrence of a separator character, keeping the
empty pieces: a text with `k` separators has `k + 1` pieces. -/
def splitChar (sep : Char) (s : String) : List String :=
  (s.toList.splitOn sep).map String.ofList

theorem isBlank_space : isBlank ' ' = true := rfl

theorem isBlank_tab : isBlank '\t' = true := rfl

end Text

end ParityGames
