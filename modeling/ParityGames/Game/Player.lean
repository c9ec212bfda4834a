import ParityGames.Text.Blank
import ParityGames.Text.Quoted

/-!
# Players

A parity game is played by two players, *Even* and *Odd*.  A player is stored
by its integer code: `0` is Even and `1` is Odd.  Any other code is kept as it
was given, so that a game can be inspected exactly as it was built, but it
reads as Even everywhere a player is named.
-/

namespace ParityGames

/-- A player, stored by its integer code. -/
structure Player where
  code : Int
  deriving DecidableEq, Repr, Inhabited

namespace Player

/-- The player who wins on even priorities. -/
def even : Player := ⟨0⟩

/-- The player who wins on odd priorities. -/
def odd : Player := ⟨1⟩

/-- Only the code `1` denotes Odd. -/
def isOdd (p : Player) : Bool := p.code == 1

/-- Only the code `0` denotes Even in the strict sense used by ownership tests. -/
def isEven (p : Player) : Bool := p.code == 0

/-- The name of a player: `odd` for Odd, `even` for every other code. -/
def name (p : Player) : String := if p.isOdd then "odd" else "even"

/-- The other player.  Every code other than Odd counts as Even here. -/
def opponent (p : Player) : Player := if p.isOdd then even else odd

/-- Reads a player name: surrounding blanks and case are ignored, and `even`,
`0`, `odd` and `1` are accepted.  A failure returns the text as given. -/
def parse (s : String) : Except String Player :=
  match Text.keyword s with
  | "even" | "0" => .ok even
  | "odd" | "1" => .ok odd
  | _ => .error s!"unknown player {Text.quote s}"

theorem name_odd : odd.name = "odd" := rfl

theorem name_even : even.name = "even" := rfl

theorem opponent_odd : odd.opponent = even := rfl

theorem opponent_even : even.opponent = odd := rfl

end Player

end ParityGames
