/-!
# Decimal integers

Reading signed decimal integers: an optional `+` or `-`, then at least one
ASCII digit and nothing else; leading zeros are allowed, and the value must
fit in 64 signed bits.
-/

namespace ParityGames

namespace Text

/-- The smallest 64-bit signed integer. -/
def int64Min : Int := -9223372036854775808

/-- The largest 64-bit signed integer. -/
def int64Max : Int := 9223372036854775807

/-- Whether a number fits in 64 signed bits. -/
def fitsInt64 (n : Int) : Bool := int64Min ≤ n && n ≤ int64Max

/-- The value of a non-empty run of ASCII digits. -/
def digitsValue (cs : List Char) : Option Nat :=
  if cs.isEmpty || !cs.all Char.isDigit then none
  else some (cs.foldl (fun n c => n * 10 + (c.toNat - 48)) 0)

/-- Reads a signed decimal integer that fits in 64 bits. -/
def parseInt? (s : String) : Option Int :=
  let (neg, digits) := match s.toList with
    | '+' :: rest => (false, rest)
    | '-' :: rest => (true, rest)
    | cs => (false, cs)
  match digitsValue digits with
  | none => none
  | some n =>
    let v : Int := if neg then -(n : Int) else n
    if fitsInt64 v then some v else none

theorem parseInt?_plus : parseInt? "+5" = some 5 := by decide +kernel

theorem parseInt?_zeros : parseInt? "007" = some 7 := by decide +kernel

end Text

end ParityGames
