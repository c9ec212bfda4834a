/-!
# Decimal text of floating-point numbers

A finite double is an exact binary fraction `m · 2^e`.  Its shortest text is
the decimal with the fewest significant digits that still reads back as the
same double: at each length the two decimals around the value are tried, a
decimal reads back as the double when it lies within half a unit in the last
place (the bounds count when the mantissa is even, as ties round to even),
and when both qualify the nearer one is taken, ties going to the even digit.

Fixed-point text with `n` decimals rounds the exact value to the nearest
multiple of `10^-n`, ties going to the even digit.
-/

namespace ParityGames

namespace Text

/-- A finite double as sign, mantissa and binary exponent: the value is
`mantissa · 2^exponent`. -/
structure Binary where
  negative : Bool
  mantissa : Nat
  exponent : Int
  /-- Whether the gap to the next smaller double is half the usual one. -/
  narrowBelow : Bool
  deriving Repr

/-- The parts of a double; `none` for infinities and NaN. -/
def Binary.ofFloat (x : Float) : Option Binary :=
  let bits := x.toBits.toNat
  let negative := bits / Nat.pow 2 63 % 2 == 1
  let field : Nat := bits / Nat.pow 2 52 % 2048
  let fraction := bits % Nat.pow 2 52
  if field == 2047 then none
  else if field == 0 then some ⟨negative, fraction, -1074, false⟩
  else some ⟨negative, fraction + Nat.pow 2 52, (field : Int) - 1075, fraction == 0 && field > 1⟩

/-- The positive part of an integer. -/
def upPart (n : Int) : Nat := n.toNat

/-- The negative part of an integer. -/
def downPart (n : Int) : Nat := (-n).toNat

/-- Compares `a · 2^s` with `c · 10^p`. -/
def compareScaled (a : Nat) (s : Int) (c : Nat) (p : Int) : Ordering :=
  compare (a * Nat.pow 2 (upPart s) * Nat.pow 10 (downPart p))
    (c * Nat.pow 10 (upPart p) * Nat.pow 2 (downPart s))

/-- `⌊a · 2^s / 10^p⌋`. -/
def floorScaled (a : Nat) (s : Int) (p : Int) : Nat :=
  a * Nat.pow 2 (upPart s) * Nat.pow 10 (downPart p) / (Nat.pow 10 (upPart p) * Nat.pow 2 (downPart s))

/-- The decimal exponent of a positive value `a · 2^s`: the `E` with
`10^E ≤ a · 2^s < 10^(E+1)`, found from an estimate by a few steps. -/
def decimalExponent (a : Nat) (s : Int) : Int :=
  let b : Int := (Nat.log2 a : Int) + s
  let guess := b * 78913 / 262144
  let up := Nat.repeat (fun e => if compareScaled a s 1 (e + 1) != .lt then e + 1 else e) 4 guess
  Nat.repeat (fun e => if compareScaled a s 1 e == .lt then e - 1 else e) 4 up

/-- Digits and point of a decimal: the value is `0.digits × 10^point`. -/
structure Decimal where
  digits : String
  point : Int
  deriving Repr, DecidableEq

/-- The decimal `c · 10^p`, without trailing zeros. -/
def Decimal.ofScaled (c : Nat) (p : Int) : Decimal :=
  let s := toString c
  let trimmed := String.ofList ((s.toList.reverse.dropWhile (· == '0')).reverse)
  ⟨if trimmed.isEmpty then "0" else trimmed, p + s.length⟩

/-- The shortest decimal that reads back as the positive double `b`. -/
def shortest (b : Binary) : Decimal :=
  let s := b.exponent - 2
  let x := 4 * b.mantissa
  let hi := x + 2
  let lo := if b.narrowBelow then x - 1 else x - 2
  let inclusive := b.mantissa % 2 == 0
  let e := decimalExponent x s
  let within (o : Ordering) : Bool := o == .lt || (inclusive && o == .eq)
  let attempt (k : Nat) : Option Decimal :=
    let p := e - k + 1
    let c := floorScaled x s p
    let okDown := within (compareScaled lo s c p)
    let okUp := within (compare (compareScaled hi s (c + 1) p) .eq |>.swap)
    if okDown && okUp then
      match compareScaled (2 * x) s (2 * c + 1) p with
      | .lt => some (Decimal.ofScaled c p)
      | .gt => some (Decimal.ofScaled (c + 1) p)
      | .eq => some (Decimal.ofScaled (if c % 2 == 0 then c else c + 1) p)
    else if okDown then some (Decimal.ofScaled c p)
    else if okUp then some (Decimal.ofScaled (c + 1) p)
    else none
  let rec search : Nat → Nat → Decimal
    | 0, k => Decimal.ofScaled (floorScaled x s (e - k + 1)) (e - k + 1)
    | fuel + 1, k =>
      match attempt k with
      | some d => d
      | none => search fuel (k + 1)
  search 17 1

/-- The digit at position `i` of a decimal's digits, `0` outside them. -/
def Decimal.digitAt (d : Decimal) (i : Int) : Char :=
  if i < 0 then '0' else (d.digits.toList[i.toNat]?).getD '0'

/-- Fixed notation with the digits that the decimal needs. -/
def Decimal.fixed (d : Decimal) (decimals : Nat) : String :=
  let whole :=
    if d.point > 0 then String.ofList ((List.range d.point.toNat).map fun (i : Nat) => d.digitAt i)
    else "0"
  let frac := String.ofList ((List.range decimals).map fun (i : Nat) => d.digitAt (d.point + i))
  if decimals = 0 then whole else whole ++ "." ++ frac

/-- Exponent notation: one digit, the rest after a point, and a signed
exponent of at least two digits. -/
def Decimal.scientific (d : Decimal) : String :=
  let first := d.digits.toList.headD '0'
  let rest := String.ofList (d.digits.toList.drop 1)
  let mant := if rest.isEmpty then String.singleton first else String.singleton first ++ "." ++ rest
  let ex := d.point - 1
  let sign := if ex < 0 then "-" else "+"
  let mag := toString ex.natAbs
  mant ++ "e" ++ sign ++ (if mag.length < 2 then "0" ++ mag else mag)

/-- The shortest text of a double in fixed notation, as a number's default
text: no exponent, no trailing zeros. -/
def floatShortestFixed (x : Float) : String :=
  match Binary.ofFloat x with
  | none => if x.isNaN then "NaN" else if x > 0 then "+Inf" else "-Inf"
  | some b =>
    let sign := if b.negative then "-" else ""
    if b.mantissa == 0 then sign ++ "0"
    else
      let d := shortest b
      sign ++ d.fixed (d.digits.length - d.point).toNat

/-- The text of a double as a JSON number: fixed notation from `1e-6` up to
`1e21`, exponent notation outside, with a one-digit negative exponent not
padded. -/
def floatJson (x : Float) : String :=
  match Binary.ofFloat x with
  | none => "null"
  | some b =>
    let sign := if b.negative then "-" else ""
    if b.mantissa == 0 then sign ++ "0"
    else
      let d := shortest b
      if x.abs < 1e-6 || x.abs ≥ 1e21 then
        let t := d.scientific
        let cs := t.toList
        let n := cs.length
        let t := if n ≥ 4 && cs[n - 4]? == some 'e' && cs[n - 3]? == some '-' && cs[n - 2]? == some '0'
          then String.ofList (cs.take (n - 2) ++ cs.drop (n - 1)) else t
        sign ++ t
      else sign ++ d.fixed (d.digits.length - d.point).toNat

/-- A double rounded to `decimals` places, ties to even, in fixed notation. -/
def floatFixed (x : Float) (decimals : Nat) : String :=
  match Binary.ofFloat x with
  | none => if x.isNaN then "NaN" else if x > 0 then "+Inf" else "-Inf"
  | some b =>
    let sign := if b.negative then "-" else ""
    let p : Int := -(decimals : Int)
    let c := floorScaled b.mantissa b.exponent p
    let c := match compareScaled (2 * b.mantissa) b.exponent (2 * c + 1) p with
      | .lt => c
      | .gt => c + 1
      | .eq => if c % 2 == 0 then c else c + 1
    let s := toString c
    let s := if s.length ≤ decimals then String.ofList (List.replicate (decimals + 1 - s.length) '0') ++ s else s
    let whole := String.ofList (s.toList.take (s.length - decimals))
    let frac := String.ofList (s.toList.drop (s.length - decimals))
    sign ++ (if decimals = 0 then whole else whole ++ "." ++ frac)

end Text

end ParityGames
