import ParityGames.Text.Quoted

/-!
# Durations

A duration is a signed number of nanoseconds.  Its text uses the largest
fitting units: below a second a single unit (`ns`, `µs` or `ms`) with a
decimal fraction, from a second on hours, minutes and seconds, as in
`1h2m3.5s`; a fraction never ends in a zero and zero is `0s`.

Reading accepts a sign and a sequence of decimal numbers, each with a unit
out of `ns`, `us`, `µs`, `μs`, `ms`, `s`, `m` and `h`, such as `1.5h` or
`2h45m`; a lone `0` needs no unit.
-/

namespace ParityGames

namespace Text

/-- Nanoseconds per unit. -/
def nanosPerMicro : Nat := 1000

/-- Nanoseconds per millisecond. -/
def nanosPerMilli : Nat := 1000000

/-- Nanoseconds per second. -/
def nanosPerSecond : Nat := 1000000000

/-- The fraction `v mod 10^prec` as `.ddd` without trailing zeros, or nothing
when it is zero. -/
def fractionText (v prec : Nat) : String :=
  let f := v % Nat.pow 10 prec
  if f == 0 then ""
  else
    let digits := toString f
    let padded := String.ofList (List.replicate (prec - digits.length) '0') ++ digits
    "." ++ String.ofList ((padded.toList.reverse.dropWhile (· == '0')).reverse)

/-- The text of a non-negative number of nanoseconds. -/
def durationMagnitude (u : Nat) : String :=
  if u == 0 then "0s"
  else if u < nanosPerMicro then toString u ++ "ns"
  else if u < nanosPerMilli then toString (u / 1000) ++ fractionText u 3 ++ "µs"
  else if u < nanosPerSecond then toString (u / 1000000) ++ fractionText u 6 ++ "ms"
  else
    let secs := u / nanosPerSecond
    let frac := fractionText u 9
    let s := toString (secs % 60) ++ frac ++ "s"
    let mins := secs / 60
    if mins == 0 then s
    else
      let m := toString (mins % 60) ++ "m" ++ s
      let hours := mins / 60
      if hours == 0 then m else toString hours ++ "h" ++ m

/-- The text of a duration. -/
def durationText (d : Int) : String :=
  if d < 0 then "-" ++ durationMagnitude d.natAbs else durationMagnitude d.toNat

/-- The nanoseconds of a unit name. -/
def unitNanos : String → Option Nat
  | "ns" => some 1
  | "us" => some 1000
  | "µs" => some 1000
  | "μs" => some 1000
  | "ms" => some 1000000
  | "s" => some 1000000000
  | "m" => some 60000000000
  | "h" => some 3600000000000
  | _ => none

/-- The largest duration, in nanoseconds. -/
def maxDuration : Nat := 9223372036854775807

/-- Quotes a text for a duration message: quotes and backslashes are
escaped, and every byte of a character outside printable ASCII is written
as a hex escape. -/
def timeQuote (s : String) : String :=
  let body := s.toList.map fun c =>
    if c.toNat ≥ 0x80 || c.toNat < 0x20 then
      String.join ((utf8Bytes (String.singleton c)).map fun b => "\\x" ++ String.ofList (hexDigits b.toNat 2))
    else if c == '"' || c == '\\' then "\\" ++ String.singleton c
    else String.singleton c
  "\"" ++ String.join body ++ "\""

/-- Reads one `number unit` term from the front, giving its nanoseconds and
the rest; the error is the text of the failure. -/
def readTerm (orig : String) (cs : List Char) : Except String (Nat × List Char) := do
  let invalid : String := "time: invalid duration " ++ timeQuote orig
  let (whole, rest) := (cs.takeWhile Char.isDigit, cs.dropWhile Char.isDigit)
  let (frac, rest, dot) := match rest with
    | '.' :: r => (r.takeWhile Char.isDigit, r.dropWhile Char.isDigit, true)
    | r => ([], r, false)
  if whole.isEmpty && frac.isEmpty then throw invalid
  let _ := dot
  let unitChars := rest.takeWhile fun c => c != '.' && !c.isDigit
  let rest := rest.drop unitChars.length
  let unit := String.ofList unitChars
  if unit.isEmpty then throw ("time: missing unit in duration " ++ timeQuote orig)
  match unitNanos unit with
  | none => throw ("time: unknown unit " ++ timeQuote unit ++ " in duration " ++ timeQuote orig)
  | some per =>
    let w := whole.foldl (fun n c => n * 10 + (c.toNat - 48)) 0
    let fv := frac.foldl (fun n c => n * 10 + (c.toNat - 48)) 0
    let total := w * per + fv * per / Nat.pow 10 frac.length
    if w > maxDuration / per || total > maxDuration then throw invalid
    return (total, rest)

/-- Reads the terms of a duration, for at most `fuel` terms. -/
def readTerms (orig : String) : Nat → List Char → Nat → Except String Nat
  | 0, _, acc => .ok acc
  | _ + 1, [], acc => .ok acc
  | fuel + 1, cs, acc => do
    let (v, rest) ← readTerm orig cs
    if rest.length ≥ cs.length then throw ("time: invalid duration " ++ timeQuote orig)
    let acc := acc + v
    if acc > maxDuration then throw ("time: invalid duration " ++ timeQuote orig)
    readTerms orig fuel rest acc

/-- Reads a duration in nanoseconds. -/
def parseDuration (s : String) : Except String Int := do
  let (neg, cs) := match s.toList with
    | '-' :: r => (true, r)
    | '+' :: r => (false, r)
    | r => (false, r)
  if cs == ['0'] then return 0
  if cs.isEmpty then throw ("time: invalid duration " ++ timeQuote s)
  let n ← readTerms s (cs.length + 1) cs 0
  return if neg then -(n : Int) else n

theorem durationText_zero : durationText 0 = "0s" := by decide +kernel

end Text

end ParityGames
