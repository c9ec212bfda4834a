/-!
# Instants and their RFC 3339 text

An instant is a number of nanoseconds since 1970-01-01 00:00:00 UTC, and
may be negative.  The *zero instant* is the start of year 1, which stands
for "no time at all" in stored entries.

Calendar dates are computed in the proleptic Gregorian calendar by counting
days in eras of 400 years, each 146097 days long.  Text is written in UTC
with nanoseconds, trailing zeros of the fraction dropped, as in
`2025-06-01T12:00:00.5Z`.  Reading accepts the strict RFC 3339 form: a
four-digit year, two-digit fields in range for the month, an optional
fraction after a period, and `Z` or a `+hh:mm`/`-hh:mm` offset.
-/

namespace ParityGames

namespace Time

/-- Nanoseconds in a second. -/
def second : Int := 1000000000

/-- Seconds in a day. -/
def daySeconds : Int := 86400

/-- The day number (days since 1970-01-01) of a civil date. -/
def daysFromCivil (y : Int) (m d : Nat) : Int :=
  let y := if m ≤ 2 then y - 1 else y
  let era := y / 400
  let yoe := y - era * 400
  let mp : Int := if m > 2 then m - 3 else m + 9
  let doy := (153 * mp + 2) / 5 + d - 1
  let doe := yoe * 365 + yoe / 4 - yoe / 100 + doy
  era * 146097 + doe - 719468

/-- The civil date (year, month, day) of a day number. -/
def civilFromDays (z : Int) : Int × Nat × Nat :=
  let z := z + 719468
  let era := z / 146097
  let doe := z - era * 146097
  let yoe := (doe - doe / 1460 + doe / 36524 - doe / 146096) / 365
  let y := yoe + era * 400
  let doy := doe - (365 * yoe + yoe / 4 - yoe / 100)
  let mp := (5 * doy + 2) / 153
  let d := doy - (153 * mp + 2) / 5 + 1
  let m := if mp < 10 then mp + 3 else mp - 9
  (if m ≤ 2 then y + 1 else y, m.toNat, d.toNat)

/-- The zero instant: 0001-01-01 00:00:00 UTC. -/
def zero : Int := daysFromCivil 1 1 1 * daySeconds * second

/-- Whether a year is a leap year. -/
def isLeap (y : Int) : Bool := y % 4 == 0 && (y % 100 != 0 || y % 400 == 0)

/-- The number of days in a month. -/
def daysIn (y : Int) (m : Nat) : Nat :=
  match m with
  | 2 => if isLeap y then 29 else 28
  | 4 | 6 | 9 | 11 => 30
  | _ => 31

/-- A number written with at least `width` digits. -/
def padded (width : Nat) (n : Nat) : String :=
  let s := toString n
  String.ofList (List.replicate (width - s.length) '0') ++ s

/-- The fraction of a second, nanoseconds with trailing zeros dropped and
a leading period; empty for a whole second. -/
def fraction (ns : Nat) : String :=
  if ns == 0 then ""
  else "." ++ String.ofList ((padded 9 ns).toList.reverse.dropWhile (· == '0')).reverse

/-- The RFC 3339 text of an instant, in UTC with nanoseconds. -/
def rfc3339 (t : Int) : String :=
  let secs := t / second
  let ns := (t - secs * second).toNat
  let days := secs / daySeconds
  let rem := (secs - days * daySeconds).toNat
  let (y, m, d) := civilFromDays days
  let year := if y < 0 then "-" ++ padded 4 y.natAbs else padded 4 y.toNat
  s!"{year}-{padded 2 m}-{padded 2 d}T{padded 2 (rem / 3600)}:{padded 2 (rem / 60 % 60)}:" ++
    s!"{padded 2 (rem % 60)}{fraction ns}Z"

/-- The time of day of an instant as `hh:mm:ss.cc`, hundredths cut. -/
def clockText (t : Int) : String :=
  let secs := t / second
  let rem := (secs - secs / daySeconds * daySeconds).toNat
  let cs := ((t - secs * second) / 10000000).toNat
  s!"{padded 2 (rem / 3600)}:{padded 2 (rem / 60 % 60)}:{padded 2 (rem % 60)}.{padded 2 cs}"

/-- The value of a run of digits of a fixed width, within bounds. -/
def field (cs : List Char) (lo hi : Nat) : Option Nat :=
  if cs.isEmpty || !cs.all Char.isDigit then none
  else
    let v := cs.foldl (fun n c => n * 10 + (c.toNat - 48)) 0
    if lo ≤ v && v ≤ hi then some v else none

/-- The nanoseconds of the digits of a fraction, extra digits cut. -/
def nanos (ds : List Char) : Nat :=
  let ds := (ds.take 9) ++ List.replicate (9 - min 9 ds.length) '0'
  ds.foldl (fun n c => n * 10 + (c.toNat - 48)) 0

/-- Reads strict RFC 3339 text. -/
def parse? (s : String) : Option Int := do
  let cs := s.toList
  guard (cs.length ≥ 19)
  let y ← field (cs.take 4) 0 9999
  let m ← field ((cs.drop 5).take 2) 1 12
  let d ← field ((cs.drop 8).take 2) 1 (daysIn y m)
  let hh ← field ((cs.drop 11).take 2) 0 23
  let mm ← field ((cs.drop 14).take 2) 0 59
  let ss ← field ((cs.drop 17).take 2) 0 59
  guard (cs.getD 4 ' ' == '-' && cs.getD 7 ' ' == '-' && cs.getD 10 ' ' == 'T' &&
    cs.getD 13 ' ' == ':' && cs.getD 16 ' ' == ':')
  let rest := cs.drop 19
  let (ns, rest) := match rest with
    | '.' :: more =>
      let ds := more.takeWhile Char.isDigit
      if ds.isEmpty then (0, rest) else (nanos ds, more.drop ds.length)
    | _ => (0, rest)
  let offset ← match rest with
    | ['Z'] => some 0
    | [sign, h1, h2, ':', m1, m2] => do
      let oh ← field [h1, h2] 0 23
      let om ← field [m1, m2] 0 59
      if sign == '+' then some ((oh * 60 + om) * 60 : Int)
      else if sign == '-' then some (-((oh * 60 + om) * 60 : Int))
      else none
    | _ => none
  let secs := daysFromCivil y m d * daySeconds + (hh * 3600 + mm * 60 + ss : Nat) - offset
  pure (secs * second + ns)

theorem rfc3339_epoch : rfc3339 0 = "1970-01-01T00:00:00Z" := by decide +kernel

theorem rfc3339_zero : rfc3339 zero = "0001-01-01T00:00:00Z" := by decide +kernel

theorem parse_zero : parse? "0001-01-01T00:00:00Z" = some zero := by decide +kernel

end Time

end ParityGames
