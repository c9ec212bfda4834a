import ParityGames.Text.Printable
import ParityGames.Text.Utf8

/-!
# Quoted texts

Double-quoted string literals with backslash escapes.  Writing a literal
escapes the quote and the backslash, keeps printable characters, writes the
seven control characters that have a letter escape (`\a \b \f \n \r \t \v`)
with it, writes other characters below the space and `DEL` as `\xHH`, other
characters below `U+10000` as `\uHHHH` and the rest as `\UHHHHHHHH`, all with
lower-case hex digits.  A stray byte is written `\xHH`.

Reading a literal accepts the same escapes plus octal ones `\ooo` and `\xHH`
for single bytes, so the result is a byte sequence.
-/

namespace ParityGames

namespace Text

/-- The lower-case hex digit of a number below sixteen. -/
def hexDigit (n : Nat) : Char :=
  if n < 10 then Char.ofNat (48 + n) else Char.ofNat (87 + n)

/-- The `width` lowest hex digits of `n`, most significant first. -/
def hexDigits (n width : Nat) : List Char :=
  (List.range width).reverse.map fun i => hexDigit (n / Nat.pow 16 i % 16)

/-- The escape of one character inside a double-quoted literal. -/
def escapeChar (c : Char) : List Char :=
  if c == '"' || c == '\\' then ['\\', c]
  else if isPrintable c then [c]
  else
    match c with
    | '\x07' => ['\\', 'a']
    | '\x08' => ['\\', 'b']
    | '\x0c' => ['\\', 'f']
    | '\n' => ['\\', 'n']
    | '\r' => ['\\', 'r']
    | '\t' => ['\\', 't']
    | '\x0b' => ['\\', 'v']
    | _ =>
      let n := c.toNat
      if n < 32 || n == 127 then '\\' :: 'x' :: hexDigits n 2
      else if n < 0x10000 then '\\' :: 'u' :: hexDigits n 4
      else '\\' :: 'U' :: hexDigits n 8

/-- The escape of one piece: a stray byte is written as a hex byte escape. -/
def escapePiece : Piece → List Char
  | .char c => escapeChar c
  | .stray b => '\\' :: 'x' :: hexDigits b.toNat 2

/-- The double-quoted literal of a sequence of pieces. -/
def quotePieces (ps : List Piece) : String :=
  String.ofList ('"' :: (ps.flatMap escapePiece ++ ['"']))

/-- The double-quoted literal of a text. -/
def quote (s : String) : String := quotePieces (piecesOf s)

/-- The double-quoted literal of a byte text. -/
def quoteBytes (bs : List UInt8) : String := quotePieces (decode bs)

/-- The value of a hex digit character. -/
def hexValue (c : Char) : Option Nat :=
  if c ≥ '0' && c ≤ '9' then some (c.toNat - 48)
  else if c ≥ 'a' && c ≤ 'f' then some (c.toNat - 87)
  else if c ≥ 'A' && c ≤ 'F' then some (c.toNat - 55)
  else none

/-- Reads `count` hex digits from the front of a character list. -/
def readHex : Nat → List Char → Nat → Option (Nat × List Char)
  | 0, cs, acc => some (acc, cs)
  | k + 1, c :: cs, acc => (hexValue c).bind fun d => readHex k cs (acc * 16 + d)
  | _ + 1, [], _ => none

/-- Whether a number is a Unicode scalar value. -/
def isScalar (n : Nat) : Bool := n < 0xD800 || (n > 0xDFFF && n ≤ 0x10FFFF)

/-- Reads one unit of a double-quoted literal's body: an unescaped character or
an escape.  An unescaped quote or newline is refused.  The result is the bytes
the unit stands for and the rest of the body. -/
def readUnit : List Char → Option (List UInt8 × List Char)
  | [] => none
  | '"' :: _ => none
  | '\n' :: _ => none
  | '\\' :: c :: rest =>
    let single (x : Char) : Option (List UInt8 × List Char) := some ([x.toNat.toUInt8], rest)
    match c with
    | 'a' => single '\x07'
    | 'b' => single '\x08'
    | 'f' => single '\x0c'
    | 'n' => single '\n'
    | 'r' => single '\r'
    | 't' => single '\t'
    | 'v' => single '\x0b'
    | '\\' => single '\\'
    | '"' => single '"'
    | 'x' => (readHex 2 rest 0).map fun (v, rest) => ([v.toUInt8], rest)
    | 'u' => (readHex 4 rest 0).bind fun (v, rest) =>
        if isScalar v then some (utf8Bytes (String.singleton (Char.ofNat v)), rest) else none
    | 'U' => (readHex 8 rest 0).bind fun (v, rest) =>
        if isScalar v then some (utf8Bytes (String.singleton (Char.ofNat v)), rest) else none
    | _ =>
      if c ≥ '0' && c ≤ '7' then
        match rest with
        | d1 :: d2 :: rest =>
          if d1 ≥ '0' && d1 ≤ '7' && d2 ≥ '0' && d2 ≤ '7' then
            let v := (c.toNat - 48) * 64 + (d1.toNat - 48) * 8 + (d2.toNat - 48)
            if v > 255 then none else some ([v.toUInt8], rest)
          else none
        | _ => none
      else none
  | '\\' :: [] => none
  | c :: rest => some (utf8Bytes (String.singleton c), rest)

/-- Reads units of a literal's body up to its closing quote, for at most
`fuel` units; every unit consumes at least one character, so the body's
length is enough.  The result is the bytes read and what follows the quote. -/
def readBody : Nat → List Char → List UInt8 → Option (List UInt8 × List Char)
  | 0, _, _ => none
  | fuel + 1, cs, acc =>
    match cs with
    | '"' :: rest => some (acc, rest)
    | [] => none
    | _ =>
      match readUnit cs with
      | none => none
      | some (bs, rest) => readBody fuel rest (acc ++ bs)

/-- Reads a double-quoted literal that must make up the whole text. -/
def unquote (lit : String) : Option (List UInt8) :=
  match lit.toList with
  | '"' :: body =>
    match readBody (body.length + 1) body [] with
    | some (bs, []) => some bs
    | _ => none
  | _ => none

theorem quote_plain : quote "ab" = "\"ab\"" := by decide +kernel

end Text

end ParityGames
