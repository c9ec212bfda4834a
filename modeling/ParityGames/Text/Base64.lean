/-!
# Base64

The standard base64 alphabet with `=` padding.  Encoding turns every three
bytes into four characters.  Decoding skips line breaks, wants whole groups
of four characters, and allows padding only in the last group, as `xx==` or
`xxx=`; the bits that padding leaves over are not checked.
-/

namespace ParityGames

namespace Base64

/-- The alphabet, in order of value. -/
def alphabet : String := "ABCDEFGHIJKLMNOPQRSTUVWXYZabcdefghijklmnopqrstuvwxyz0123456789+/"

/-- The character of a six-bit value. -/
def digit (v : Nat) : Char := (alphabet.toList.getD v 'A')

/-- The value of a character of the alphabet. -/
def value? (c : Char) : Option Nat :=
  if 'A' ≤ c && c ≤ 'Z' then some (c.toNat - 65)
  else if 'a' ≤ c && c ≤ 'z' then some (c.toNat - 97 + 26)
  else if '0' ≤ c && c ≤ '9' then some (c.toNat - 48 + 52)
  else if c == '+' then some 62
  else if c == '/' then some 63
  else none

/-- Encodes bytes, padding the last group. -/
def encode (b : ByteArray) : String :=
  let bytes := b.toList.map UInt8.toNat
  let rec go : List Nat → List Char
    | [] => []
    | [x] => [digit (x / 4), digit (x % 4 * 16), '=', '=']
    | [x, y] => [digit (x / 4), digit (x % 4 * 16 + y / 16), digit (y % 16 * 4), '=']
    | x :: y :: z :: rest =>
      digit (x / 4) :: digit (x % 4 * 16 + y / 16) :: digit (y % 16 * 4 + z / 64) ::
        digit (z % 64) :: go rest
  String.ofList (go bytes)

/-- Decodes one group of four characters, the last group possibly
padded. -/
def group (last : Bool) : List Char → Option (List UInt8)
  | [a, b, '=', '='] => do
    guard last
    let a ← value? a
    let b ← value? b
    pure [(a * 4 + b / 16).toUInt8]
  | [a, b, c, '='] => do
    guard last
    let a ← value? a
    let b ← value? b
    let c ← value? c
    pure [(a * 4 + b / 16).toUInt8, (b % 16 * 16 + c / 4).toUInt8]
  | [a, b, c, d] => do
    let a ← value? a
    let b ← value? b
    let c ← value? c
    let d ← value? d
    pure [(a * 4 + b / 16).toUInt8, (b % 16 * 16 + c / 4).toUInt8, (c % 4 * 64 + d).toUInt8]
  | _ => none

/-- Decodes groups of four characters. -/
def groups : List Char → Option (List UInt8)
  | [] => some []
  | a :: b :: c :: d :: rest => do
    let here ← group rest.isEmpty [a, b, c, d]
    let more ← groups rest
    pure (here ++ more)
  | _ => none

/-- Decodes base64 text, skipping line breaks; `none` when it is not valid
base64. -/
def decode? (s : String) : Option ByteArray :=
  (groups (s.toList.filter fun c => c != '\n' && c != '\r')).map fun bs => ⟨bs.toArray⟩

theorem decode_encode_hi : decode? (encode "hi".toUTF8) = some "hi".toUTF8 := by decide +kernel

theorem encode_hello : encode "hello".toUTF8 = "aGVsbG8=" := by decide +kernel

end Base64

end ParityGames
