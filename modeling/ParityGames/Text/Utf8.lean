/-!
# Byte texts

A label read from a game file may hold escapes for single bytes, so it is a
sequence of bytes rather than of characters.  This module decodes such a byte
sequence as UTF-8 into *pieces*: the characters of its well-formed sequences
and, for every byte that starts no well-formed sequence, that byte alone.
Decoding consumes one byte per stray byte, so every byte lands in exactly one
piece.
-/

namespace ParityGames

namespace Text

/-- A decoded piece of a byte text: a character, or a byte that starts no
well-formed UTF-8 sequence. -/
inductive Piece where
  | char (c : Char)
  | stray (b : UInt8)
  deriving DecidableEq, Repr

/-- The character a piece shows as when bytes must become text: a stray byte
is the replacement character. -/
def Piece.shown : Piece → Char
  | .char c => c
  | .stray _ => '�'

/-- Whether a byte continues a multi-byte sequence: `10xxxxxx`. -/
def isCont (b : UInt8) : Bool := b ≥ 0x80 && b ≤ 0xBF

/-- The six payload bits of a continuation byte. -/
def contBits (b : UInt8) : Nat := (b.toNat % 64)

/-- Decodes one piece from the front of a byte list, returning it with the
rest.  Overlong forms, surrogates and code points above `0x10FFFF` are not
well formed. -/
def decodeOne : List UInt8 → Option (Piece × List UInt8)
  | [] => none
  | b0 :: rest =>
    if b0 < 0x80 then some (.char (Char.ofNat b0.toNat), rest)
    else
      let stray := some (.stray b0, rest)
      match rest with
      | b1 :: rest1 =>
        if b0 ≥ 0xC2 && b0 ≤ 0xDF then
          if isCont b1 then
            some (.char (Char.ofNat ((b0.toNat % 32) * 64 + contBits b1)), rest1)
          else stray
        else if b0 ≥ 0xE0 && b0 ≤ 0xEF then
          let lo : UInt8 := if b0 == 0xE0 then 0xA0 else 0x80
          let hi : UInt8 := if b0 == 0xED then 0x9F else 0xBF
          match rest1 with
          | b2 :: rest2 =>
            if b1 ≥ lo && b1 ≤ hi && isCont b2 then
              some (.char (Char.ofNat ((b0.toNat % 16) * 4096 + contBits b1 * 64 +
                contBits b2)), rest2)
            else stray
          | [] => stray
        else if b0 ≥ 0xF0 && b0 ≤ 0xF4 then
          let lo : UInt8 := if b0 == 0xF0 then 0x90 else 0x80
          let hi : UInt8 := if b0 == 0xF4 then 0x8F else 0xBF
          match rest1 with
          | b2 :: b3 :: rest3 =>
            if b1 ≥ lo && b1 ≤ hi && isCont b2 && isCont b3 then
              some (.char (Char.ofNat ((b0.toNat % 8) * 262144 + contBits b1 * 4096 +
                contBits b2 * 64 + contBits b3)), rest3)
            else stray
          | _ => stray
        else stray
      | [] => stray

/-- Decodes up to `fuel` pieces from a byte list.  Every piece consumes at
least one byte, so a fuel of the list's length decodes it whole. -/
def decodeWithin : Nat → List UInt8 → List Piece
  | 0, _ => []
  | fuel + 1, bs =>
    match decodeOne bs with
    | none => []
    | some (p, rest) => p :: decodeWithin fuel rest

/-- Decodes a whole byte list into pieces. -/
def decode (bs : List UInt8) : List Piece := decodeWithin bs.length bs

/-- The UTF-8 bytes of a text. -/
def utf8Bytes (s : String) : List UInt8 := s.toUTF8.toList

/-- The pieces of a text: all characters. -/
def piecesOf (s : String) : List Piece := s.toList.map Piece.char

end Text

end ParityGames
