/-!
# SHA-256

The SHA-256 digest of a byte string, as specified in FIPS 180-4: the
message is padded with a one bit, zeros and its bit length to a multiple of
64 bytes, and each 64-byte block is folded into eight 32-bit words by 64
rounds.  Hex text writes each byte as two lower-case digits.
-/

namespace ParityGames

namespace Sha256

/-- The round constants. -/
def roundConstants : Array UInt32 := #[
  0x428a2f98, 0x71374491, 0xb5c0fbcf, 0xe9b5dba5, 0x3956c25b, 0x59f111f1, 0x923f82a4, 0xab1c5ed5,
  0xd807aa98, 0x12835b01, 0x243185be, 0x550c7dc3, 0x72be5d74, 0x80deb1fe, 0x9bdc06a7, 0xc19bf174,
  0xe49b69c1, 0xefbe4786, 0x0fc19dc6, 0x240ca1cc, 0x2de92c6f, 0x4a7484aa, 0x5cb0a9dc, 0x76f988da,
  0x983e5152, 0xa831c66d, 0xb00327c8, 0xbf597fc7, 0xc6e00bf3, 0xd5a79147, 0x06ca6351, 0x14292967,
  0x27b70a85, 0x2e1b2138, 0x4d2c6dfc, 0x53380d13, 0x650a7354, 0x766a0abb, 0x81c2c92e, 0x92722c85,
  0xa2bfe8a1, 0xa81a664b, 0xc24b8b70, 0xc76c51a3, 0xd192e819, 0xd6990624, 0xf40e3585, 0x106aa070,
  0x19a4c116, 0x1e376c08, 0x2748774c, 0x34b0bcb5, 0x391c0cb3, 0x4ed8aa4a, 0x5b9cca4f, 0x682e6ff3,
  0x748f82ee, 0x78a5636f, 0x84c87814, 0x8cc70208, 0x90befffa, 0xa4506ceb, 0xbef9a3f7, 0xc67178f2]

/-- The initial hash words. -/
def initial : Array UInt32 :=
  #[0x6a09e667, 0xbb67ae85, 0x3c6ef372, 0xa54ff53a, 0x510e527f, 0x9b05688c, 0x1f83d9ab, 0x5be0cd19]

/-- Rotation to the right. -/
def rotr (x : UInt32) (n : UInt32) : UInt32 := (x >>> n) ||| (x <<< (32 - n))

/-- The big-endian word at byte `i`. -/
def wordAt (b : ByteArray) (i : Nat) : UInt32 :=
  ((b.get! i).toUInt32 <<< 24) ||| ((b.get! (i + 1)).toUInt32 <<< 16) |||
    ((b.get! (i + 2)).toUInt32 <<< 8) ||| (b.get! (i + 3)).toUInt32

/-- The 64-word schedule of the block at byte `start`. -/
def schedule (b : ByteArray) (start : Nat) : Array UInt32 :=
  let first := (Array.range 16).map fun i => wordAt b (start + 4 * i)
  (List.range 48).foldl (fun (w : Array UInt32) k =>
    let i := k + 16
    let w15 := w[i - 15]!
    let w2 := w[i - 2]!
    let s0 := rotr w15 7 ^^^ rotr w15 18 ^^^ (w15 >>> 3)
    let s1 := rotr w2 17 ^^^ rotr w2 19 ^^^ (w2 >>> 10)
    w.push (w[i - 16]! + s0 + w[i - 7]! + s1)) first

/-- Folds one block into the hash words. -/
def compress (h : Array UInt32) (b : ByteArray) (start : Nat) : Array UInt32 :=
  let w := schedule b start
  let round (s : Array UInt32) (i : Nat) : Array UInt32 :=
    let a := s[0]!; let bb := s[1]!; let c := s[2]!; let d := s[3]!
    let e := s[4]!; let f := s[5]!; let g := s[6]!; let hh := s[7]!
    let s1 := rotr e 6 ^^^ rotr e 11 ^^^ rotr e 25
    let ch := (e &&& f) ^^^ ((~~~ e) &&& g)
    let t1 := hh + s1 + ch + roundConstants[i]! + w[i]!
    let s0 := rotr a 2 ^^^ rotr a 13 ^^^ rotr a 22
    let maj := (a &&& bb) ^^^ (a &&& c) ^^^ (bb &&& c)
    let t2 := s0 + maj
    #[t1 + t2, a, bb, c, d + t1, e, f, g]
  let s := (List.range 64).foldl round h
  (h.zip s).map fun (x, y) => x + y

/-- The message padded to whole blocks. -/
def pad (msg : ByteArray) : ByteArray :=
  let len := msg.size
  let zeros := (119 - len % 64) % 64
  let bits := 8 * len
  let tail := (List.range 8).reverse.map fun i => (bits / Nat.pow 2 (8 * i) % 256).toUInt8
  (msg.push 0x80 ++ ByteArray.mk (Array.replicate zeros 0)) ++ ByteArray.mk tail.toArray

/-- The digest of a message as 32 bytes. -/
def digest (msg : ByteArray) : ByteArray :=
  let p := pad msg
  let h := (List.range (p.size / 64)).foldl (fun h k => compress h p (64 * k)) initial
  ByteArray.mk (h.foldl (fun (acc : Array UInt8) (x : UInt32) =>
    acc ++ #[(x >>> 24).toUInt8, (x >>> 16).toUInt8, (x >>> 8).toUInt8, x.toUInt8]) #[])

/-- A byte as two lower-case hex digits. -/
def hexByte (b : UInt8) : String :=
  let digit (n : Nat) : Char := if n < 10 then Char.ofNat (48 + n) else Char.ofNat (87 + n)
  String.ofList [digit (b.toNat / 16), digit (b.toNat % 16)]

/-- Bytes as lower-case hex text. -/
def hex (b : ByteArray) : String := String.join (b.toList.map hexByte)

/-- The hex digest of the UTF-8 bytes of a text. -/
def hashText (s : String) : String := hex (digest s.toUTF8)

end Sha256

end ParityGames
