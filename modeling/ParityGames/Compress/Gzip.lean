import ParityGames.Compress.Inflate
import ParityGames.Compress.Crc32

/-!
# Gzip streams

A gzip stream is one or more members, each a header, deflate data and a
trailer holding the CRC-32 and the length (modulo `2^32`) of the data.  The
header starts with the bytes `1f 8b 08`; its flags may announce extra data,
a name, a comment (each name or comment ended by a zero byte within 512
bytes) and a header checksum, the low half of the CRC-32 of the header.

Reading fails at the end of the input before a first member (*EOF*), inside
a header, data or trailer (*unexpected EOF*), on a bad header (*invalid
header*), on a trailer that disagrees with the data (*invalid checksum*) and
on corrupt deflate data.  Decompressing keeps the data made before a
failure.
-/

namespace ParityGames

namespace Gzip

/-- Why a gzip stream cannot be read. -/
inductive Fault where
  | endOfInput
  | truncated
  | badHeader
  | badChecksum
  | corrupt (offset : Nat)
  deriving DecidableEq, Repr

/-- The text of a fault. -/
def Fault.message : Fault → String
  | .endOfInput => "EOF"
  | .truncated => "unexpected EOF"
  | .badHeader => "gzip: invalid header"
  | .badChecksum => "gzip: invalid checksum"
  | .corrupt n => s!"flate: corrupt input before offset {n}"

/-- A fault of the deflate data. -/
def ofInflate : Inflate.Fault → Fault
  | .corrupt n => .corrupt n
  | .truncated => .truncated

/-- A little-endian number of `n` bytes at an offset. -/
def littleEndian (b : ByteArray) (at_ n : Nat) : Nat :=
  (List.range n).foldl (fun acc i => acc + (b.get! (at_ + i)).toNat * Nat.pow 256 i) 0

/-- The end of a zero-terminated field starting at an offset: the offset
after its zero byte. -/
def fieldEnd (b : ByteArray) (start : Nat) : Except Fault Nat :=
  let rec go : Nat → Nat → Except Fault Nat
    | 0, _ => .error .badHeader
    | fuel + 1, i =>
      if start + i ≥ b.size then .error .truncated
      else if b.get! (start + i) == 0 then .ok (start + i + 1)
      else go fuel (i + 1)
  go 512 0

/-- Reads a member header at an offset: the offset of its deflate data.  No
bytes at all is the end of the input. -/
def readHeader (b : ByteArray) (start : Nat) : Except Fault Nat := do
  let avail := b.size - start
  if avail == 0 then throw .endOfInput
  if avail < 10 then throw .truncated
  if b.get! start != 0x1f || b.get! (start + 1) != 0x8b || b.get! (start + 2) != 8 then
    throw .badHeader
  let flags := (b.get! (start + 3)).toNat
  let mut pos := start + 10
  if flags &&& 4 != 0 then
    if pos + 2 > b.size then throw .truncated
    let len := littleEndian b pos 2
    if pos + 2 + len > b.size then throw .truncated
    pos := pos + 2 + len
  if flags &&& 8 != 0 then pos ← fieldEnd b pos
  if flags &&& 16 != 0 then pos ← fieldEnd b pos
  if flags &&& 2 != 0 then
    if pos + 2 > b.size then throw .truncated
    let crc := (Crc32.checksum (b.extract start pos)).toNat % 65536
    if littleEndian b pos 2 != crc then throw .badHeader
    pos := pos + 2
  return pos

/-- Decompresses members from an offset onwards, for at most `fuel`
members: the data, and the fault that stopped it, if any. -/
def members (b : ByteArray) : Nat → Nat → ByteArray → ByteArray × Option Fault
  | 0, _, acc => (acc, none)
  | fuel + 1, start, acc =>
    match Inflate.inflate b start with
    | .error (f, out) => (acc ++ out, some (ofInflate f))
    | .ok (out, stop) =>
      let acc := acc ++ out
      if stop + 8 > b.size then (acc, some .truncated)
      else if littleEndian b stop 4 != (Crc32.checksum out).toNat ||
          littleEndian b (stop + 4) 4 != out.size % Nat.pow 2 32 then (acc, some .badChecksum)
      else
        match readHeader b (stop + 8) with
        | .error .endOfInput => (acc, none)
        | .error f => (acc, some f)
        | .ok next => members b fuel next acc

/-- Opens a gzip stream: the offset of its first deflate data, or why the
first header cannot be read. -/
def open_ (b : ByteArray) : Except Fault Nat := readHeader b 0

/-- Decompresses a stream whose first header was read: all the data, and the
fault that stopped it, if any. -/
def decompress (b : ByteArray) (start : Nat) : ByteArray × Option Fault :=
  members b (b.size + 1) start ByteArray.empty

/-- Stored deflate blocks of at most 65535 bytes, the last one final. -/
def storedBlocks (data : ByteArray) : ByteArray :=
  let count := (data.size + 65534) / 65535
  let count := max count 1
  (List.range count).foldl (fun (out : ByteArray) i =>
    let chunk := data.extract (i * 65535) ((i + 1) * 65535)
    let len := chunk.size
    let header : UInt8 := if i + 1 == count then 1 else 0
    out.push header |>.push (len % 256).toUInt8 |>.push (len / 256).toUInt8
      |>.push ((65535 - len) % 256).toUInt8 |>.push ((65535 - len) / 256).toUInt8
      |>.append chunk) ByteArray.empty

/-- Four little-endian bytes. -/
def word (n : Nat) : ByteArray :=
  ⟨#[(n % 256).toUInt8, (n / 256 % 256).toUInt8, (n / 65536 % 256).toUInt8, (n / 16777216 % 256).toUInt8]⟩

/-- A one-member gzip stream holding the data uncompressed in stored
blocks. -/
def store (data : ByteArray) : ByteArray :=
  ⟨#[0x1f, 0x8b, 8, 0, 0, 0, 0, 0, 0, 255]⟩ ++ storedBlocks data ++
    word (Crc32.checksum data).toNat ++ word (data.size % Nat.pow 2 32)

end Gzip

end ParityGames
