/-!
# Decompressing deflate data

A deflate stream is a series of blocks: stored blocks copy bytes, and
compressed blocks code literals and back references with canonical Huffman
codes, either the fixed codes or codes sent at the start of the block.  Bits
are read from the least significant bit of each byte.

A stream is refused as *corrupt* when a block type is reserved, a stored
block's length and its complement disagree, a sent code is over-subscribed
or incomplete (a single code of one bit apart), a symbol is undefined, or a
reference reaches before the start of the output.  The offset reported is
the number of input bytes read so far.  A stream that stops inside a block
is *truncated*.  All output made before a fault is kept.
-/

namespace ParityGames

namespace Inflate

/-- Why a deflate stream cannot be decompressed. -/
inductive Fault where
  | corrupt (offset : Nat)
  | truncated
  deriving DecidableEq, Repr

/-- The text of a fault. -/
def Fault.message : Fault → String
  | .corrupt n => s!"flate: corrupt input before offset {n}"
  | .truncated => "unexpected EOF"

/-- Input read bit by bit: the bytes and the number of bits consumed. -/
structure Bits where
  src : ByteArray
  pos : Nat

/-- The number of input bytes touched so far. -/
def Bits.offset (b : Bits) : Nat := (b.pos + 7) / 8

/-- One bit. -/
def Bits.bit (b : Bits) (i : Nat) : Nat :=
  ((b.src.get! (i / 8)).toNat >>> (i % 8)) % 2

/-- Takes `n` bits, least significant first. -/
def Bits.take (b : Bits) (n : Nat) : Except Fault (Nat × Bits) :=
  if b.pos + n > 8 * b.src.size then .error .truncated
  else
    let v := (List.range n).foldl (fun acc i => acc + b.bit (b.pos + i) * Nat.pow 2 i) 0
    .ok (v, { b with pos := b.pos + n })

/-- Skips to the next byte boundary. -/
def Bits.align (b : Bits) : Bits := { b with pos := 8 * b.offset }

/-- A canonical Huffman code: the number of codes of each length `0..15`
and the symbols ordered by code. -/
structure Code where
  counts : Array Nat
  symbols : Array Nat
  deriving Inhabited

/-- The code of a list of code lengths, or `none` when it is
over-subscribed or incomplete; an empty code and a single code of one bit
are accepted. -/
def Code.ofLengths (lengths : List Nat) : Option Code :=
  let counts := lengths.foldl (fun (c : Array Nat) n => if n == 0 then c else c.modify n (· + 1))
    (Array.replicate 16 0)
  let symbols := ((List.range 16).drop 1).flatMap fun len =>
    ((lengths.zipIdx.filter (·.1 == len)).map (·.2))
  let maxLen := ((List.range 16).filter fun l => counts.getD l 0 > 0).foldl max 0
  let total := ((List.range 16).drop 1).foldl (fun (code : Nat) l => code * 2 + counts.getD l 0) 0
  let full := total == Nat.pow 2 15
  let single := maxLen == 1 && counts.getD 1 0 == 1
  if maxLen == 0 || full || single then some { counts, symbols := symbols.toArray } else none

/-- Decodes one symbol. -/
def Code.decode (c : Code) (b : Bits) : Except Fault (Nat × Bits) :=
  let rec go : Nat → Nat → Nat → Nat → Nat → Except Fault (Nat × Bits)
    | 0, _, _, _, _ => .error (.corrupt b.offset)
    | fuel + 1, len, code, first, index =>
      if b.pos + len > 8 * b.src.size then .error .truncated
      else
        let code := code + b.bit (b.pos + len - 1)
        let count := c.counts.getD len 0
        if code < first + count then
          .ok (c.symbols.getD (index + code - first) 0, { b with pos := b.pos + len })
        else go fuel (len + 1) (code * 2) ((first + count) * 2) (index + count)
  if c.symbols.isEmpty then .error (.corrupt b.offset) else go 15 1 0 0 0

/-- The base lengths of the length symbols `257..285`. -/
def lengthBase : Array Nat :=
  #[3, 4, 5, 6, 7, 8, 9, 10, 11, 13, 15, 17, 19, 23, 27, 31, 35, 43, 51, 59, 67, 83, 99, 115,
    131, 163, 195, 227, 258]

/-- The extra bits of the length symbols `257..285`. -/
def lengthExtra : Array Nat :=
  #[0, 0, 0, 0, 0, 0, 0, 0, 1, 1, 1, 1, 2, 2, 2, 2, 3, 3, 3, 3, 4, 4, 4, 4, 5, 5, 5, 5, 0]

/-- The base distances of the distance symbols `0..29`. -/
def distanceBase : Array Nat :=
  #[1, 2, 3, 4, 5, 7, 9, 13, 17, 25, 33, 49, 65, 97, 129, 193, 257, 385, 513, 769, 1025, 1537,
    2049, 3073, 4097, 6145, 8193, 12289, 16385, 24577]

/-- The extra bits of the distance symbols `0..29`. -/
def distanceExtra : Array Nat :=
  #[0, 0, 0, 0, 1, 1, 2, 2, 3, 3, 4, 4, 5, 5, 6, 6, 7, 7, 8, 8, 9, 9, 10, 10, 11, 11, 12, 12, 13, 13]

/-- The fixed literal and length code. -/
def fixedLiterals : Code :=
  (Code.ofLengths ((List.replicate 144 8) ++ (List.replicate 112 9) ++ (List.replicate 24 7) ++
    (List.replicate 8 8))).getD default

/-- The fixed distance code, read as five plain bits. -/
def fixedDistances : Code := (Code.ofLengths (List.replicate 32 5)).getD default

/-- Copies `length` bytes from `distance` bytes back, one at a time so that
a copy may overlap what it writes. -/
def copyBack (out : ByteArray) (distance length : Nat) : ByteArray :=
  (List.range length).foldl (fun (o : ByteArray) _ => o.push (o.get! (o.size - distance))) out

/-- Decodes the symbols of a compressed block until its end, for at most
`fuel` symbols; the output and position, or the output so far with the
fault. -/
def symbols (lit dist : Code) : Nat → Bits → ByteArray → Except (Fault × ByteArray) (Bits × ByteArray)
  | 0, b, out => .error (.corrupt b.offset, out)
  | fuel + 1, b, out =>
    match lit.decode b with
    | .error f => .error (f, out)
    | .ok (v, b) =>
      if v < 256 then symbols lit dist fuel b (out.push v.toUInt8)
      else if v == 256 then .ok (b, out)
      else if v > 285 then .error (.corrupt b.offset, out)
      else
        match b.take (lengthExtra.getD (v - 257) 0) with
        | .error f => .error (f, out)
        | .ok (e, b) =>
          let length := lengthBase.getD (v - 257) 0 + e
          match dist.decode b with
          | .error f => .error (f, out)
          | .ok (d, b) =>
            if d > 29 then .error (.corrupt b.offset, out)
            else
              match b.take (distanceExtra.getD d 0) with
              | .error f => .error (f, out)
              | .ok (e, b) =>
                let distance := distanceBase.getD d 0 + e
                if distance > out.size then .error (.corrupt b.offset, out)
                else symbols lit dist fuel b (copyBack out distance length)

/-- The order in which code-length code lengths are sent. -/
def codeLengthOrder : List Nat := [16, 17, 18, 0, 8, 7, 9, 6, 10, 5, 11, 4, 12, 3, 13, 2, 14, 1, 15]

/-- Reads `n` code lengths with the code-length code, for at most `fuel`
steps. -/
def readLengths (clc : Code) (n : Nat) : Nat → Bits → Array Nat → Except Fault (Array Nat × Bits)
  | 0, b, _ => .error (.corrupt b.offset)
  | fuel + 1, b, acc =>
    if acc.size ≥ n then .ok (acc, b)
    else do
      let (x, b) ← clc.decode b
      if x < 16 then readLengths clc n fuel b (acc.push x)
      else
        let (rep, extra, value) ← match x with
          | 16 => if acc.isEmpty then Except.error (Fault.corrupt b.offset) else pure (3, 2, acc.back!)
          | 17 => pure (3, 3, 0)
          | _ => pure (11, 7, 0)
        let (e, b) ← b.take extra
        if acc.size + rep + e > n then .error (.corrupt b.offset)
        else readLengths clc n fuel b (acc ++ Array.replicate (rep + e) value)

/-- Reads the codes sent at the start of a dynamic block. -/
def readCodes (b : Bits) : Except Fault (Code × Code × Bits) := do
  let (hlit, b) ← b.take 5
  let (hdist, b) ← b.take 5
  let (hclen, b) ← b.take 4
  let nlit := hlit + 257
  let ndist := hdist + 1
  if nlit > 286 || ndist > 30 then throw (.corrupt b.offset)
  let (clens, b) ← (List.range (hclen + 4)).foldlM (fun (acc : List Nat × Bits) _ => do
    let (v, b) ← acc.2.take 3
    pure (acc.1 ++ [v], b)) ([], b)
  let ordered := (List.range 19).map fun s =>
    match (codeLengthOrder.zipIdx.find? (·.1 == s)) with
    | some (_, i) => clens.getD i 0
    | none => 0
  let some clc := Code.ofLengths ordered | throw (.corrupt b.offset)
  let (lengths, b) ← readLengths clc (nlit + ndist) (nlit + ndist + 1) b #[]
  let some lit := Code.ofLengths (lengths.toList.take nlit) | throw (.corrupt b.offset)
  let some dist := Code.ofLengths (lengths.toList.drop nlit) | throw (.corrupt b.offset)
  pure (lit, dist, b)

/-- Decodes blocks until the final one, for at most `fuel` blocks: the output
and the position after the stream, or the output so far with the fault. -/
def blocks : Nat → Bits → ByteArray → Except (Fault × ByteArray) (Bits × ByteArray)
  | 0, b, out => .error (.corrupt b.offset, out)
  | fuel + 1, b, out =>
    match b.take 3 with
    | .error f => .error (f, out)
    | .ok (header, b) =>
      let final := header % 2 == 1
      let continueAfter (r : Except (Fault × ByteArray) (Bits × ByteArray)) :=
        match r with
        | .error e => .error e
        | .ok (b, out) => if final then .ok (b, out) else blocks fuel b out
      match header / 2 with
      | 0 =>
        let b := b.align
        match b.take 16 with
        | .error f => .error (f, out)
        | .ok (len, b) =>
          match b.take 16 with
          | .error f => .error (f, out)
          | .ok (nlen, b) =>
            if len + nlen != 65535 then .error (.corrupt b.offset, out)
            else if b.offset + len > b.src.size then
              .error (.truncated, out ++ b.src.extract b.offset b.src.size)
            else
              continueAfter (.ok ({ b with pos := b.pos + 8 * len },
                out ++ b.src.extract b.offset (b.offset + len)))
      | 1 => continueAfter (symbols fixedLiterals fixedDistances (8 * b.src.size + 1) b out)
      | 2 =>
        match readCodes b with
        | .error f => .error (f, out)
        | .ok (lit, dist, b) => continueAfter (symbols lit dist (8 * b.src.size + 1) b out)
      | _ => .error (.corrupt b.offset, out)

/-- Decompresses the deflate stream starting at byte `start`: the output and
the byte offset after the stream, or the output made before the fault. -/
def inflate (src : ByteArray) (start : Nat) : Except (Fault × ByteArray) (ByteArray × Nat) :=
  match blocks (src.size + 1) { src, pos := 8 * start } ByteArray.empty with
  | .ok (b, out) => .ok (out, b.offset)
  | .error e => .error e

end Inflate

end ParityGames
