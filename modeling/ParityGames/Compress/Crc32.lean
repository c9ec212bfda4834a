/-!
# CRC-32

The cyclic redundancy check of gzip members: the reflected polynomial
`0xEDB88320`, an initial value of all ones and a final complement.  The
table holds the remainder of every byte value.
-/

namespace ParityGames

namespace Crc32

/-- The reflected generator polynomial. -/
def polynomial : UInt32 := 0xEDB88320

/-- Eight division steps on one byte value. -/
def remainderOf (n : Nat) : UInt32 :=
  (List.range 8).foldl (fun (c : UInt32) _ =>
    if c &&& 1 == 1 then polynomial ^^^ (c >>> 1) else c >>> 1) n.toUInt32

/-- The remainders of all byte values. -/
def table : Array UInt32 := (Array.range 256).map remainderOf

/-- Continues a checksum over more bytes. -/
def update (crc : UInt32) (data : ByteArray) : UInt32 :=
  ~~~ (data.foldl (fun (c : UInt32) (b : UInt8) =>
    (table.getD ((c ^^^ b.toUInt32) &&& 0xFF).toNat 0) ^^^ (c >>> 8)) (~~~ crc))

/-- The checksum of some bytes. -/
def checksum (data : ByteArray) : UInt32 := update 0 data

end Crc32

end ParityGames
