import ParityGames.Random.SeedTable

/-!
# The pseudo-random generator

The random strategies draw from an additive lagged Fibonacci generator with
lags 607 and 273 over 64-bit words: each draw replaces one word of a ring of
607 by its sum with the word 273 places behind it.  Seeding fills the ring
from a Park–Miller minimal-standard sequence started at the seed, mixed with a
fixed table of words (`seedTable`), so that equal seeds give equal sequences.

On top of the raw words: `int63` keeps the low 63 bits, `int31` the top 31 of
those, `below n` draws uniformly from `0 … n-1` by rejection, and
`permutation n` shuffles `0 … n-1` by inserting `i` at a drawn place.
-/

namespace ParityGames

namespace Random

/-- Ring length of the generator. -/
def ringLength : Nat := 607

/-- Distance from the feed to the tap. -/
def tapLag : Nat := 273

/-- The modulus of the seeding sequence, `2^31 - 1`. -/
def seedModulus : Int := 2147483647

/-- One step of the Park–Miller sequence, `x ↦ 48271·x mod (2^31-1)`, in
Schrage's form. -/
def seedStep (x : Int) : Int :=
  let hi := x.tdiv 44488
  let lo := x.tmod 44488
  let y := 48271 * lo - 3399 * hi
  if y < 0 then y + seedModulus else y

/-- The generator state: the ring of words and the two positions. -/
structure Generator where
  ring : Array UInt64
  tap : Nat
  feed : Nat
  deriving Repr, Inhabited

namespace Generator

/-- The seed actually used: the seed modulo `2^31-1` (truncating), moved into
range, with zero replaced by a fixed value. -/
def normalSeed (seed : Int) : Int :=
  let s := seed.tmod seedModulus
  let s := if s < 0 then s + seedModulus else s
  if s == 0 then 89482311 else s

/-- Fills the ring: twenty warm-up steps, then three steps per word. -/
def fillRing (x : Int) : Nat → Array UInt64 → Array UInt64
  | 0, ring => ring
  | k + 1, ring =>
    let i := ring.size
    let x1 := seedStep x
    let x2 := seedStep x1
    let x3 := seedStep x2
    let u : UInt64 := (UInt64.ofInt x1 <<< 40) ^^^ (UInt64.ofInt x2 <<< 20) ^^^ UInt64.ofInt x3
    fillRing x3 k (ring.push (u ^^^ (seedTable[i]?.getD 0)))

/-- Iterates the seeding sequence `n` times. -/
def warmUp (x : Int) : Nat → Int
  | 0 => x
  | n + 1 => warmUp (seedStep x) n

/-- The generator seeded with `seed`. -/
def ofSeed (seed : Int) : Generator :=
  let x := warmUp (normalSeed seed) 20
  { ring := fillRing x ringLength #[], tap := 0, feed := ringLength - tapLag }

/-- Advances the generator by one word: the feed word becomes its sum,
wrapping, with the tap word, and is the word drawn (`last`). -/
def next (g : Generator) : Generator :=
  let tap := if g.tap == 0 then ringLength - 1 else g.tap - 1
  let feed := if g.feed == 0 then ringLength - 1 else g.feed - 1
  { ring := g.ring.set! feed (g.ring[feed]! + g.ring[tap]!), tap, feed }

/-- The word drawn last. -/
@[inline] def last (g : Generator) : UInt64 := g.ring[g.feed]!

/-- The low 63 bits of a word. -/
def low63 : UInt64 := 0x7FFFFFFFFFFFFFFF

/-- The last draw read in `0 … 2^63-1`: its low 63 bits. -/
@[inline] def last63 (g : Generator) : Nat := (g.last &&& low63).toNat

/-- The last draw read in `0 … 2^31-1`: the top 31 of its 63 bits. -/
@[inline] def last31 (g : Generator) : Nat := ((g.last &&& low63) >>> 32).toNat

/-- A draw from `0 … 2^63-1`. -/
def int63 (g : Generator) : Nat × Generator :=
  let g := g.next
  (g.last63, g)

/-- A draw from `0 … 2^31-1`. -/
def int31 (g : Generator) : Nat × Generator :=
  let g := g.next
  (g.last31, g)

/-- Draws until the 31-bit value is at most `limit`; every draw is below
`2^31` and `limit ≥ 2^30`, so runs of rejections are short. -/
def drawAtMost (limit : Nat) : Nat → Generator → Generator
  | 0, g => g.next
  | fuel + 1, g =>
    let g := g.next
    if g.last31 > limit then drawAtMost limit fuel g else g

/-- A uniform draw from `0 … n-1`, for `0 < n < 2^31`.  A power of two is
masked; otherwise draws above the largest multiple of `n` are rejected. -/
def below (g : Generator) (n : Nat) : Nat × Generator :=
  if n == 0 then (0, g)
  else if n &&& (n - 1) == 0 then
    let g := g.next
    (g.last31 &&& (n - 1), g)
  else
    let g := drawAtMost (Nat.pow 2 31 - 1 - (Nat.pow 2 31 % n)) 64 g
    (g.last31 % n, g)

/-- A random permutation of `0 … n-1`: for each `i`, a place `j ≤ i` is
drawn, the entry there moves to `i`, and `i` takes its place. -/
def permutation (g : Generator) (n : Nat) : Array Nat × Generator :=
  (List.range n).foldl (fun (m, g) i =>
    let (j, g) := g.below (i + 1)
    let m := m.set! i (m[j]!)
    (m.set! j i, g)) (Array.replicate n 0, g)

end Generator

end Random

end ParityGames
