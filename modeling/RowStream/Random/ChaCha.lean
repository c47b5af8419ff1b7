import RowStream.Random

/-!
Contract: the ChaCha key stream with eight rounds as a source of random words.

Owns:
- the block function on sixteen 32-bit words;
- the key that a 64-bit seed expands to;
- `Random.seeded`, whose word `n` is taken from the key stream directly, so that
  passing over words costs nothing.
-/

namespace RowStream

namespace ChaCha

/-- The four-by-four array of words that the rounds permute, row by row. -/
structure Block where
  a0 : UInt32
  a1 : UInt32
  a2 : UInt32
  a3 : UInt32
  b0 : UInt32
  b1 : UInt32
  b2 : UInt32
  b3 : UInt32
  c0 : UInt32
  c1 : UInt32
  c2 : UInt32
  c3 : UInt32
  d0 : UInt32
  d1 : UInt32
  d2 : UInt32
  d3 : UInt32
deriving DecidableEq, Repr

@[inline] def rotateLeft (value amount : UInt32) : UInt32 :=
  (value <<< amount) ||| (value >>> (32 - amount))

/-- Mixes one column or diagonal. -/
@[inline] def quarterRound (a b c d : UInt32) : UInt32 × UInt32 × UInt32 × UInt32 :=
  let a := a + b
  let d := rotateLeft (d ^^^ a) 16
  let c := c + d
  let b := rotateLeft (b ^^^ c) 12
  let a := a + b
  let d := rotateLeft (d ^^^ a) 8
  let c := c + d
  let b := rotateLeft (b ^^^ c) 7
  (a, b, c, d)

namespace Block

/-- A round on the columns followed by a round on the diagonals. -/
def doubleRound (block : Block) : Block :=
  let (a0, b0, c0, d0) := quarterRound block.a0 block.b0 block.c0 block.d0
  let (a1, b1, c1, d1) := quarterRound block.a1 block.b1 block.c1 block.d1
  let (a2, b2, c2, d2) := quarterRound block.a2 block.b2 block.c2 block.d2
  let (a3, b3, c3, d3) := quarterRound block.a3 block.b3 block.c3 block.d3
  let (a0, b1, c2, d3) := quarterRound a0 b1 c2 d3
  let (a1, b2, c3, d0) := quarterRound a1 b2 c3 d0
  let (a2, b3, c0, d1) := quarterRound a2 b3 c0 d1
  let (a3, b0, c1, d2) := quarterRound a3 b0 c1 d2
  ⟨a0, a1, a2, a3, b0, b1, b2, b3, c0, c1, c2, c3, d0, d1, d2, d3⟩

/-- Wordwise sum. -/
def add (left right : Block) : Block :=
  ⟨left.a0 + right.a0, left.a1 + right.a1, left.a2 + right.a2, left.a3 + right.a3,
   left.b0 + right.b0, left.b1 + right.b1, left.b2 + right.b2, left.b3 + right.b3,
   left.c0 + right.c0, left.c1 + right.c1, left.c2 + right.c2, left.c3 + right.c3,
   left.d0 + right.d0, left.d1 + right.d1, left.d2 + right.d2, left.d3 + right.d3⟩

/-- Four double rounds, then the input added back. -/
def scramble (block : Block) : Block :=
  block.doubleRound.doubleRound.doubleRound.doubleRound.add block

/-- The `index`-th pair of consecutive words, counted modulo eight, low word first. -/
def wordPair (block : Block) (index : Nat) : UInt64 :=
  let join (low high : UInt32) : UInt64 := high.toUInt64 <<< 32 ||| low.toUInt64
  match index % 8 with
  | 0 => join block.a0 block.a1
  | 1 => join block.a2 block.a3
  | 2 => join block.b0 block.b1
  | 3 => join block.b2 block.b3
  | 4 => join block.c0 block.c1
  | 5 => join block.c2 block.c3
  | 6 => join block.d0 block.d1
  | _ => join block.d2 block.d3

end Block

/-- The 256-bit key, as the second and third row of a block. -/
structure Key where
  b0 : UInt32
  b1 : UInt32
  b2 : UInt32
  b3 : UInt32
  c0 : UInt32
  c1 : UInt32
  c2 : UInt32
  c3 : UInt32
deriving DecidableEq, Repr

/-- One step of the linear congruential sequence that expands a seed. -/
def advanceSeed (state : UInt64) : UInt64 :=
  state * 6364136223846793005 + 11634580027462260723

/-- The key word of one seed state: its high bits folded together and rotated. -/
def seedWord (state : UInt64) : UInt32 :=
  let folded := (((state >>> 18) ^^^ state) >>> 27).toUInt32
  let amount := (state >>> 59).toUInt32
  (folded >>> amount) ||| (folded <<< ((32 - amount) % 32))

/-- The key of a 64-bit seed: eight words from eight successive states. -/
def Key.ofSeed (seed : UInt64) : Key :=
  let s0 := advanceSeed seed
  let s1 := advanceSeed s0
  let s2 := advanceSeed s1
  let s3 := advanceSeed s2
  let s4 := advanceSeed s3
  let s5 := advanceSeed s4
  let s6 := advanceSeed s5
  let s7 := advanceSeed s6
  ⟨seedWord s0, seedWord s1, seedWord s2, seedWord s3,
   seedWord s4, seedWord s5, seedWord s6, seedWord s7⟩

/-- The input block of a key and a 64-bit block counter, with nonce zero. -/
def Key.block (key : Key) (counter : UInt64) : Block :=
  ⟨0x61707865, 0x3320646e, 0x79622d32, 0x6b206574,
   key.b0, key.b1, key.b2, key.b3, key.c0, key.c1, key.c2, key.c3,
   counter.toUInt32, (counter >>> 32).toUInt32, 0, 0⟩

/-- Word `position` of the key stream; a block holds eight. -/
def Key.word (key : Key) (position : Nat) : UInt64 :=
  (key.block (UInt64.ofNat (position / 8))).scramble.wordPair position

end ChaCha

/-- The generator of a seed. -/
def Random.seeded (seed : UInt64) : Random :=
  let key := ChaCha.Key.ofSeed seed
  { word := key.word }

end RowStream
