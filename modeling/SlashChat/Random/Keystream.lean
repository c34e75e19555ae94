/-!
# The word stream of a seed

Fortunes are drawn from a reproducible stream of 64-bit words.  A seed of 64 bits is stretched to
a key of eight 32-bit words, and the key's ChaCha keystream with twelve rounds, read from its
first block on, is the stream.

The stream is a function `Key.word` of the place in it, so reading ahead, reading twice and
starting over are all plain questions about places.
-/

set_option autoImplicit false

namespace SlashChat.Random

/-- `x` with its bits turned `n` places to the left. -/
def rotateLeft (x n : UInt32) : UInt32 := (x <<< n) ||| (x >>> (32 - n))

/-- `x` with its bits turned `n` places to the right. -/
def rotateRight (x n : UInt32) : UInt32 := (x >>> n) ||| (x <<< (32 - n))

/-- What a word stream is made from. -/
abbrev Key := Vector UInt32 8

/-- The state of the generator that stretches seeds, one step on. -/
def stretch (state : UInt64) : UInt64 := state * 6364136223846793005 + 11634580027462260723

/-- The key word that a state of the stretching generator shows. -/
def stretched (state : UInt64) : UInt32 :=
  rotateRight (((state >>> 18) ^^^ state) >>> 27).toUInt32 (state >>> 59).toUInt32

/-- The key of a seed: the words of eight successive states. -/
def Key.ofSeed (seed : UInt64) : Key :=
  let s1 := stretch seed
  let s2 := stretch s1
  let s3 := stretch s2
  let s4 := stretch s3
  let s5 := stretch s4
  let s6 := stretch s5
  let s7 := stretch s6
  let s8 := stretch s7
  #v[stretched s1, stretched s2, stretched s3, stretched s4,
     stretched s5, stretched s6, stretched s7, stretched s8]

/-- Sixteen words, read as four rows of four. -/
abbrev Block := Vector UInt32 16

/-- Stirs four words of a block into each other. -/
def quarterRound (a b c d : Fin 16) (block : Block) : Block :=
  let step (x y z : Fin 16) (turn : UInt32) (block : Block) : Block :=
    let sum := block[x] + block[y]
    let block := block.set x sum
    block.set z (rotateLeft (block[z] ^^^ sum) turn)
  block |> step a b d 16 |> step c d b 12 |> step a b d 8 |> step c d b 7

/-- Stirs the columns of a block, then its diagonals. -/
def doubleRound (block : Block) : Block :=
  block
    |> quarterRound 0 4 8 12 |> quarterRound 1 5 9 13
    |> quarterRound 2 6 10 14 |> quarterRound 3 7 11 15
    |> quarterRound 0 5 10 15 |> quarterRound 1 6 11 12
    |> quarterRound 2 7 8 13 |> quarterRound 3 4 9 14

/-- The block that the rounds start from: four constant words, the key, the number of the block as
two words, and two words of zero. -/
def Key.start (key : Key) (number : UInt64) : Block :=
  #v[0x61707865, 0x3320646e, 0x79622d32, 0x6b206574,
     key[0], key[1], key[2], key[3], key[4], key[5], key[6], key[7],
     number.toUInt32, (number >>> 32).toUInt32, 0, 0]

/-- A block of the keystream: twelve rounds, then the starting block added in. -/
def Key.block (key : Key) (number : UInt64) : Block :=
  let start := key.start number
  let stirred := Nat.repeat doubleRound 6 start
  Vector.zipWith (· + ·) stirred start

/-- How many 64-bit words a block holds. -/
def wordsPerBlock : Nat := 8

/-- The 64-bit word at a place of the stream: two successive words of the keystream, the low half
first. -/
def Key.word (key : Key) (place : Nat) : UInt64 :=
  let block := key.block (place / wordsPerBlock).toUInt64
  let column := place % wordsPerBlock
  have : column < 8 := Nat.mod_lt place (by decide)
  block[2 * column].toUInt64 ||| (block[2 * column + 1].toUInt64 <<< 32)

end SlashChat.Random
