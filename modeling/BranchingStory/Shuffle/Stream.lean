/-!
# A stream of pseudo-random words

A 64-bit seed determines a stream of 32-bit words. The seed is first spread over a key
of eight words by a linear congruential generator with permuted output; the words are
then those of the ChaCha cipher with twelve rounds, block after block, under that key
and an all-zero nonce.
-/

namespace BranchingStory.Shuffle

/-- Rotation of a word to the right. -/
def rotateRight (word : UInt32) (count : UInt32) : UInt32 :=
  (word >>> count) ||| (word <<< (32 - count))

/-- Rotation of a word to the left. -/
def rotateLeft (word : UInt32) (count : UInt32) : UInt32 :=
  (word <<< count) ||| (word >>> (32 - count))

namespace Key

/-- One step of the generator that spreads a seed. -/
def step (state : UInt64) : UInt64 := state * 6364136223846793005 + 11634580027462260723

/-- The word that a state of the generator shows: its high bits folded together and
rotated by the highest five. -/
def word (state : UInt64) : UInt32 :=
  rotateRight (((state >>> 18) ^^^ state) >>> 27).toUInt32 (state >>> 59).toUInt32

/-- The words shown after one step, after two steps, and so on. -/
def words : Nat → UInt64 → List UInt32
  | 0, _ => []
  | count + 1, state => word (step state) :: words count (step state)

end Key

/-- The sixteen words that the cipher mixes. -/
abbrev Block := Vector UInt32 16

namespace Block

/-- Mixes four words of a block. -/
def quarterRound (block : Block) (a b c d : Fin 16) : Block :=
  let block := block.set a (block[a] + block[b])
  let block := block.set d (rotateLeft (block[d] ^^^ block[a]) 16)
  let block := block.set c (block[c] + block[d])
  let block := block.set b (rotateLeft (block[b] ^^^ block[c]) 12)
  let block := block.set a (block[a] + block[b])
  let block := block.set d (rotateLeft (block[d] ^^^ block[a]) 8)
  let block := block.set c (block[c] + block[d])
  block.set b (rotateLeft (block[b] ^^^ block[c]) 7)

/-- Mixes the columns and then the diagonals of a block. -/
def doubleRound (block : Block) : Block :=
  let columns := quarterRound block 0 4 8 12
  let columns := quarterRound columns 1 5 9 13
  let columns := quarterRound columns 2 6 10 14
  let columns := quarterRound columns 3 7 11 15
  let diagonals := quarterRound columns 0 5 10 15
  let diagonals := quarterRound diagonals 1 6 11 12
  let diagonals := quarterRound diagonals 2 7 8 13
  quarterRound diagonals 3 4 9 14

/-- The block before mixing: constants, the key, the counter of blocks with its low
word first, and the nonce. -/
def initial (key : List UInt32) (counter : UInt64) : Block :=
  let keyWord (index : Nat) : UInt32 := key.getD index 0
  let words : Block := #v[
    0x61707865, 0x3320646e, 0x79622d32, 0x6b206574,
    keyWord 0, keyWord 1, keyWord 2, keyWord 3,
    keyWord 4, keyWord 5, keyWord 6, keyWord 7,
    counter.toUInt32, (counter >>> 32).toUInt32, 0, 0]
  words

/-- A block of the stream: six double rounds, added to what they began with. -/
def mixed (key : List UInt32) (counter : UInt64) : Block :=
  let start := initial key counter
  (Nat.repeat doubleRound 6 start).zipWith (· + ·) start

end Block

/-- An endless sequence of words. -/
abbrev Stream := Nat → UInt32

/-- The stream of a seed. -/
def Stream.ofSeed (seed : UInt64) : Stream :=
  let key := Key.words 8 seed
  fun position =>
    (Block.mixed key (UInt64.ofNat (position / 16))).get
      ⟨position % 16, Nat.mod_lt _ (by decide)⟩

end BranchingStory.Shuffle
