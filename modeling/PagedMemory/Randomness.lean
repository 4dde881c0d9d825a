/-!
# Random numbers

Random numbers are the words of a ChaCha key stream with twelve rounds.  A 64-bit seed is stretched
into the eight words of the key by a permuted congruential generator; the nonce is zero and the
64-bit block counter starts at zero.

A stream is represented by its key and by the number of words already taken from it, so that taking
a word changes nothing but the position, and the word at a position is a function of the key.

A number below `bound` is drawn by widening multiplication: the high half of word times `bound` is
the number, and the low half tells whether the draw was close enough to the next number to be
decided by a second word.  The main statement, `KeyStream.draw_lt`, is that the number is below the
bound.
-/

namespace PagedMemory.Randomness

/-- The sixteen words of a cipher state. -/
abbrev Block := Vector UInt32 16

/-- Rotates a word to the left by fewer than 32 places. -/
def rotateLeft (word places : UInt32) : UInt32 :=
  (word <<< places) ||| (word >>> (32 - places))

/-! ## Cipher blocks -/

namespace Block

/-- Mixes the four words at the given places. -/
def quarterRound (block : Block) (a b c d : Fin 16) : Block :=
  let wordA := block[a] + block[b]
  let wordD := rotateLeft (block[d] ^^^ wordA) 16
  let wordC := block[c] + wordD
  let wordB := rotateLeft (block[b] ^^^ wordC) 12
  let wordA := wordA + wordB
  let wordD := rotateLeft (wordD ^^^ wordA) 8
  let wordC := wordC + wordD
  let wordB := rotateLeft (wordB ^^^ wordC) 7
  (((block.set a wordA).set b wordB).set c wordC).set d wordD

/-- One round over the columns and one over the diagonals of the four by four square of words. -/
def doubleRound (block : Block) : Block :=
  let block := block.quarterRound 0 4 8 12
  let block := block.quarterRound 1 5 9 13
  let block := block.quarterRound 2 6 10 14
  let block := block.quarterRound 3 7 11 15
  let block := block.quarterRound 0 5 10 15
  let block := block.quarterRound 1 6 11 12
  let block := block.quarterRound 2 7 8 13
  block.quarterRound 3 4 9 14

/-- Applies the given number of double rounds. -/
def rounds : Nat → Block → Block
  | 0, block => block
  | count + 1, block => rounds count block.doubleRound

/-- The state before the first round: four constant words that spell "expand 32-byte k", the key,
the block counter in two words, and a nonce of two zero words. -/
def initial (key : Vector UInt32 8) (counter : UInt64) : Block :=
  let constants : Vector UInt32 4 := #v[0x61707865, 0x3320646e, 0x79622d32, 0x6b206574]
  let tail : Vector UInt32 4 := #v[counter.toUInt32, (counter >>> 32).toUInt32, 0, 0]
  constants ++ key ++ tail

/-- The output block with the given counter: six double rounds, added to the initial state. -/
def output (key : Vector UInt32 8) (counter : UInt64) : Block :=
  let start := initial key counter
  (rounds 6 start).zipWith (· + ·) start

end Block

/-! ## The stream -/

/-- A key stream from which `position` words have been taken. -/
structure KeyStream where
  key : Vector UInt32 8
  position : Nat := 0
deriving DecidableEq

namespace KeyStream

/-- The step of the congruential generator that stretches a seed. -/
def stretch (state : UInt64) : UInt64 :=
  state * 6364136223846793005 + 11634580027462260723

/-- The key word that a generator state stands for: its high half folded onto the low one, turned to
the right by the number in the top five bits. -/
def keyWord (state : UInt64) : UInt32 :=
  let folded := (((state >>> 18) ^^^ state) >>> 27).toUInt32
  let places := (state >>> 59).toUInt32
  (folded >>> places) ||| (folded <<< ((32 - places) % 32))

/-- The generator state after the given number of steps. -/
def stretched (seed : UInt64) : Nat → UInt64
  | 0 => seed
  | steps + 1 => stretch (stretched seed steps)

/-- The stream of a seed, from its beginning. -/
def ofSeed (seed : UInt64) : KeyStream where
  key := Vector.ofFn fun index ↦ keyWord (stretched seed (index.val + 1))

/-- The word at the stream's position. -/
def word (stream : KeyStream) : UInt32 :=
  (Block.output stream.key (stream.position / 16).toUInt64).get ⟨stream.position % 16, by omega⟩

/-- The stream behind its next word. -/
def advance (stream : KeyStream) : KeyStream := { stream with position := stream.position + 1 }

/-- Takes the next word. -/
def next (stream : KeyStream) : UInt32 × KeyStream := (stream.word, stream.advance)

end KeyStream

/-! ## Drawing from a range -/

namespace KeyStream

/-- How many values a word can take. -/
def wordCount : Nat := 0x100000000

/-- Draws a number below `bound`, which is meant to be less than `wordCount`.  A second word is
taken only when the first leaves a low half above `wordCount - bound`. -/
def draw (stream : KeyStream) (bound : Nat) : Nat × KeyStream :=
  let (first, stream) := stream.next
  let product := first.toNat * bound
  let high := product / wordCount
  let low := product % wordCount
  if wordCount < low + bound then
    let (second, stream) := stream.next
    let carry := low + second.toNat * bound / wordCount
    (if wordCount ≤ carry then high + 1 else high, stream)
  else
    (high, stream)

theorem draw_lt (stream : KeyStream) {bound : Nat} (positive : 0 < bound) :
    (stream.draw bound).1 < bound := by
  have word_lt : stream.word.toNat + 1 ≤ wordCount := stream.word.toNat_lt
  have product_le : stream.word.toNat * bound + bound ≤ wordCount * bound := by
    have := Nat.mul_le_mul_right bound word_lt
    rwa [Nat.succ_mul] at this
  have parts := Nat.div_add_mod (stream.word.toNat * bound) wordCount
  have count_pos : 0 < wordCount := by decide
  have high_lt : stream.word.toNat * bound / wordCount < bound := by
    rw [Nat.div_lt_iff_lt_mul count_pos, Nat.mul_comm bound]
    omega
  by_cases near : wordCount < stream.word.toNat * bound % wordCount + bound
  · have high_succ_lt : stream.word.toNat * bound / wordCount + 1 < bound := by
      apply Nat.lt_of_mul_lt_mul_left (a := wordCount)
      rw [Nat.mul_succ]
      omega
    have either (carried : Prop) [Decidable carried] :
        (if carried then stream.word.toNat * bound / wordCount + 1
          else stream.word.toNat * bound / wordCount) < bound := by
      by_cases holds : carried
      · simpa only [holds, if_true] using high_succ_lt
      · simpa only [holds, if_false] using high_lt
    simpa only [draw, next, near, if_true] using either _
  · simp only [draw, next, near, if_false]
    exact high_lt

end KeyStream

end PagedMemory.Randomness
