/-!
# The word stream of a key

A key of eight words determines a stream of 32-bit words in blocks of sixteen. Block `n` is made
from the state of four constant words, the key, and `n` as a 64-bit counter followed by two zero
words: four double rounds of quarter rounds mix the state, and the state before is added to the
state after. This is the cipher ChaCha8 with its counter from zero and a nonce of zero.
`Key.expand` makes a key from a 64-bit seed.
-/

namespace LifeStory.Random

/-- Eight words of key. -/
abbrev Key := Vector UInt32 8

/-- Sixteen words of state. -/
abbrev Block := Vector UInt32 16

/-- The word turned left by `k` bits. -/
def rotateLeft (x : UInt32) (k : UInt32) : UInt32 := (x <<< k) ||| (x >>> (32 - k))

/-- Mixes four words of a state. -/
def quarterRound (s : Block) (a b c d : Fin 16) : Block :=
  let xa := s[a] + s[b]
  let xd := rotateLeft (s[d] ^^^ xa) 16
  let xc := s[c] + xd
  let xb := rotateLeft (s[b] ^^^ xc) 12
  let xa := xa + xb
  let xd := rotateLeft (xd ^^^ xa) 8
  let xc := xc + xd
  let xb := rotateLeft (xb ^^^ xc) 7
  (((s.set a xa).set b xb).set c xc).set d xd

/-- Mixes the columns of a state and then its diagonals. -/
def doubleRound (s : Block) : Block :=
  let s := quarterRound s 0 4 8 12
  let s := quarterRound s 1 5 9 13
  let s := quarterRound s 2 6 10 14
  let s := quarterRound s 3 7 11 15
  let s := quarterRound s 0 5 10 15
  let s := quarterRound s 1 6 11 12
  let s := quarterRound s 2 7 8 13
  quarterRound s 3 4 9 14

/-- The state of a block before mixing. -/
def initialState (key : Key) (counter : UInt64) : Block :=
  #v[0x61707865, 0x3320646e, 0x79622d32, 0x6b206574,
    key[0], key[1], key[2], key[3], key[4], key[5], key[6], key[7],
    counter.toUInt32, (counter >>> 32).toUInt32, 0, 0]

/-- A block of the stream. -/
def block (key : Key) (counter : UInt64) : Block :=
  let state := initialState key counter
  let mixed := doubleRound (doubleRound (doubleRound (doubleRound state)))
  Vector.zipWith (· + ·) mixed state

/-- The word of the stream at a position. The stream repeats after `2 ^ 68` words. -/
def wordAt (key : Key) (position : Nat) : UInt32 :=
  (block key (UInt64.ofNat (position / 16))).get ⟨position % 16, Nat.mod_lt _ (by decide)⟩

/-! ## Keys -/

/-- The state of the seed generator after one step. -/
def seedStep (state : UInt64) : UInt64 := state * 6364136223846793005 + 11634580027462260723

/-- The word of a state of the seed generator. -/
def seedWord (state : UInt64) : UInt32 :=
  let x := (((state >>> 18) ^^^ state) >>> 27).toUInt32
  let k := (state >>> 59).toUInt32
  (x >>> k) ||| (x <<< ((32 - k) &&& 31))

/-- The state of the seed generator after some steps. -/
def seedStates (seed : UInt64) : Nat → UInt64
  | 0 => seed
  | n + 1 => seedStep (seedStates seed n)

/-- The key of a seed: the first eight words of the seed generator. -/
def Key.expand (seed : UInt64) : Key := Vector.ofFn fun i => seedWord (seedStates seed (i + 1))

end LifeStory.Random
