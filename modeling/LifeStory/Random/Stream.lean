import LifeStory.Word
import LifeStory.Random.KeyStream

/-!
# Random streams

A stream is a key, the position of the next word, and the number of draws. Two streams of one
seed that made the same draws are equal, so whoever keeps the draws keeps the stream.

Integers are drawn without bias: a word is taken times the size of the range, its upper half is
the answer, and it is drawn again where the lower half falls past the last whole multiple
(`Stream.below`).
-/

namespace LifeStory.Random

/-- A seeded stream of random words. -/
structure Stream where
  seed : UInt64
  key : Key
  position : Nat
  draws : Nat
deriving DecidableEq

namespace Stream

/-- The stream of a seed. -/
def ofSeed (seed : UInt64) : Stream := ⟨seed, Key.expand seed, 0, 0⟩

/-- The next word. -/
def nextWord (s : Stream) : UInt32 × Stream :=
  (wordAt s.key s.position, { s with position := s.position + 1 })

/-- The next two words as one, the lower half first. -/
def nextDoubleWord (s : Stream) : UInt64 × Stream :=
  let (low, s) := s.nextWord
  let (high, s) := s.nextWord
  (low.toUInt64 ||| (high.toUInt64 <<< 32), s)

/-- Counts a draw. -/
def drawn (s : Stream) : Stream := { s with draws := s.draws + 1 }

/-- A number in `[0, 1)`: a multiple of `2 ^ -53`. -/
def unit (s : Stream) : Float × Stream :=
  let (w, s) := s.drawn.nextDoubleWord
  ((w >>> 11).toFloat / 9007199254740992.0, s)

/-- The number of words after which every stream repeats: `2 ^ 68`. -/
def period : Nat := 0x100000000000000000

/-- The last lower half that is accepted for a range of `size` numbers. -/
def zone (size : Nat) : Nat := size * Nat.pow 2 (31 - size.log2) - 1

/-- A number below `size`, from the next accepted word of at most `words`. -/
def belowWithin (size : Nat) (s : Stream) : Nat → Nat × Stream
  | 0 => (0, s)
  | words + 1 =>
    let (w, s) := s.nextWord
    let product := w.toNat * size
    if product % 0x100000000 ≤ zone size then (product / 0x100000000, s) else belowWithin size s words

/-- A number below `size`, for a size that fits a word. A word that is accepted comes up within
the period or never. -/
def below (size : Nat) (s : Stream) : Nat × Stream := belowWithin size s period

/-- An integer from `low` to `high`, both included; `low` without a draw if that is no range. -/
def between (low high : Int32) (s : Stream) : Int32 × Stream :=
  if high ≤ low then (low, s)
  else
    let size := (high.toInt - low.toInt + 1).toNat
    if size < 0x100000000 then
      let (n, s) := s.drawn.below size
      (Int32.ofInt (low.toInt + n), s)
    else
      let (w, s) := s.drawn.nextWord
      (w.toInt32, s)

end Stream

end LifeStory.Random
