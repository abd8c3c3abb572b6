import LifeStory.Word

/-!
# Single and double precision

Numbers of content and configuration are doubles, accumulators are singles. `widen` is exact;
`narrow` goes to the nearest single, ties to the even one, and past the largest single to
infinity. `nearestInt32` rounds to an integer, ties away from zero, and holds the result inside
the word.
-/

namespace LifeStory.Precision

open Float.Model (Format UnpackedFloat)

/-- The value of one binary format in another, rounded to nearest. -/
def convert (source target : Format) (bits : BitVec source.numBits) : BitVec target.numBits :=
  UnpackedFloat.pack target <|
    match UnpackedFloat.unpack source bits with
    | .finite sign mantissa exponent _ => UnpackedFloat.round target sign mantissa exponent
    | other => other

/-- The double with the value of a single. -/
def widen (x : Float32) : Float :=
  .ofBits ⟨convert .binary32 .binary64 x.toBits.toBitVec⟩

/-- The single nearest to a double. -/
def narrow (x : Float) : Float32 :=
  .ofBits ⟨convert .binary64 .binary32 x.toBits.toBitVec⟩

/-- Decomposition of a double. -/
def unpack (x : Float) : UnpackedFloat :=
  UnpackedFloat.unpack .binary64 x.toBits.toBitVec

/-- Decomposition of a single. -/
def unpackSingle (x : Float32) : UnpackedFloat :=
  UnpackedFloat.unpack .binary32 x.toBits.toBitVec

/-- A value held between two bounds. What is no number is beside neither bound and stays. -/
def hold {α : Type} [LT α] [DecidableLT α] (least greatest value : α) : α :=
  if value < least then least else if greatest < value then greatest else value

/-- The integer nearest to `mantissa * 2 ^ exponent`, a half going up. -/
def roundHalfUp (mantissa : Nat) (exponent : Int) : Nat :=
  match exponent with
  | .ofNat k => mantissa * Nat.pow 2 k
  | .negSucc k => (mantissa + Nat.pow 2 k) / Nat.pow 2 (k + 1)

/-- The word nearest to a double: ties go away from zero, infinities to the ends, and what is no
number to zero. -/
def nearestInt32 (x : Float) : Int32 :=
  match unpack x with
  | .notANumber | .zero _ => 0
  | .infinity .positive => Word.ofInt (Word.greatest Int32)
  | .infinity .negative => Word.ofInt (Word.least Int32)
  | .finite .positive mantissa exponent _ => Word.clamp (roundHalfUp mantissa exponent : Int)
  | .finite .negative mantissa exponent _ => Word.clamp (-(roundHalfUp mantissa exponent : Int))

end LifeStory.Precision
