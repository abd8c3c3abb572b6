import LifeStory.Text.Digit
import LifeStory.Word

/-!
# Integers in text

An integer is written as decimal digits after an optional sign; an unsigned type takes no minus,
not even before zero. Leading zeros are allowed, blanks are not.
-/

namespace LifeStory.Text

/-- The number that decimal digits write; none without a digit. -/
def readDigits? (cs : List Char) : Option Nat :=
  if cs.isEmpty then none
  else cs.foldlM (fun n c => (digit? c).map (10 * n + ·)) 0

/-- The integer that a text writes. -/
def readInt? (signed : Bool) (s : String) : Option Int :=
  match s.toList with
  | '+' :: digits => (readDigits? digits).map Int.ofNat
  | '-' :: digits => if signed then (readDigits? digits).map (fun n => -(n : Int)) else none
  | digits => (readDigits? digits).map Int.ofNat

/-- The unsigned 64-bit word that a text writes. -/
def readUInt64? (s : String) : Option UInt64 := (readInt? false s).bind Word.ofInt?

/-- The signed 64-bit word that a text writes. -/
def readInt64? (s : String) : Option Int64 := (readInt? true s).bind Word.ofInt?

end LifeStory.Text
