import LifeStory.Word

/-!
# Checked arithmetic

An operation on words that is checked has a result only where the integers have one that the word
type holds. What is put together from such operations and saturating ones has a result exactly if
no intermediate one leaves its type, other than by saturation.

    neg? a = some b ↔ toInt b = -toInt a                                 (neg?_eq_some_iff)
    sub? a b = some c ↔ toInt c = toInt a - toInt b                      (sub?_eq_some_iff)
    -0x80000000 < a.toInt → neg? a = some (-a)                           (neg?_of_lt)
    quot? a 2 = some (a / 2)                                             (quot?_two)
-/

namespace LifeStory.Word

variable {α β : Type} [Word α] [Word β]

/-- The negation. -/
def neg? (a : α) : Option α := ofInt? (-toInt a)

/-- The difference. -/
def sub? (a b : α) : Option α := ofInt? (toInt a - toInt b)

/-- The quotient, cut off toward zero. -/
def quot? (a b : α) : Option α :=
  if toInt b = 0 then none else ofInt? ((toInt a).tdiv (toInt b))

/-- The absolute value. -/
def abs? (a : α) : Option α := ofInt? (toInt a).natAbs

/-- The same number as a word of another type. -/
def convert? (β : Type) [Word β] (a : α) : Option β := ofInt? (toInt a)

/-! ## Lemmas -/

theorem neg?_eq_some_iff {a b : α} : neg? a = some b ↔ toInt b = -toInt a := ofInt?_eq_some_iff

theorem sub?_eq_some_iff {a b c : α} : sub? a b = some c ↔ toInt c = toInt a - toInt b :=
  ofInt?_eq_some_iff

theorem abs?_eq_some_iff {a b : α} : abs? a = some b ↔ toInt b = (toInt a).natAbs :=
  ofInt?_eq_some_iff

theorem convert?_eq_some_iff {a : α} {b : β} : convert? β a = some b ↔ toInt b = toInt a :=
  ofInt?_eq_some_iff

/-- Only the least word has no negation. -/
theorem neg?_of_lt {a : Int32} (h : -0x80000000 < a.toInt) : neg? a = some (-a) := by
  have hgreatest := a.toInt_lt
  rw [neg?_eq_some_iff]
  show (-a).toInt = -a.toInt
  rw [Int32.toInt_neg]
  exact Int.bmod_eq_of_le (by omega) (by omega)

/-- Half of a word is a word. -/
theorem quot?_two (a : Int32) : quot? a 2 = some (a / 2) := by
  unfold quot?
  rw [if_neg (by decide), ofInt?_eq_some_iff]
  exact Int32.toInt_div_of_ne_right a 2 (by decide)

end LifeStory.Word
