/-!
# Machine words

A word type is an interval of the integers. Arithmetic on it here saturates: a result
outside the interval is replaced by the nearer end. Reading an integer into a word is
partial: `ofInt?` refuses what does not fit.

    least ≤ n → n ≤ greatest → toInt (clamp n) = n        (toInt_clamp_of_mem)
    ofInt? n = some a ↔ toInt a = n                       (ofInt?_eq_some_iff)

What the operations do on 64-bit words without a sign and on 32-bit words with one is said at the
end, in the integers (`toNat_satAdd`, `toInt_satAdd`).
-/

namespace LifeStory

/-- An integer type that holds exactly the integers from `least` to `greatest`. -/
class Word (α : Type) where
  toInt : α → Int
  ofInt : Int → α
  least : Int
  greatest : Int
  least_le_toInt : ∀ a, least ≤ toInt a
  toInt_le_greatest : ∀ a, toInt a ≤ greatest
  toInt_ofInt : ∀ n, least ≤ n → n ≤ greatest → toInt (ofInt n) = n
  ofInt_toInt : ∀ a, ofInt (toInt a) = a

namespace Word

/-! ## Instances -/

instance : Word UInt8 where
  toInt a := (a.toNat : Int)
  ofInt n := UInt8.ofNat n.toNat
  least := 0
  greatest := 0xFF
  least_le_toInt a := by omega
  toInt_le_greatest a := by have := a.toNat_lt; omega
  toInt_ofInt n h₀ h₁ := by
    rw [UInt8.toNat_ofNat']; omega
  ofInt_toInt a := by simp

instance : Word UInt32 where
  toInt a := (a.toNat : Int)
  ofInt n := UInt32.ofNat n.toNat
  least := 0
  greatest := 0xFFFFFFFF
  least_le_toInt a := by omega
  toInt_le_greatest a := by have := a.toNat_lt; omega
  toInt_ofInt n h₀ h₁ := by
    rw [UInt32.toNat_ofNat']; omega
  ofInt_toInt a := by simp

instance : Word UInt64 where
  toInt a := (a.toNat : Int)
  ofInt n := UInt64.ofNat n.toNat
  least := 0
  greatest := 0xFFFFFFFFFFFFFFFF
  least_le_toInt a := by omega
  toInt_le_greatest a := by have := a.toNat_lt; omega
  toInt_ofInt n h₀ h₁ := by
    rw [UInt64.toNat_ofNat']; omega
  ofInt_toInt a := by simp

instance : Word Int32 where
  toInt a := a.toInt
  ofInt n := Int32.ofInt n
  least := -0x80000000
  greatest := 0x7FFFFFFF
  least_le_toInt a := by have := a.le_toInt; omega
  toInt_le_greatest a := by have := a.toInt_lt; omega
  toInt_ofInt n h₀ h₁ := Int32.toInt_ofInt_of_le h₀ (by omega)
  ofInt_toInt a := by simp

instance : Word Int64 where
  toInt a := a.toInt
  ofInt n := Int64.ofInt n
  least := -0x8000000000000000
  greatest := 0x7FFFFFFFFFFFFFFF
  least_le_toInt a := by have := a.le_toInt; omega
  toInt_le_greatest a := by have := a.toInt_lt; omega
  toInt_ofInt n h₀ h₁ := Int64.toInt_ofInt_of_le h₀ (by omega)
  ofInt_toInt a := by simp

/-! ## Operations -/

variable {α : Type} [Word α]

/-- The word nearest to an integer. -/
def clamp (n : Int) : α := ofInt (max (least α) (min n (greatest α)))

/-- The word equal to an integer, if there is one. -/
def ofInt? (n : Int) : Option α :=
  if least α ≤ n ∧ n ≤ greatest α then some (ofInt n) else none

/-- The sum, held inside the word's range. -/
def satAdd (a b : α) : α := clamp (toInt a + toInt b)

/-- The difference, held inside the word's range. -/
def satSub (a b : α) : α := clamp (toInt a - toInt b)

/-- The product, held inside the word's range. -/
def satMul (a b : α) : α := clamp (toInt a * toInt b)

/-- The negation, held inside the word's range. -/
def satNeg (a : α) : α := clamp (-toInt a)

/-! ## Lemmas -/

theorem least_le_greatest [Inhabited α] : least α ≤ greatest α :=
  Int.le_trans (least_le_toInt default) (toInt_le_greatest default)

theorem toInt_clamp [Inhabited α] (n : Int) :
    toInt (clamp n : α) = max (least α) (min n (greatest α)) := by
  have := least_le_greatest (α := α)
  exact toInt_ofInt _ (by omega) (by omega)

theorem toInt_clamp_of_mem {n : Int} (h₀ : least α ≤ n) (h₁ : n ≤ greatest α) :
    toInt (clamp n : α) = n := by
  rw [clamp, toInt_ofInt _ (by omega) (by omega)]; omega

theorem toInt_inj {a b : α} : toInt a = toInt b ↔ a = b :=
  ⟨fun h => by rw [← ofInt_toInt a, h, ofInt_toInt], fun h => h ▸ rfl⟩

theorem ofInt?_eq_some_iff {n : Int} {a : α} : ofInt? n = some a ↔ toInt a = n := by
  unfold ofInt?
  split
  · next h =>
    rw [Option.some.injEq, ← toInt_inj, toInt_ofInt _ h.1 h.2]
    exact eq_comm
  · next h =>
    refine ⟨fun h' => (nomatch h'), fun h' => absurd ?_ h⟩
    exact h' ▸ ⟨least_le_toInt a, toInt_le_greatest a⟩

/-! ## Unsigned words -/

theorem toNat_satAdd (a b : UInt64) :
    (satAdd a b).toNat = min (a.toNat + b.toNat) 0xFFFFFFFFFFFFFFFF := by
  have h : ((satAdd a b).toNat : Int) =
      max 0 (min ((a.toNat : Int) + b.toNat) 0xFFFFFFFFFFFFFFFF) :=
    toInt_clamp (α := UInt64) (toInt a + toInt b)
  omega

theorem toNat_satMul (a b : UInt64) :
    (satMul a b).toNat = min (a.toNat * b.toNat) 0xFFFFFFFFFFFFFFFF := by
  have h : ((satMul a b).toNat : Int) =
      max 0 (min ((a.toNat : Int) * b.toNat) 0xFFFFFFFFFFFFFFFF) :=
    toInt_clamp (α := UInt64) (toInt a * toInt b)
  rw [← Int.natCast_mul] at h
  omega

/-! ## Signed words -/

theorem toInt_satAdd (a b : Int32) :
    (satAdd a b).toInt = max (-0x80000000) (min (a.toInt + b.toInt) 0x7FFFFFFF) :=
  toInt_clamp (α := Int32) (toInt a + toInt b)

theorem toInt_satSub (a b : Int32) :
    (satSub a b).toInt = max (-0x80000000) (min (a.toInt - b.toInt) 0x7FFFFFFF) :=
  toInt_clamp (α := Int32) (toInt a - toInt b)

theorem toInt_satNeg (a : Int32) :
    (satNeg a).toInt = max (-0x80000000) (min (-a.toInt) 0x7FFFFFFF) :=
  toInt_clamp (α := Int32) (-toInt a)

/-- All but the least word have a negative. -/
theorem toInt_neg_of_nonneg {a : Int32} (h : 0 ≤ a) : (-a).toInt = -a.toInt := by
  have hnonneg : 0 ≤ a.toInt := Int32.le_iff_toInt_le.1 h
  have hgreatest := a.toInt_lt
  rw [Int32.toInt_neg, Int.bmod_eq_of_le (by omega) (by omega)]

end Word

end LifeStory
