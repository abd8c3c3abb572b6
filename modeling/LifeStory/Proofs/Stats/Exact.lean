import LifeStory.Player
import LifeStory.Proofs.Stats.Drift
import LifeStory.Proofs.Word.Checked

/-!
# Exact changes of attributes

Scaling by the difficulty and drift, with every operation checked that does not saturate by design
(`scale?`, `drift?`). They have a result, and it is that of the machine: where attributes are in
range, no intermediate result leaves its type. A ledger may then be changed any number of times.

    d.scale? amount = some (d.scale amount)                              (scale?_eq)
    driftAmount? days rate gap = some (driftAmount days rate gap)        (driftAmount?_eq)
    l.InRange → l.drift? days m e = some (l.drift days m e)              (InRange.drift?_eq)
    l.InRange → (l.changed changes).InRange                              (InRange.changed)
    l.InRange → l.changed? changes = some (l.changed changes)            (InRange.changed?_eq)
-/

namespace LifeStory

namespace Difficulty

/-- The scaled change, each operation checked that does not saturate. -/
def scale? (d : Difficulty) (amount : Int32) : Option Int32 :=
  if 0 ≤ amount then some amount
  else match d with
  | relaxed => Word.quot? amount 2
  | balanced => some amount
  | harsh => (Word.quot? (Word.satAdd (Word.satNeg amount) 1) 2).map (Word.satSub amount)

theorem scale?_eq (d : Difficulty) (amount : Int32) : d.scale? amount = some (d.scale amount) := by
  unfold scale? scale
  split
  · rfl
  · cases d with
    | relaxed => exact Word.quot?_two amount
    | balanced => rfl
    | harsh =>
      dsimp only
      rw [Word.quot?_two]
      rfl

end Difficulty

namespace StatLedger

/-! ## Drift -/

/-- How far a value drifts, each operation checked that does not saturate. -/
def driftAmount? (days : UInt64) (rate gap : Int32) : Option Int32 := do
  let days : Int64 := Word.clamp (Word.toInt days)
  let rate : Int64 ← Word.convert? Int64 (max rate 0)
  let total := Word.satMul rate days
  let gap : Int64 ← Word.convert? Int64 gap
  Word.convert? Int32 (min total gap)

/-- Mood after some days without events, each operation checked. The way is computed before it is
known which one it is. -/
def driftMood? (l : StatLedger) (days : UInt64) (rate : Int32) : Option StatLedger := do
  let gap ← Word.abs? l.mood
  let step ← driftAmount? days rate gap
  if 0 < l.mood then (Word.neg? step).map (l.applyDelta .mood)
  else if l.mood < 0 then some (l.applyDelta .mood step)
  else some l

/-- Energy after some days without events, each operation checked. -/
def driftEnergy? (l : StatLedger) (days : UInt64) (rate : Int32) : Option StatLedger :=
  let rest := StatKind.energy.resting
  if l.energy < rest then do
    let gap ← Word.sub? rest l.energy
    let step ← driftAmount? days rate gap
    return l.applyDelta .energy step
  else some l

/-- The ledger after some days without events, each operation checked. -/
def drift? (l : StatLedger) (days : UInt64) (moodRate energyRate : Int32) : Option StatLedger := do
  let l ← l.driftMood? days moodRate
  l.driftEnergy? days energyRate

theorem convert?_toInt64 (a : Int32) : Word.convert? Int64 a = some a.toInt64 :=
  Word.convert?_eq_some_iff.2 (Int32.toInt_toInt64 a)

/-- The way is at most the gap, and a word for a gap below zero as well. -/
theorem driftAmount?_eq (days : UInt64) (rate gap : Int32) :
    driftAmount? days rate gap = some (driftAmount days rate gap) := by
  have hproduct : 0 ≤ max rate.toInt 0 * min (days.toNat : Int) 0x7FFFFFFFFFFFFFFF :=
    Int.mul_nonneg (by omega) (by omega)
  have hleast := gap.le_toInt
  have hgreatest := gap.toInt_lt
  unfold driftAmount? driftAmount
  dsimp only
  rw [convert?_toInt64, convert?_toInt64]
  show Word.convert? Int32 (min _ gap.toInt64) = _
  rw [Word.convert?_eq_some_iff]
  show (min _ gap.toInt64).toInt32.toInt = (min _ gap.toInt64).toInt
  rw [Int64.toInt_toInt32, toInt_min, Int32.toInt_toInt64, toInt_capped_pace]
  exact Int.bmod_eq_of_le (by omega) (by omega)

section InRange

variable {l : StatLedger} (h : l.InRange)

include h

theorem InRange.driftMood?_eq (days : UInt64) (rate : Int32) :
    l.driftMood? days rate = some (l.driftMood days rate) := by
  obtain ⟨hleast, hgreatest⟩ : -10 ≤ l.mood.toInt ∧ l.mood.toInt ≤ 10 := h .mood
  have habs := toInt_mood_abs h
  have hamount := toInt_driftAmount days rate l.mood.abs (by omega)
  have hpace := pace_nonneg rate days
  have hgap : Word.abs? l.mood = some l.mood.abs := Word.abs?_eq_some_iff.2 habs
  have hback : Word.neg? (driftAmount days rate l.mood.abs) =
      some (-driftAmount days rate l.mood.abs) :=
    Word.neg?_of_lt (by omega)
  unfold driftMood? StatLedger.driftMood
  rw [hgap]
  show (driftAmount? days rate l.mood.abs).bind _ = _
  rw [driftAmount?_eq]
  show (if 0 < l.mood then _ else _ : Option StatLedger) = _
  rw [hback]
  split_ifs <;> rfl

theorem InRange.driftEnergy?_eq (days : UInt64) (rate : Int32) :
    l.driftEnergy? days rate = some (l.driftEnergy days rate) := by
  obtain ⟨hleast, hgreatest⟩ : 0 ≤ l.energy.toInt ∧ l.energy.toInt ≤ 100 := h .energy
  have hrest : StatKind.energy.resting.toInt = 75 := by decide
  have hgap : Word.sub? StatKind.energy.resting l.energy =
      some (StatKind.energy.resting - l.energy) := by
    rw [Word.sub?_eq_some_iff]
    show (StatKind.energy.resting - l.energy).toInt =
      StatKind.energy.resting.toInt - l.energy.toInt
    rw [Int32.toInt_sub]
    exact Int.bmod_eq_of_le (by omega) (by omega)
  unfold driftEnergy? StatLedger.driftEnergy
  dsimp only
  rw [hgap]
  show (if _ then (driftAmount? days rate _).bind _ else _ : Option StatLedger) = _
  rw [driftAmount?_eq]
  split_ifs <;> rfl

theorem InRange.drift?_eq (days : UInt64) (moodRate energyRate : Int32) :
    l.drift? days moodRate energyRate = some (l.drift days moodRate energyRate) := by
  unfold drift?
  rw [h.driftMood?_eq]
  exact (h.driftMood days moodRate).driftEnergy?_eq days energyRate

end InRange

/-! ## Changes -/

/-- A change of a ledger. -/
inductive Change where
  | delta (k : StatKind) (amount : Int32)
  | day (moodRate energyRate : Int32)
  | days (n : UInt64) (moodRate energyRate : Int32)

/-- The ledger after a change. -/
def change (l : StatLedger) : Change → StatLedger
  | .delta k amount => l.applyDelta k amount
  | .day m e => l.driftDay m e
  | .days n m e => l.drift n m e

/-- The ledger after a change, each operation checked that does not saturate. -/
def change? (l : StatLedger) : Change → Option StatLedger
  | .delta k amount => some (l.applyDelta k amount)
  | .day m e => l.drift? 1 m e
  | .days n m e => l.drift? n m e

/-- The ledger after some changes. -/
def changed (l : StatLedger) (changes : List Change) : StatLedger := changes.foldl change l

/-- The ledger after some changes, each operation checked that does not saturate. -/
def changed? (l : StatLedger) (changes : List Change) : Option StatLedger :=
  changes.foldlM change? l

section Change

variable {l : StatLedger} (h : l.InRange)

include h

theorem InRange.change (c : Change) : (l.change c).InRange := by
  cases c with
  | delta k amount => exact h.applyDelta k amount
  | day m e => exact h.drift 1 m e
  | days n m e => exact h.drift n m e

theorem InRange.change?_eq (c : Change) : l.change? c = some (l.change c) := by
  cases c with
  | delta => rfl
  | day m e => exact h.drift?_eq 1 m e
  | days n m e => exact h.drift?_eq n m e

theorem InRange.changed (changes : List Change) : (l.changed changes).InRange := by
  induction changes generalizing l with
  | nil => exact h
  | cons c rest ih => exact ih (h.change c)

theorem InRange.changed?_eq (changes : List Change) :
    l.changed? changes = some (l.changed changes) := by
  induction changes generalizing l with
  | nil => rfl
  | cons c rest ih =>
    unfold changed?
    rw [List.foldlM_cons, h.change?_eq c]
    exact ih (h.change c)

end Change

end StatLedger

end LifeStory
