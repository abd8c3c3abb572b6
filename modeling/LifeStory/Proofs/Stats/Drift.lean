import Mathlib.Tactic.SplitIfs
import LifeStory.Stats.Ledger

/-!
# Ranges and drift

Every attribute stays in its range, whatever is added to it. While no event intervenes, mood eases
toward zero and energy recovers toward its resting value, each by its rate a day (`pace`); stopping
at the goal, they move as if the days were counted one by one, so drift over some days and then some
more is drift over all of them.

    (k.clamp v).toInt = max k.least.toInt (min v.toInt k.greatest.toInt)      (toInt_clamp)
    l.InRange → (l.applyDelta k amount).InRange                               (InRange.applyDelta)
    0 ≤ gap.toInt → (driftAmount days rate gap).toInt = min (pace rate days) gap.toInt
                                                                              (toInt_driftAmount)
    l.InRange → ((l.drift days moodRate energyRate).read k).toInt =
      k.drifted (pace moodRate days) (pace energyRate days) (l.read k).toInt  (toInt_read_drift)
    l.InRange → (l.drift d₁ m e).drift d₂ m e = l.drift (d₁ + d₂) m e         (drift_drift)
-/

namespace LifeStory

namespace StatKind

theorem least_le_greatest (k : StatKind) : k.least.toInt ≤ k.greatest.toInt := by
  cases k <;> decide

theorem toInt_clamp (k : StatKind) (v : Int32) :
    (k.clamp v).toInt = max k.least.toInt (min v.toInt k.greatest.toInt) := by
  have h := k.least_le_greatest
  unfold clamp
  split_ifs with hless hgreater
  · rw [Int32.lt_iff_toInt_lt] at hless
    omega
  · rw [Int32.lt_iff_toInt_lt] at hless hgreater
    omega
  · rw [Int32.lt_iff_toInt_lt] at hless hgreater
    omega

end StatKind

namespace StatLedger

/-! ## Ranges -/

/-- Every attribute lies in its range. -/
def InRange (l : StatLedger) : Prop :=
  ∀ k : StatKind, k.least.toInt ≤ (l.read k).toInt ∧ (l.read k).toInt ≤ k.greatest.toInt

/-- The mood lies from -10 to 10, and every other attribute from 0 to 100. -/
structure Within (l : StatLedger) : Prop where
  mood : -10 ≤ l.mood ∧ l.mood ≤ 10
  other : ∀ k, k ≠ .mood → 0 ≤ l.read k ∧ l.read k ≤ 100

theorem InRange.within {l : StatLedger} (h : l.InRange) : l.Within where
  mood := ⟨Int32.le_iff_toInt_le.2 (h .mood).1, Int32.le_iff_toInt_le.2 (h .mood).2⟩
  other := by
    intro k hk
    obtain ⟨hleast, hgreatest⟩ := h k
    cases k with
    | mood => exact absurd rfl hk
    | _ => exact ⟨Int32.le_iff_toInt_le.2 hleast, Int32.le_iff_toInt_le.2 hgreatest⟩

theorem read_applyDelta (l : StatLedger) (k j : StatKind) (amount : Int32) :
    (l.applyDelta k amount).read j =
      if j = k then k.clamp (Word.satAdd (l.read k) amount) else l.read j :=
  read_set ..

theorem inRange_resting : resting.InRange := by
  intro k
  rw [read_resting]
  cases k <;> decide

theorem InRange.applyDelta {l : StatLedger} (h : l.InRange) (k : StatKind) (amount : Int32) :
    (l.applyDelta k amount).InRange := by
  intro j
  rw [read_applyDelta]
  split_ifs with hj
  · subst hj
    have hle := j.least_le_greatest
    rw [StatKind.toInt_clamp]
    omega
  · exact h j

theorem InRange.driftMood {l : StatLedger} (h : l.InRange) (days : UInt64) (rate : Int32) :
    (l.driftMood days rate).InRange := by
  unfold StatLedger.driftMood
  split_ifs
  · exact h.applyDelta _ _
  · exact h.applyDelta _ _
  · exact h

theorem InRange.driftEnergy {l : StatLedger} (h : l.InRange) (days : UInt64) (rate : Int32) :
    (l.driftEnergy days rate).InRange := by
  unfold StatLedger.driftEnergy
  dsimp only
  split_ifs
  · exact h.applyDelta _ _
  · exact h

theorem InRange.drift {l : StatLedger} (h : l.InRange) (days : UInt64)
    (moodRate energyRate : Int32) : (l.drift days moodRate energyRate).InRange :=
  (h.driftMood days moodRate).driftEnergy days energyRate

/-- What is added to an attribute stays where it fits its range. -/
theorem toInt_read_applyDelta {l : StatLedger} {k : StatKind} {amount : Int32}
    (least : k.least.toInt ≤ (l.read k).toInt + amount.toInt)
    (greatest : (l.read k).toInt + amount.toInt ≤ k.greatest.toInt) :
    ((l.applyDelta k amount).read k).toInt = (l.read k).toInt + amount.toInt := by
  have hleast := k.least.le_toInt
  have hgreatest := k.greatest.toInt_lt
  rw [read_applyDelta, if_pos rfl, StatKind.toInt_clamp, Word.toInt_satAdd]
  omega

/-! ## How far -/

/-- How far some days at a rate would go, without a goal. -/
def pace (rate : Int32) (days : UInt64) : Int := max rate.toInt 0 * days.toNat

theorem pace_nonneg (rate : Int32) (days : UInt64) : 0 ≤ pace rate days :=
  Int.mul_nonneg (by omega) (by omega)

theorem pace_add {rate : Int32} {d₁ d₂ d : UInt64} (h : d.toNat = d₁.toNat + d₂.toNat) :
    pace rate d = pace rate d₁ + pace rate d₂ := by
  unfold pace
  rw [h, Int.natCast_add, Int.mul_add]

theorem toInt_max_zero (rate : Int32) : (max rate 0).toInt = max rate.toInt 0 := by
  show (if rate ≤ 0 then 0 else rate : Int32).toInt = _
  split_ifs with h
  · rw [Int32.le_iff_toInt_le, Int32.toInt_zero] at h
    rw [Int32.toInt_zero]
    omega
  · rw [Int32.le_iff_toInt_le, Int32.toInt_zero] at h
    omega

theorem toInt_min (a b : Int64) : (min a b).toInt = min a.toInt b.toInt := by
  show (if a ≤ b then a else b : Int64).toInt = _
  split_ifs with h
  · rw [Int64.le_iff_toInt_le] at h
    omega
  · rw [Int64.le_iff_toInt_le] at h
    omega

/-- Where a goal is within reach of the words, it does not show that days and distance stop at their
greatest. -/
theorem min_capped_mul (r d greatest gap : Int) (hr : 0 ≤ r) (hd : 0 ≤ d)
    (hgreatest : 0 ≤ greatest) (hgap : gap ≤ greatest) :
    min (min (r * min d greatest) greatest) gap = min (r * d) gap := by
  by_cases hfit : d ≤ greatest
  · have hwhole : min d greatest = d := Int.min_eq_left hfit
    rw [hwhole]
    omega
  · have hcapped : min d greatest = greatest := Int.min_eq_right (by omega)
    rw [hcapped]
    -- either nothing moves, or both distances are beyond the goal
    by_cases hzero : r = 0
    · rw [hzero, Int.zero_mul, Int.zero_mul]
      omega
    · have hall : 1 * d ≤ r * d := Int.mul_le_mul_of_nonneg_right (by omega) hd
      have hcut : 1 * greatest ≤ r * greatest :=
        Int.mul_le_mul_of_nonneg_right (by omega) hgreatest
      omega

/-- Days and distance stop at the greatest signed word, and nothing goes back. -/
theorem toInt_capped_pace (days : UInt64) (rate : Int32) :
    (Word.satMul (max rate 0).toInt64 (Word.clamp (Word.toInt days))).toInt =
      min (max rate.toInt 0 * min (days.toNat : Int) 0x7FFFFFFFFFFFFFFF) 0x7FFFFFFFFFFFFFFF := by
  have hdays : (Word.clamp (Word.toInt days) : Int64).toInt =
      min (days.toNat : Int) 0x7FFFFFFFFFFFFFFF := by
    have hclamp : (Word.clamp (Word.toInt days) : Int64).toInt =
        max (-0x8000000000000000) (min (days.toNat : Int) 0x7FFFFFFFFFFFFFFF) :=
      Word.toInt_clamp (α := Int64) (Word.toInt days)
    omega
  have hnonneg : 0 ≤ max rate.toInt 0 * min (days.toNat : Int) 0x7FFFFFFFFFFFFFFF :=
    Int.mul_nonneg (by omega) (by omega)
  have hclamp : (Word.satMul (max rate 0).toInt64 (Word.clamp (Word.toInt days))).toInt =
      max (-0x8000000000000000) (min ((max rate 0).toInt64.toInt *
        (Word.clamp (Word.toInt days) : Int64).toInt) 0x7FFFFFFFFFFFFFFF) :=
    Word.toInt_clamp (α := Int64) _
  rw [hdays, Int32.toInt_toInt64, toInt_max_zero] at hclamp
  omega

theorem toInt_driftAmount (days : UInt64) (rate gap : Int32) (h : 0 ≤ gap.toInt) :
    (driftAmount days rate gap).toInt = min (pace rate days) gap.toInt := by
  have hgap := gap.toInt_lt
  have hcut := min_capped_mul (max rate.toInt 0) days.toNat 0x7FFFFFFFFFFFFFFF gap.toInt
    (by omega) (by omega) (by omega) (by omega)
  have hpace := pace_nonneg rate days
  unfold driftAmount
  dsimp only
  rw [Int64.toInt_toInt32, toInt_min, Int32.toInt_toInt64, toInt_capped_pace, hcut]
  exact Int.bmod_eq_of_le (by unfold pace at hpace; omega) (by omega)

/-! ## Drift -/

end StatLedger

namespace StatKind

/-- Where the attribute is after it has drifted, if mood goes so far toward zero and energy so far
toward its resting value. -/
def drifted (ease recovery : Int) : StatKind → Int → Int
  | mood, v => if 0 < v then max (v - ease) 0 else min (v + ease) 0
  | energy, v => max v (min (v + recovery) energy.resting.toInt)
  | _, v => v

theorem drifted_of_ne {k : StatKind} (hmood : k ≠ .mood) (henergy : k ≠ .energy)
    (ease recovery v : Int) : k.drifted ease recovery v = v := by
  cases k with
  | mood => exact absurd rfl hmood
  | energy => exact absurd rfl henergy
  | _ => rfl

/-- Two ways one after the other are one way. -/
theorem drifted_drifted {e₁ e₂ r₁ r₂ : Int} (he₂ : 0 ≤ e₂) (hr₁ : 0 ≤ r₁)
    (hr₂ : 0 ≤ r₂) (k : StatKind) (v : Int) :
    k.drifted e₂ r₂ (k.drifted e₁ r₁ v) = k.drifted (e₁ + e₂) (r₁ + r₂) v := by
  cases k with
  | mood =>
    unfold drifted
    dsimp only
    split_ifs <;> omega
  | energy =>
    unfold drifted
    dsimp only
    omega
  | _ => rfl

end StatKind

namespace StatLedger

variable {l : StatLedger}

theorem read_applyDelta_of_ne {k j : StatKind} (h : j ≠ k) (amount : Int32) :
    (l.applyDelta k amount).read j = l.read j := by
  rw [read_applyDelta, if_neg h]

theorem toInt_mood_abs (h : l.InRange) : l.mood.abs.toInt = l.mood.toInt.natAbs := by
  have hmood : -10 ≤ l.mood.toInt := (h .mood).1
  show l.mood.toBitVec.abs.toInt = l.mood.toBitVec.toInt.natAbs
  rw [BitVec.toInt_abs_eq_natAbs, if_neg]
  intro hmin
  change -10 ≤ l.mood.toBitVec.toInt at hmood
  rw [hmin] at hmood
  exact absurd hmood (by decide)

theorem toInt_read_driftMood (h : l.InRange) (days : UInt64) (rate : Int32) (recovery : Int) :
    ((l.driftMood days rate).read .mood).toInt =
      StatKind.mood.drifted (pace rate days) recovery (l.read .mood).toInt := by
  obtain ⟨hleast, hgreatest⟩ : -10 ≤ l.mood.toInt ∧ l.mood.toInt ≤ 10 := h .mood
  have habs := toInt_mood_abs h
  have hamount := toInt_driftAmount days rate l.mood.abs (by omega)
  have hpace := pace_nonneg rate days
  show _ = if 0 < l.mood.toInt then max (l.mood.toInt - pace rate days) 0
    else min (l.mood.toInt + pace rate days) 0
  unfold driftMood
  by_cases hpos : 0 < l.mood
  · have hposInt : 0 < l.mood.toInt := Int32.lt_iff_toInt_lt.1 hpos
    have hneg : (-driftAmount days rate l.mood.abs).toInt = -min (pace rate days) l.mood.toInt := by
      rw [Int32.toInt_neg, hamount, Int.bmod_eq_of_le (by omega) (by omega)]
      omega
    rw [if_pos hpos, if_pos hposInt, toInt_read_applyDelta]
    · show l.mood.toInt + _ = _
      omega
    · show -10 ≤ l.mood.toInt + _
      omega
    · show l.mood.toInt + _ ≤ 10
      omega
  · have hposInt : ¬0 < l.mood.toInt := fun h => hpos (Int32.lt_iff_toInt_lt.2 h)
    rw [if_neg hpos, if_neg hposInt]
    split_ifs with hneg
    · rw [toInt_read_applyDelta]
      · show l.mood.toInt + _ = _
        omega
      · show -10 ≤ l.mood.toInt + _
        omega
      · show l.mood.toInt + _ ≤ 10
        omega
    · rw [Int32.lt_iff_toInt_lt, Int32.toInt_zero] at hneg
      show l.mood.toInt = _
      omega

theorem toInt_read_driftEnergy (h : l.InRange) (days : UInt64) (rate : Int32) (ease : Int) :
    ((l.driftEnergy days rate).read .energy).toInt =
      StatKind.energy.drifted ease (pace rate days) (l.read .energy).toInt := by
  obtain ⟨hleast, hgreatest⟩ : 0 ≤ l.energy.toInt ∧ l.energy.toInt ≤ 100 := h .energy
  have hrest : StatKind.energy.resting.toInt = 75 := by decide
  have hgap : (StatKind.energy.resting - l.energy).toInt = 75 - l.energy.toInt := by
    rw [Int32.toInt_sub, hrest, Int.bmod_eq_of_le (by omega) (by omega)]
  have hpace := pace_nonneg rate days
  show _ = max l.energy.toInt (min (l.energy.toInt + pace rate days) StatKind.energy.resting.toInt)
  unfold driftEnergy
  dsimp only
  rw [hrest]
  split_ifs with hless
  · rw [Int32.lt_iff_toInt_lt, hrest] at hless
    have hamount := toInt_driftAmount days rate (StatKind.energy.resting - l.energy) (by omega)
    rw [hgap] at hamount
    rw [toInt_read_applyDelta]
    · show l.energy.toInt + _ = _
      omega
    · show 0 ≤ l.energy.toInt + _
      omega
    · show l.energy.toInt + _ ≤ 100
      omega
  · rw [Int32.lt_iff_toInt_lt, hrest] at hless
    show l.energy.toInt = _
    omega

/-- Drift moves mood and energy, each on its way, and nothing else. -/
theorem toInt_read_drift (h : l.InRange) (days : UInt64) (moodRate energyRate : Int32)
    (k : StatKind) :
    ((l.drift days moodRate energyRate).read k).toInt =
      k.drifted (pace moodRate days) (pace energyRate days) (l.read k).toInt := by
  have henergy : ∀ j, j ≠ .energy →
      (l.drift days moodRate energyRate).read j = (l.driftMood days moodRate).read j := by
    intro j hj
    unfold drift driftEnergy
    dsimp only
    split_ifs
    · exact read_applyDelta_of_ne hj _
    · rfl
  have hmood : ∀ j, j ≠ .mood → (l.driftMood days moodRate).read j = l.read j := by
    intro j hj
    unfold driftMood
    split_ifs
    · exact read_applyDelta_of_ne hj _
    · exact read_applyDelta_of_ne hj _
    · rfl
  by_cases hk : k = .energy
  · subst hk
    rw [← hmood .energy (by decide)]
    exact toInt_read_driftEnergy (h.driftMood days moodRate) days energyRate _
  · rw [henergy k hk]
    by_cases hk' : k = .mood
    · subst hk'
      exact toInt_read_driftMood h days moodRate _
    · rw [hmood k hk', StatKind.drifted_of_ne hk' hk]

/-- Drift over some days and then some more is drift over all of them. -/
theorem drift_drift (h : l.InRange) {d₁ d₂ d : UInt64} (hd : d.toNat = d₁.toNat + d₂.toNat)
    (moodRate energyRate : Int32) :
    (l.drift d₁ moodRate energyRate).drift d₂ moodRate energyRate =
      l.drift d moodRate energyRate := by
  apply ext_read
  intro k
  rw [← Int32.toInt_inj, toInt_read_drift (h.drift _ _ _), toInt_read_drift h, toInt_read_drift h,
    pace_add hd, pace_add hd]
  exact StatKind.drifted_drifted (pace_nonneg ..) (pace_nonneg ..) (pace_nonneg ..) k _

/-- Without any day there is no drift. -/
theorem drift_zero (h : l.InRange) (moodRate energyRate : Int32) :
    l.drift 0 moodRate energyRate = l := by
  apply ext_read
  intro k
  rw [← Int32.toInt_inj, toInt_read_drift h]
  have hzero : ∀ rate, pace rate 0 = 0 := fun rate => Int.mul_zero _
  rw [hzero, hzero]
  cases k with
  | mood =>
    unfold StatKind.drifted
    dsimp only
    split_ifs <;> omega
  | energy =>
    unfold StatKind.drifted
    dsimp only
    omega
  | _ => rfl

end StatLedger

end LifeStory
