import Mathlib.Logic.Function.Iterate
import LifeStory.Proofs.Stats.Drift

/-!
# Drift day by day

Drift takes any number of days in one step. It leaves what the drift of one day leaves when it is
done once for each of them, be they more than a signed word can count and the rates what they may:
mood has come nearer to zero by its rate a day and keeps its side, energy has recovered as far as
its resting value at most, and nothing else has moved.

    l.InRange → n < 2 ^ 64 →
      (·.driftDay moodRate energyRate)^[n] l = l.drift (.ofNat n) moodRate energyRate
                                                                              (iterate_driftDay)
    l.InRange → Settled (pace moodRate days) (pace energyRate days) l (l.drift days ..)
                                                                              (settled_drift)
-/

namespace LifeStory

namespace StatLedger

/-- What days without events leave of a ledger, if mood goes so far toward zero and energy so far
toward its resting value. -/
structure Settled (ease recovery : Int) (before after : StatLedger) : Prop where
  mood_of_nonneg : 0 ≤ before.mood → 0 ≤ after.mood ∧ after.mood ≤ before.mood
  mood_of_nonpos : before.mood ≤ 0 → before.mood ≤ after.mood ∧ after.mood ≤ 0
  /-- How far mood is from zero. -/
  natAbs_mood : (after.mood.toInt.natAbs : Int) = max (before.mood.toInt.natAbs - ease) 0
  energy_of_lt : before.energy < StatKind.energy.resting →
    before.energy ≤ after.energy ∧ after.energy ≤ StatKind.energy.resting ∧
      after.energy.toInt = min (before.energy.toInt + recovery) StatKind.energy.resting.toInt
  energy_of_le : StatKind.energy.resting ≤ before.energy → after.energy = before.energy
  read_of_ne : ∀ k, k ≠ .mood → k ≠ .energy → after.read k = before.read k

variable {l : StatLedger}

/-- One day after the other is all of them at once. -/
theorem iterate_driftDay (h : l.InRange) (moodRate energyRate : Int32) {n : Nat}
    (hn : n < 0x10000000000000000) :
    (fun m : StatLedger => m.driftDay moodRate energyRate)^[n] l =
      l.drift (.ofNat n) moodRate energyRate := by
  induction n with
  | zero => exact (drift_zero h moodRate energyRate).symm
  | succ n ih =>
    have hdays : (UInt64.ofNat (n + 1)).toNat = (UInt64.ofNat n).toNat + (1 : UInt64).toNat := by
      rw [UInt64.toNat_ofNat', UInt64.toNat_ofNat', UInt64.toNat_one]
      omega
    rw [Function.iterate_succ_apply', ih (by omega)]
    exact drift_drift h hdays moodRate energyRate

theorem settled_drift (h : l.InRange) (days : UInt64) (moodRate energyRate : Int32) :
    Settled (pace moodRate days) (pace energyRate days) l (l.drift days moodRate energyRate) := by
  have hread := toInt_read_drift h days moodRate energyRate
  have hease := pace_nonneg moodRate days
  have hrecovery := pace_nonneg energyRate days
  have hmood : (l.drift days moodRate energyRate).mood.toInt =
      if 0 < l.mood.toInt then max (l.mood.toInt - pace moodRate days) 0
        else min (l.mood.toInt + pace moodRate days) 0 := hread .mood
  have henergy : (l.drift days moodRate energyRate).energy.toInt =
      max l.energy.toInt
        (min (l.energy.toInt + pace energyRate days) StatKind.energy.resting.toInt) :=
    hread .energy
  constructor
  case mood_of_nonneg =>
    intro hnonneg
    rw [Int32.le_iff_toInt_le, Int32.toInt_zero] at hnonneg
    rw [Int32.le_iff_toInt_le, Int32.le_iff_toInt_le, Int32.toInt_zero, hmood]
    split <;> omega
  case mood_of_nonpos =>
    intro hnonpos
    rw [Int32.le_iff_toInt_le, Int32.toInt_zero] at hnonpos
    rw [Int32.le_iff_toInt_le, Int32.le_iff_toInt_le, Int32.toInt_zero, hmood]
    split <;> omega
  case natAbs_mood =>
    rw [hmood]
    split <;> omega
  case energy_of_lt =>
    intro hless
    rw [Int32.lt_iff_toInt_lt] at hless
    rw [Int32.le_iff_toInt_le, Int32.le_iff_toInt_le, henergy]
    omega
  case energy_of_le =>
    intro hle
    rw [Int32.le_iff_toInt_le] at hle
    rw [← Int32.toInt_inj, henergy]
    omega
  case read_of_ne =>
    intro k hk hk'
    rw [← Int32.toInt_inj, hread, StatKind.drifted_of_ne hk hk']

/-- Drift over any number of days is the drift of one day, done once for each. -/
theorem drift_eq_iterate (h : l.InRange) (days : UInt64) (moodRate energyRate : Int32) :
    l.drift days moodRate energyRate =
      (fun m : StatLedger => m.driftDay moodRate energyRate)^[days.toNat] l ∧
    Settled (pace moodRate days) (pace energyRate days) l
      (l.drift days moodRate energyRate) := by
  have hiterate := iterate_driftDay h moodRate energyRate days.toNat_lt
  rw [UInt64.ofNat_toNat] at hiterate
  exact ⟨hiterate.symm, settled_drift h days moodRate energyRate⟩

/-- Out of spirits and out of breath. -/
def spent : StatLedger := { resting with mood := -7, energy := 60 }

/-- More days than a signed word counts bring mood to rest; energy has no rate to recover at. -/
theorem drift_eq_iterate_spent :
    spent.InRange ∧ spent.drift 0xFFFFFFFFFFFFFFFF 2 (-5) = { spent with mood := 0 } ∧
    spent.drift 0xFFFFFFFFFFFFFFFF 2 (-5) =
      (fun m : StatLedger => m.driftDay 2 (-5))^[0xFFFFFFFFFFFFFFFF] spent ∧
    Settled (2 * 0xFFFFFFFFFFFFFFFF) 0 spent (spent.drift 0xFFFFFFFFFFFFFFFF 2 (-5)) := by
  have hrange : spent.InRange := by
    intro k
    cases k <;> decide
  have hdays := drift_eq_iterate hrange 0xFFFFFFFFFFFFFFFF 2 (-5)
  exact ⟨hrange, by decide, hdays⟩

end StatLedger

end LifeStory
