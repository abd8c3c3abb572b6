import Mathlib.Data.Rat.Floor
import Mathlib.Tactic.Linarith
import LifeStory.Proofs.Precision.Single

/-!
# Doubles as fractions

A finite double is a fraction: a whole number times a power of two. It stands on the same side of
zero as the fraction.

    x.isFinite = true → (0 < x ↔ 0 < fraction x)                                  (zero_lt_iff)
    x.isFinite = true → (x < 0 ↔ fraction x < 0)                                  (lt_zero_iff)
    x.isFinite = true → (x ≤ 0 ↔ fraction x ≤ 0)                                  (le_zero_iff)
-/

namespace LifeStory.Precision

open Float.Model (UnpackedFloat)

/-- The fraction that a decomposition is. What is not finite is none; it counts as zero here. -/
def fractionOf : UnpackedFloat → ℚ
  | .finite .positive mantissa exponent _ => mantissa * 2 ^ exponent
  | .finite .negative mantissa exponent _ => -(mantissa * 2 ^ exponent)
  | _ => 0

/-- The fraction that a finite double is. -/
def fraction (x : Float) : ℚ := fractionOf (unpack x)

/-! ## Sides of zero -/

theorem magnitude_pos {mantissa : Nat} (h : 0 < mantissa) (exponent : Int) :
    (0 : ℚ) < mantissa * 2 ^ exponent :=
  mul_pos (Nat.cast_pos.2 h) (zpow_pos two_pos exponent)

/-- How a finite decomposition compares with zero, and its fraction with it. -/
theorem compare_zero {u : UnpackedFloat} (h : u.isFinite = true) :
    (u.compare (.zero .positive) = some .lt ∧ fractionOf u < 0) ∨
    (u.compare (.zero .positive) = some .eq ∧ fractionOf u = 0) ∨
    (u.compare (.zero .positive) = some .gt ∧ 0 < fractionOf u) := by
  rcases u with s | _ | s | ⟨_ | _, m, e, hm⟩
  · exact nomatch h
  · exact nomatch h
  · exact .inr (.inl ⟨rfl, rfl⟩)
  · exact .inl ⟨rfl, neg_neg_of_pos (magnitude_pos hm e)⟩
  · exact .inr (.inr ⟨rfl, magnitude_pos hm e⟩)

section

variable {x : Float} (h : x.isFinite = true)

include h

theorem lt_zero_iff : x < 0 ↔ fraction x < 0 := by
  have hlt : x < 0 ↔ (unpack x).lt (.zero .positive) = true := decide_eq_true_iff
  rw [hlt]
  unfold UnpackedFloat.lt fraction
  obtain ⟨hc, hs⟩ | ⟨hc, hs⟩ | ⟨hc, hs⟩ := compare_zero (u := unpack x) h
  · exact iff_of_true (by rw [hc]; rfl) hs
  · exact iff_of_false (by rw [hc]; decide) hs.not_lt
  · exact iff_of_false (by rw [hc]; decide) hs.not_gt

theorem le_zero_iff : x ≤ 0 ↔ fraction x ≤ 0 := by
  have hle : x ≤ 0 ↔ (unpack x).le (.zero .positive) = true := decide_eq_true_iff
  rw [hle]
  unfold UnpackedFloat.le fraction
  obtain ⟨hc, hs⟩ | ⟨hc, hs⟩ | ⟨hc, hs⟩ := compare_zero (u := unpack x) h
  · exact iff_of_true (by rw [hc]; rfl) hs.le
  · exact iff_of_true (by rw [hc]; rfl) hs.le
  · exact iff_of_false (by rw [hc]; decide) hs.not_ge

theorem zero_lt_iff : 0 < x ↔ 0 < fraction x := by
  have hlt : 0 < x ↔ (UnpackedFloat.zero .positive).lt (unpack x) = true := decide_eq_true_iff
  rw [hlt]
  unfold UnpackedFloat.lt fraction
  rw [compare_swap (unpack x)]
  obtain ⟨hc, hs⟩ | ⟨hc, hs⟩ | ⟨hc, hs⟩ := compare_zero (u := unpack x) h
  · exact iff_of_false (by rw [hc]; decide) hs.not_gt
  · exact iff_of_false (by rw [hc]; decide) hs.not_gt
  · exact iff_of_true (by rw [hc]; rfl) hs

end

end LifeStory.Precision
