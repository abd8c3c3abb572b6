import Mathlib.Algebra.Order.Round
import LifeStory.Proofs.Precision.Fraction

/-!
# Nearest integers

A double goes to the integer nearest to the fraction that it is, and of two that are equally near to
the one farther from zero; the integer is held inside the word.

    |q - nearest q| ≤ |q - z| for every integer z                            (abs_sub_nearest_le)
    |q - z| ≤ |q - nearest q| → |z| ≤ |nearest q|                            (abs_le_abs_nearest)
    (roundHalfUp m e : ℤ) = round (m * 2 ^ e : ℚ)                             (roundHalfUp_eq_round)
    nearestInt32 x = nearestWord x                                       (nearestInt32_eq_nearestWord)
-/

namespace LifeStory.Precision

open Float.Model (UnpackedFloat)

/-- The integer nearest to a fraction; ties go away from zero. -/
def nearest (q : ℚ) : ℤ := if 0 ≤ q then round q else -round (-q)

/-- The word nearest to a double. What is not finite goes to the end of the words on its side, and
what is no number to zero. -/
def nearestWord (x : Float) : Int32 :=
  if x.isFinite then Word.clamp (nearest (fraction x))
  else if 0 < x then Word.ofInt (Word.greatest Int32)
  else if x < 0 then Word.ofInt (Word.least Int32)
  else 0

theorem nearest_neg (q : ℚ) : nearest (-q) = -nearest q := by
  unfold nearest
  rcases lt_trichotomy q 0 with h | rfl | h
  · rw [if_pos (by linarith), if_neg (by linarith), neg_neg]
  · simp
  · rw [if_neg (by linarith), if_pos h.le, neg_neg]

/-- Fractions and integers on the two sides of zero are mirrored. -/
theorem abs_neg_sub_neg (q : ℚ) (z : ℤ) : |-q - ((-z : ℤ) : ℚ)| = |q - z| := by
  rw [Int.cast_neg, neg_sub_neg, abs_sub_comm]

/-- No integer is nearer. -/
theorem abs_sub_nearest_le (q : ℚ) (z : ℤ) : |q - nearest q| ≤ |q - z| := by
  rcases le_or_gt 0 q with hq | hq
  · rw [nearest, if_pos hq]
    exact round_le q z
  · have hle := round_le (-q) (-z)
    rwa [nearest, if_neg hq.not_ge, ← abs_neg_sub_neg, ← abs_neg_sub_neg q z, neg_neg]

/-- None that is as near is farther from zero. -/
theorem abs_le_abs_nearest {q : ℚ} {z : ℤ} (h : |q - z| ≤ |q - nearest q|) :
    |z| ≤ |nearest q| := by
  have hside : ∀ {q : ℚ} {z : ℤ}, 0 ≤ q → |q - z| ≤ |q - nearest q| → |z| ≤ |nearest q| := by
    intro q z hq h
    rw [nearest, if_pos hq] at h ⊢
    obtain ⟨hlow, hhigh⟩ := abs_le.1 (h.trans (abs_sub_round q))
    have hle : z ≤ round q := by
      rw [round_eq, Int.le_floor]
      linarith
    have hnonneg : 0 ≤ z := by
      have hless : ((-1 : ℤ) : ℚ) < z := by
        push_cast
        linarith
      exact Int.lt_iff_add_one_le.1 (Int.cast_lt.1 hless)
    rwa [abs_of_nonneg hnonneg, abs_of_nonneg (hnonneg.trans hle)]
  rcases le_or_gt 0 q with hq | hq
  · exact hside hq h
  · rw [← abs_neg_sub_neg, ← abs_neg_sub_neg q (nearest q), ← nearest_neg] at h
    have hle := hside (neg_nonneg.2 hq.le) h
    rwa [nearest_neg, abs_neg, abs_neg] at hle

theorem roundHalfUp_eq_round (mantissa : Nat) (exponent : Int) :
    (roundHalfUp mantissa exponent : ℤ) = round (mantissa * 2 ^ exponent : ℚ) := by
  unfold roundHalfUp
  cases exponent with
  | ofNat k =>
    have hwhole : (mantissa * 2 ^ (Int.ofNat k) : ℚ) = (mantissa * 2 ^ k : Nat) := by
      push_cast
      rfl
    rw [hwhole, round_natCast]
    rfl
  | negSucc k =>
    -- half a unit, brought to the denominator of the fraction
    have hhalf : (mantissa * 2 ^ (Int.negSucc k) + 1 / 2 : ℚ) =
        (mantissa + 2 ^ k : Nat) / (2 ^ (k + 1) : Nat) := by
      rw [zpow_negSucc]
      push_cast
      field_simp
      ring
    rw [round_eq, hhalf, Rat.floor_natCast_div_natCast]
    rfl

theorem nearestInt32_eq_nearestWord (x : Float) : nearestInt32 x = nearestWord x := by
  have hfinite : x.isFinite = (unpack x).isFinite := rfl
  have hpos : 0 < x ↔ (UnpackedFloat.zero .positive).lt (unpack x) = true := decide_eq_true_iff
  have hneg : x < 0 ↔ (unpack x).lt (.zero .positive) = true := decide_eq_true_iff
  unfold nearestInt32 nearestWord fraction
  rw [hfinite]
  simp only [hpos, hneg]
  rcases unpack x with (_ | _) | _ | _ | ⟨_ | _, m, e, hm⟩
  case infinity.negative => rfl
  case infinity.positive => rfl
  case notANumber => rfl
  case zero =>
    have hzero : nearest 0 = 0 := by
      unfold nearest
      rw [if_pos le_rfl, round_zero]
    show (0 : Int32) = Word.clamp (nearest 0)
    rw [hzero]
    rfl
  case finite.negative =>
    show Word.clamp (-(roundHalfUp m e : ℤ)) = Word.clamp (nearest (-(m * 2 ^ e)))
    rw [nearest_neg, nearest, if_pos (magnitude_pos hm e).le, roundHalfUp_eq_round]
  case finite.positive =>
    show Word.clamp (roundHalfUp m e : ℤ) = Word.clamp (nearest (m * 2 ^ e))
    rw [nearest, if_pos (magnitude_pos hm e).le, roundHalfUp_eq_round]

end LifeStory.Precision
