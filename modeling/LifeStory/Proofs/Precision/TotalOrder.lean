import Mathlib.Data.Prod.Lex
import LifeStory.Proofs.Precision.Single

/-!
# The total order of singles

Singles are ordered as their numbers are, the two zeros as one, and what is no number stands above
every number (`totalCompare`). The order is that of a rank, so it is total and transitive.

    x.isNaN = false → y.isNaN = false → (x ≤ y ↔ rank x ≤ rank y)                        (le_iff_rank)
    x ≤ y → y ≤ z → x ≤ z                                                               (le_trans)
    totalCompare x y = compare (rank x) (rank y)                             (totalCompare_eq_compare)
-/

namespace LifeStory.Precision

open Float.Model (UnpackedFloat)

/-- How two singles stand to each other, where what is no number is equal to itself and greater than
every number. -/
def totalCompare (x y : Float32) : Ordering :=
  if x.isNaN then (if y.isNaN then .eq else .gt)
  else if y.isNaN then .lt
  else if x < y then .lt
  else if y < x then .gt
  else .eq

/-- Among infinities, negative numbers, zeros and positive numbers, the place of a decomposition;
among those of one sign its exponent and then its mantissa decide. -/
def rankOf : UnpackedFloat → ℤ ×ₗ ℤ ×ₗ ℤ
  | .infinity .negative => toLex (-2, toLex (0, 0))
  | .finite .negative mantissa exponent _ => toLex (-1, toLex (-exponent, -(mantissa : ℤ)))
  | .zero _ => toLex (0, toLex (0, 0))
  | .finite .positive mantissa exponent _ => toLex (1, toLex (exponent, (mantissa : ℤ)))
  | .infinity .positive => toLex (2, toLex (0, 0))
  | .notANumber => toLex (3, toLex (0, 0))

/-- The place of a single. -/
def rank (x : Float32) : ℤ ×ₗ ℤ ×ₗ ℤ := rankOf (unpackSingle x)

/-- Exponents are compared first, and mantissas where those are equal. -/
theorem isLE_then_compare (e e' : ℤ) (m m' : Nat) :
    ((compare e e').then (compare m m')).isLE = true ↔ e < e' ∨ e = e' ∧ m ≤ m' := by
  rw [Ordering.isLE_then_iff_or]
  simp [Int.compare_eq_lt, Nat.isLE_compare]

theorem le_iff_rankOf {u v : UnpackedFloat} (hu : u.isNaN = false) (hv : v.isNaN = false) :
    u.le v = true ↔ rankOf u ≤ rankOf v := by
  unfold UnpackedFloat.le
  rcases u with (_ | _) | _ | _ | ⟨_ | _, m, e, hm⟩
  case notANumber => exact nomatch hu
  all_goals
    rcases v with (_ | _) | _ | _ | ⟨_ | _, m', e', hm'⟩
    case notANumber => exact nomatch hv
  case finite.negative.finite.negative =>
    show ((compare e e').then (compare m m')).swap.isLE = true ↔ _
    rw [Ordering.swap_then, Int.compare_swap, Nat.compare_swap, isLE_then_compare]
    dsimp only [rankOf]
    simp [Prod.Lex.toLex_le_toLex, eq_comm]
  case finite.positive.finite.positive =>
    show ((compare e e').then (compare m m')).isLE = true ↔ _
    rw [isLE_then_compare]
    dsimp only [rankOf]
    simp [Prod.Lex.toLex_le_toLex]
  all_goals
    dsimp only [UnpackedFloat.compare, rankOf]
    simp [Prod.Lex.toLex_le_toLex]
  all_goals decide

/-- Of two numbers, the one is less that the other is not less or equal to. -/
theorem lt_iff_not_le {u v : UnpackedFloat} (hu : u.isNaN = false) (hv : v.isNaN = false) :
    u.lt v = true ↔ ¬v.le u = true := by
  unfold UnpackedFloat.lt UnpackedFloat.le
  rw [compare_swap u v]
  cases hc : u.compare v with
  | none =>
    obtain h | h := compare_eq_none hc
    · exact nomatch hu.symm.trans h
    · exact nomatch hv.symm.trans h
  | some o => cases o <;> decide

theorem eq_notANumber {u : UnpackedFloat} (h : u.isNaN = true) : u = .notANumber := by
  cases u with
  | notANumber => rfl
  | infinity => exact nomatch h
  | zero => exact nomatch h
  | finite => exact nomatch h

/-- What is no number stands above every number. -/
theorem rankOf_lt_of_isNaN {u v : UnpackedFloat} (hu : u.isNaN = false) (hv : v.isNaN = true) :
    rankOf u < rankOf v := by
  rw [eq_notANumber hv]
  rcases u with (_ | _) | _ | _ | ⟨_ | _, m, e, hm⟩
  case notANumber => exact nomatch hu
  all_goals
    dsimp only [rankOf]
    simp [Prod.Lex.toLex_lt_toLex]

theorem rankOf_of_isNaN {u v : UnpackedFloat} (hu : u.isNaN = true) (hv : v.isNaN = true) :
    rankOf u = rankOf v := by
  rw [eq_notANumber hu, eq_notANumber hv]

/-- What is no number is not compared. -/
theorem compare_of_isNaN {u v : UnpackedFloat} (h : u.isNaN = true ∨ v.isNaN = true) :
    u.compare v = none := by
  obtain hu | hv := h
  · rw [eq_notANumber hu]
    rfl
  · rw [eq_notANumber hv]
    rcases u with (_ | _) | _ | (_ | _) | ⟨_ | _, m, e, hm⟩ <;> rfl

/-! ## Singles -/

section

variable {x y : Float32}

theorem le_iff_rank (hx : x.isNaN = false) (hy : y.isNaN = false) : x ≤ y ↔ rank x ≤ rank y :=
  le_iff.trans (le_iff_rankOf hx hy)

theorem lt_iff_rank (hx : x.isNaN = false) (hy : y.isNaN = false) : x < y ↔ rank x < rank y := by
  have hlt : x < y ↔ ¬y ≤ x := by
    rw [lt_iff, le_iff]
    exact lt_iff_not_le hx hy
  rw [hlt, le_iff_rank hy hx, not_le]

/-- What is compared is a number, on both sides. -/
theorem isNaN_of_le (h : x ≤ y) : x.isNaN = false ∧ y.isNaN = false := by
  have hcompare : (unpackSingle x).compare (unpackSingle y) ≠ none := by
    intro hnone
    rw [le_iff, UnpackedFloat.le, hnone] at h
    cases h
  constructor
  · exact Bool.eq_false_iff.2 fun hx => hcompare (compare_of_isNaN (.inl hx))
  · exact Bool.eq_false_iff.2 fun hy => hcompare (compare_of_isNaN (.inr hy))

theorem le_trans {z : Float32} (hxy : x ≤ y) (hyz : y ≤ z) : x ≤ z := by
  obtain ⟨hx, hy⟩ := isNaN_of_le hxy
  obtain ⟨-, hz⟩ := isNaN_of_le hyz
  rw [le_iff_rank hx hy] at hxy
  rw [le_iff_rank hy hz] at hyz
  rw [le_iff_rank hx hz]
  exact hxy.trans hyz

theorem totalCompare_eq_compare (x y : Float32) : totalCompare x y = compare (rank x) (rank y) := by
  unfold totalCompare
  split_ifs with hx hy hy hless hgreater
  · exact (compare_eq_iff_eq.2 (rankOf_of_isNaN hx hy)).symm
  · rw [Bool.not_eq_true] at hy
    exact (compare_gt_iff_gt.2 (rankOf_lt_of_isNaN hy hx)).symm
  · rw [Bool.not_eq_true] at hx
    exact (compare_lt_iff_lt.2 (rankOf_lt_of_isNaN hx hy)).symm
  all_goals rw [Bool.not_eq_true] at hx hy
  · exact (compare_lt_iff_lt.2 ((lt_iff_rank hx hy).1 hless)).symm
  · exact (compare_gt_iff_gt.2 ((lt_iff_rank hy hx).1 hgreater)).symm
  · rw [lt_iff_rank hx hy, not_lt] at hless
    rw [lt_iff_rank hy hx, not_lt] at hgreater
    exact (compare_eq_iff_eq.2 (le_antisymm hgreater hless)).symm

end

end LifeStory.Precision
