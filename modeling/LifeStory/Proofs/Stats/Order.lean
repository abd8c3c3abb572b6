import Mathlib.Tactic.SplitIfs
import LifeStory.Player
import LifeStory.Proofs.Stats.Drift

/-!
# The order of ledgers

A ledger is at most another if each of its attributes is. Changes keep the order: sums that stop at
the greatest word, and values that are held in their ranges, may come together but never pass each
other. Nor does scaling by a difficulty turn the order of two amounts around, and the harder of two
difficulties leaves the lesser amount. In all of this the saturating steps inside the scaling do not
show: it is the exact one, held from below.

    (d.scale a).toInt = max (-0x80000000) (d.scaled a.toInt)                 (toInt_scale)
    d.Harder e → a ≤ b → d.scale a ≤ e.scale b                               (Harder.scale_le)
    harsh.Harder balanced ∧ balanced.Harder relaxed                          (harder_balanced,
                                                                             harder_relaxed)
    l ≤ m → a ≤ b → l.applyDelta k a ≤ m.applyDelta k b                      (applyDelta_le)
-/

namespace LifeStory

theorem Word.satAdd_le_satAdd {a b c d : Int32} (hab : a ≤ b) (hcd : c ≤ d) :
    Word.satAdd a c ≤ Word.satAdd b d := by
  rw [Int32.le_iff_toInt_le] at hab hcd ⊢
  rw [toInt_satAdd, toInt_satAdd]
  omega

theorem StatKind.clamp_le_clamp (k : StatKind) {v w : Int32} (h : v ≤ w) :
    k.clamp v ≤ k.clamp w := by
  rw [Int32.le_iff_toInt_le] at h ⊢
  rw [toInt_clamp, toInt_clamp]
  omega

/-! ## Scaling -/

namespace Difficulty

/-- What a loss of some size comes to. -/
def weighed : Difficulty → Int → Int
  | relaxed, n => n / 2
  | balanced, n => n
  | harsh, n => n + (n + 1) / 2

/-- A scaled amount, in the integers. -/
def scaled (d : Difficulty) (v : Int) : Int := if 0 ≤ v then v else -d.weighed (-v)

/-- Halving goes toward zero. -/
theorem toInt_half_of_nonneg {a : Int32} (h : 0 ≤ a.toInt) : (a / 2).toInt = a.toInt / 2 := by
  rw [Int32.toInt_div_of_ne_right a 2 (by decide)]
  exact Int.tdiv_eq_ediv_of_nonneg h

theorem toInt_half_of_nonpos {a : Int32} (h : a.toInt ≤ 0) : (a / 2).toInt = -(-a.toInt / 2) := by
  have hback : (-a.toInt).tdiv 2 = -a.toInt / 2 := Int.tdiv_eq_ediv_of_nonneg (by omega)
  rw [Int32.toInt_div_of_ne_right a 2 (by decide), ← hback, Int.neg_tdiv, Int.neg_neg]
  rfl

/-- Near the least word the steps of a harsh scaling saturate, but there the difference does too. -/
theorem toInt_scale (d : Difficulty) (a : Int32) :
    (d.scale a).toInt = max (-0x80000000) (d.scaled a.toInt) := by
  have hleast := a.le_toInt
  have hgreatest := a.toInt_lt
  unfold scale scaled
  by_cases hgain : 0 ≤ a
  · have hgainInt : 0 ≤ a.toInt := Int32.le_iff_toInt_le.1 hgain
    rw [if_pos hgain, if_pos hgainInt]
    omega
  · have hgainInt : ¬0 ≤ a.toInt := fun h => hgain (Int32.le_iff_toInt_le.2 h)
    rw [if_neg hgain, if_neg hgainInt]
    cases d with
    | relaxed =>
      show (a / 2).toInt = max _ (-(-a.toInt / 2))
      rw [toInt_half_of_nonpos (by omega)]
      omega
    | balanced =>
      show a.toInt = max _ (-(-a.toInt))
      omega
    | harsh =>
      have hloss : (Word.satAdd (Word.satNeg a) 1).toInt = min (-a.toInt + 1) 0x7FFFFFFF := by
        rw [Word.toInt_satAdd, Word.toInt_satNeg, show (1 : Int32).toInt = 1 from rfl]
        omega
      show (Word.satSub a (Word.satAdd (Word.satNeg a) 1 / 2)).toInt =
        max _ (-(-a.toInt + (-a.toInt + 1) / 2))
      rw [Word.toInt_satSub, toInt_half_of_nonneg (by omega), hloss]
      omega

theorem weighed_nonneg (d : Difficulty) {n : Int} (h : 0 ≤ n) : 0 ≤ d.weighed n := by
  unfold weighed
  cases d <;> dsimp only <;> omega

/-- With `d`, losses come to at least as much as with `e`. -/
def Harder (d e : Difficulty) : Prop :=
  ∀ {m n : Int}, 0 ≤ m → m ≤ n → e.weighed m ≤ d.weighed n

theorem Harder.refl (d : Difficulty) : d.Harder d := by
  intro m n _ h
  unfold weighed
  cases d <;> dsimp only <;> omega

theorem harder_balanced : harsh.Harder balanced := by
  intro m n hm h
  show m ≤ n + (n + 1) / 2
  omega

theorem harder_relaxed : balanced.Harder relaxed := by
  intro m n hm h
  show m / 2 ≤ n
  omega

theorem Harder.scale_le {d e : Difficulty} (h : d.Harder e) {a b : Int32} (hab : a ≤ b) :
    d.scale a ≤ e.scale b := by
  rw [Int32.le_iff_toInt_le] at hab ⊢
  rw [toInt_scale, toInt_scale]
  have hscaled : d.scaled a.toInt ≤ e.scaled b.toInt := by
    unfold scaled
    split_ifs with hgain hgain'
    · exact hab
    · omega
    · have hnonneg := d.weighed_nonneg (n := -a.toInt) (by omega)
      omega
    · have hloss := h (m := -b.toInt) (n := -a.toInt) (by omega) (by omega)
      omega
  omega

end Difficulty

/-! ## Ledgers -/

namespace StatLedger

/-- Attribute by attribute. -/
instance : LE StatLedger := ⟨fun l m => ∀ k, l.read k ≤ m.read k⟩

theorem le_refl (l : StatLedger) : l ≤ l := fun _ => Int32.le_refl _

theorem applyDelta_le {l m : StatLedger} (h : l ≤ m) (k : StatKind) {a b : Int32} (hab : a ≤ b) :
    l.applyDelta k a ≤ m.applyDelta k b := by
  intro j
  rw [read_applyDelta, read_applyDelta]
  split_ifs with hj
  · exact k.clamp_le_clamp (Word.satAdd_le_satAdd (h k) hab)
  · exact h j

end StatLedger

end LifeStory
