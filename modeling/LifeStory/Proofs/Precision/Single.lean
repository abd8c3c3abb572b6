import LifeStory.Precision

/-!
# Singles in a range

A value that is held between two bounds lies between them, unless it is no number: of two values
that are, the one that is not less is greater or equal. A value between finite bounds is finite, so
its sum with another is no number only where the other is none; a sum past all singles is infinite,
and held like any other.

    (unpack .binary32 (pack .binary32 u)).isNaN = u.isNaN                (isNaN_unpack_pack)
    x.isNaN = false → y.isNaN = false → ¬x < y → y ≤ x                   (le_of_not_lt)
    x.isFinite = true → y.isNaN = false → (x + y).isNaN = false          (isNaN_add)
    x.isNaN = false → Within least greatest (hold least greatest x)      (Bounds.within_hold)
-/

namespace LifeStory.Precision

open Float.Model (Format UnpackedFloat)

/-! ## Packing -/

theorem isNaN_unpack {format : Format} (bits : BitVec format.numBits) :
    (UnpackedFloat.unpack format bits).isNaN = true ↔
      UnpackedFloat.unpackExponent bits = -1#_ ∧ UnpackedFloat.unpackMantissa bits ≠ 0#_ := by
  unfold UnpackedFloat.unpack
  dsimp only
  by_cases hexponent : UnpackedFloat.unpackExponent bits = -1#_
  · rw [if_pos hexponent]
    by_cases hmantissa : UnpackedFloat.unpackMantissa bits = 0#_
    · rw [if_pos hmantissa]
      exact ⟨fun h => absurd h Bool.false_ne_true, fun h => absurd hmantissa h.2⟩
    · rw [if_neg hmantissa]
      exact ⟨fun _ => ⟨hexponent, hmantissa⟩, fun _ => rfl⟩
  · rw [if_neg hexponent]
    refine ⟨fun h => absurd h ?_, fun h => absurd h.1 hexponent⟩
    by_cases hzero : UnpackedFloat.unpackExponent bits = 0#_
    · rw [if_pos hzero]
      by_cases hmantissa : UnpackedFloat.unpackMantissa bits = 0#_
      · rw [dif_pos hmantissa]
        exact Bool.false_ne_true
      · rw [dif_neg hmantissa]
        exact Bool.false_ne_true
    · rw [if_neg hzero]
      exact Bool.false_ne_true

/-- What is packed may become infinite or zero, but no number becomes what is none. -/
theorem isNaN_unpack_pack (u : UnpackedFloat) :
    (UnpackedFloat.unpack .binary32 (UnpackedFloat.pack .binary32 u)).isNaN = u.isNaN := by
  have hinfinite : ∀ s, (UnpackedFloat.unpack .binary32
      (UnpackedFloat.packedInfinity .binary32 s)).isNaN = false := by
    intro s
    rw [Bool.eq_false_iff, Ne, isNaN_unpack, UnpackedFloat.packedInfinity,
      UnpackedFloat.unpackMantissa_packComponents]
    exact fun h => h.2 rfl
  have hbelow : ∀ (s : UnpackedFloat.Sign) (exponent : BitVec 8) (m : BitVec 23),
      exponent ≠ -1#8 → (UnpackedFloat.unpack .binary32
        (UnpackedFloat.packComponents .binary32 s exponent m)).isNaN = false := by
    intro s exponent m hne
    rw [Bool.eq_false_iff, Ne, isNaN_unpack, UnpackedFloat.unpackExponent_packComponents]
    exact fun h => hne h.1
  fun_cases UnpackedFloat.pack with
  | case1 => decide
  | case2 s => exact hinfinite s
  | case3 s => exact hbelow s _ _ (by decide)
  | case4 s m e hm exponent h => exact hinfinite s
  | case5 s m e hm bits exponent h₁ h₂ =>
    -- an exponent that is not too great is not that of infinities
    refine hbelow s _ _ ?_
    rw [Ne, ← BitVec.toNat_inj, BitVec.toNat_ofNat]
    change ¬256 ≤ exponent + 1 at h₁
    show ¬exponent % 256 = 255
    omega
  | case6 s m e hm bits exponent h₁ h₂ => exact hbelow s _ _ (by decide)

/-! ## Decompositions -/

theorem compare_eq_none {u v : UnpackedFloat} (h : u.compare v = none) :
    u.isNaN = true ∨ v.isNaN = true := by
  rcases u with (_ | _) | _ | (_ | _) | ⟨_ | _, m, e, hm⟩
  all_goals
    rcases v with (_ | _) | _ | (_ | _) | ⟨_ | _, m', e', hm'⟩
    all_goals first | exact .inl rfl | exact .inr rfl | exact nomatch h

theorem compare_swap (u v : UnpackedFloat) : v.compare u = (u.compare v).map Ordering.swap := by
  have hmagnitude : ∀ (e e' : Int) (m m' : Nat),
      (compare e' e).then (compare m' m) = ((compare e e').then (compare m m')).swap := by
    intro e e' m m'
    rw [Ordering.swap_then, Int.compare_swap, Nat.compare_swap]
  rcases u with (_ | _) | _ | (_ | _) | ⟨_ | _, m, e, hm⟩
  all_goals
    rcases v with (_ | _) | _ | (_ | _) | ⟨_ | _, m', e', hm'⟩
    all_goals first
      | rfl
      | exact congrArg some (hmagnitude ..)
      | exact congrArg (fun o => some o.swap) (hmagnitude ..)

/-- Only an infinity lies past what is finite. -/
theorem isFinite_of_between {u v w : UnpackedFloat} (hu : u.isFinite = true)
    (hw : w.isFinite = true) (least : u.le v = true) (greatest : v.le w = true) :
    v.isFinite = true := by
  rcases v with (_ | _) | _ | s | ⟨s, m, e, hm⟩
  · rcases u with s | _ | s | ⟨_ | _, m, e, hm⟩
    all_goals first
      | exact absurd hu Bool.false_ne_true
      | exact absurd least Bool.false_ne_true
  · rcases w with s | _ | s | ⟨_ | _, m, e, hm⟩
    all_goals first
      | exact absurd hw Bool.false_ne_true
      | exact absurd greatest Bool.false_ne_true
  · exact nomatch greatest
  · rfl
  · rfl

/-- What is rounded is zero where no digit is left. -/
theorem isNaN_round (format : Format) (s : UnpackedFloat.Sign) (m : Nat) (e : Int) :
    (UnpackedFloat.round format s m e).isNaN = false := by
  have hrounded : ∀ (m : Nat) (e : Int), UnpackedFloat.isNaN
      (if h : m = 0 then .zero s else .finite s m e (Nat.pos_of_ne_zero h)) = false := by
    intro m e
    by_cases hm : m = 0
    · rw [dif_pos hm]
      rfl
    · rw [dif_neg hm]
      rfl
  exact hrounded _ _

theorem isNaN_normalize (format : Format) (m e : Int) (s : UnpackedFloat.Sign) :
    (UnpackedFloat.normalize format m e s).isNaN = false := by
  unfold UnpackedFloat.normalize
  split
  · exact isNaN_round ..
  · rfl
  · exact isNaN_round ..

/-- Infinities of two signs are not met, where one part is finite. -/
theorem isNaN_add_of_isFinite {format : Format} {u v : UnpackedFloat} (hu : u.isFinite = true)
    (hv : v.isNaN = false) : (UnpackedFloat.add format u v).isNaN = false := by
  rcases u with s | _ | s | ⟨s, m, e, hm⟩
  · exact nomatch hu
  · exact nomatch hu
  · rcases v with s' | _ | s' | ⟨s', m', e', hm'⟩
    · rfl
    · exact nomatch hv
    · unfold UnpackedFloat.add
      dsimp only
      split <;> rfl
    · rfl
  · rcases v with s' | _ | s' | ⟨s', m', e', hm'⟩
    · rfl
    · exact nomatch hv
    · rfl
    · exact isNaN_normalize ..

/-! ## Singles -/

section Order

variable {x y z : Float32}

theorem le_iff : x ≤ y ↔ (unpackSingle x).le (unpackSingle y) = true := decide_eq_true_iff

theorem lt_iff : x < y ↔ (unpackSingle x).lt (unpackSingle y) = true := decide_eq_true_iff

theorem le_of_not_lt (hx : x.isNaN = false) (hy : y.isNaN = false) (h : ¬x < y) : y ≤ x := by
  rw [lt_iff] at h
  rw [le_iff]
  unfold UnpackedFloat.lt at h
  unfold UnpackedFloat.le
  rw [compare_swap]
  cases hc : (unpackSingle x).compare (unpackSingle y) with
  | none =>
    obtain hnan | hnan := compare_eq_none hc
    · exact absurd (hnan.symm.trans hx) (by decide)
    · exact absurd (hnan.symm.trans hy) (by decide)
  | some o =>
    rw [hc] at h
    cases o with
    | lt => exact absurd rfl h
    | eq => rfl
    | gt => rfl

theorem lt_irrefl : ¬x < x := by
  rw [lt_iff]
  intro h
  have hc : (unpackSingle x).compare (unpackSingle x) = some .lt := eq_of_beq h
  have hswap := compare_swap (unpackSingle x) (unpackSingle x)
  rw [hc] at hswap
  exact nomatch hswap

theorem isNaN_of_isFinite (h : x.isFinite = true) : x.isNaN = false := by
  change (unpackSingle x).isFinite = true at h
  show (unpackSingle x).isNaN = false
  generalize unpackSingle x = u at h
  cases u with
  | notANumber => exact nomatch h
  | infinity => rfl
  | zero => rfl
  | finite => rfl

theorem isNaN_add (hx : x.isFinite = true) (hy : y.isNaN = false) : (x + y).isNaN = false :=
  (isNaN_unpack_pack _).trans (isNaN_add_of_isFinite (v := unpackSingle y) hx hy)

end Order

/-! ## Ranges -/

/-- Two finite values, the first of which is not greater. -/
structure Bounds (least greatest : Float32) : Prop where
  finite_least : least.isFinite = true
  finite_greatest : greatest.isFinite = true
  least_le_greatest : least ≤ greatest

/-- The value is a number between two others. -/
structure Within (least greatest x : Float32) : Prop where
  isNaN : x.isNaN = false
  least_le : least ≤ x
  le_greatest : x ≤ greatest

variable {least greatest x : Float32}

theorem Within.isFinite (h : Within least greatest x) (bounds : Bounds least greatest) :
    x.isFinite = true :=
  isFinite_of_between bounds.finite_least bounds.finite_greatest (le_iff.1 h.least_le)
    (le_iff.1 h.le_greatest)

theorem Bounds.within_hold (bounds : Bounds least greatest) (h : x.isNaN = false) :
    Within least greatest (hold least greatest x) := by
  have hleast := isNaN_of_isFinite bounds.finite_least
  have hgreatest := isNaN_of_isFinite bounds.finite_greatest
  unfold hold
  by_cases hless : x < least
  · rw [if_pos hless]
    exact ⟨hleast, le_of_not_lt hleast hleast lt_irrefl, bounds.least_le_greatest⟩
  · rw [if_neg hless]
    by_cases hgreater : greatest < x
    · rw [if_pos hgreater]
      exact ⟨hgreatest, bounds.least_le_greatest, le_of_not_lt hgreatest hgreatest lt_irrefl⟩
    · rw [if_neg hgreater]
      exact ⟨h, le_of_not_lt h hleast hless, le_of_not_lt hgreatest h hgreater⟩

end LifeStory.Precision
