import LifeStory.Config.Basic
import LifeStory.Proofs.Calendar.Clock

/-!
# What a clock shows

A playable configuration has days and years that are not empty, and a year that fits a word. The
clock that it sets then divides by nothing empty, and its day, hour and age are those of the
numbers. That the hour can be read is another matter (`Clock.HourFits`).

    config.Valid → config.clock.Proper                                    (Valid.proper_clock)
    c.Proper → c.Reads                                                    (Proper.reads)
    (c.ticksPerDay - 1) * 24 < 2 ^ 64 → c.HourFits                        (hourFits_of_short)
-/

namespace LifeStory

namespace Clock

/-- A clock whose days and years are not empty and whose years fit a word. -/
structure Proper (c : Clock) : Prop where
  ticksPerDay_pos : 0 < c.ticksPerDay.toNat
  daysPerYear_pos : 0 < c.daysPerYear.toNat
  year_fits : c.ticksPerDay.toNat * c.daysPerYear.toNat < 0x10000000000000000

/-- What is read off the clock, as numbers. -/
structure Reads (c : Clock) : Prop extends c.Proper where
  day : c.day.toNat = c.tick.toNat / c.ticksPerDay.toNat
  hour : c.hour.toNat =
    24 * (c.tick.toNat % c.ticksPerDay.toNat) / c.ticksPerDay.toNat
  hour_lt : c.hour.toNat < 24
  year : c.ticksPerYear.toNat = c.ticksPerDay.toNat * c.daysPerYear.toNat
  age : c.age.toNat = min (c.startingAge.toNat +
    c.tick.toNat / (c.ticksPerDay.toNat * c.daysPerYear.toNat)) 0xFFFFFFFF

variable {c : Clock}

/-! ## Days and years -/

theorem Proper.toNat_ticksPerYear (h : c.Proper) :
    c.ticksPerYear.toNat = c.ticksPerDay.toNat * c.daysPerYear.toNat := by
  show (c.ticksPerDay * c.daysPerYear).toNat = _
  rw [UInt64.toNat_mul]
  exact Nat.mod_eq_of_lt h.year_fits

/-- The years stop at the greatest 32-bit word, and so does the age: it shows once. -/
theorem Proper.toNat_age (h : c.Proper) :
    c.age.toNat = min (c.startingAge.toNat +
      c.tick.toNat / (c.ticksPerDay.toNat * c.daysPerYear.toNat)) 0xFFFFFFFF := by
  have hyears : (c.tick / c.ticksPerYear).toNat =
      c.tick.toNat / (c.ticksPerDay.toNat * c.daysPerYear.toNat) := by
    rw [UInt64.toNat_div, h.toNat_ticksPerYear]
  have hclamp : ((Word.clamp (Word.toInt (c.tick / c.ticksPerYear)) : UInt32).toNat : Int) =
      max 0 (min ((c.tick / c.ticksPerYear).toNat : Int) 0xFFFFFFFF) :=
    Word.toInt_clamp (α := UInt32) (Word.toInt (c.tick / c.ticksPerYear))
  have hage : (c.age.toNat : Int) = max 0 (min ((c.startingAge.toNat : Int) +
      (Word.clamp (Word.toInt (c.tick / c.ticksPerYear)) : UInt32).toNat) 0xFFFFFFFF) :=
    Word.toInt_clamp (α := UInt32) _
  rw [hyears] at hclamp
  omega

/-! ## Hours -/

theorem toNat_tickOfDay (c : Clock) : c.tickOfDay.toNat = c.tick.toNat % c.ticksPerDay.toNat :=
  UInt64.toNat_mod ..

theorem Proper.hour_lt (h : c.Proper) :
    c.tickOfDay.toNat * 24 / c.ticksPerDay.toNat < 24 := by
  have hday := Nat.mod_lt c.tick.toNat h.ticksPerDay_pos
  rw [toNat_tickOfDay, Nat.div_lt_iff_lt_mul h.ticksPerDay_pos]
  omega

theorem Proper.toNat_hour (h : c.Proper) :
    c.hour.toNat = c.tickOfDay.toNat * 24 / c.ticksPerDay.toNat := by
  have hlt := h.hour_lt
  unfold hour
  rw [UInt32.toNat_ofNat']
  exact Nat.mod_eq_of_lt (by omega)

theorem Proper.reads (h : c.Proper) : c.Reads where
  toProper := h
  day := UInt64.toNat_div ..
  hour := by rw [h.toNat_hour, toNat_tickOfDay, Nat.mul_comm 24]
  hour_lt := by
    rw [h.toNat_hour]
    exact h.hour_lt
  year := h.toNat_ticksPerYear
  age := h.toNat_age

/-- In a day that is short enough the hour can be read at its last tick, and so at every other. -/
theorem hourFits_of_short (pos : 0 < c.ticksPerDay.toNat)
    (h : (c.ticksPerDay.toNat - 1) * 24 < 0x10000000000000000) : c.HourFits := by
  have hday := Nat.mod_lt c.tick.toNat pos
  unfold HourFits
  rw [toNat_tickOfDay]
  omega

theorem hourFits_of_usual (h : c.ticksPerDay = 24) : c.HourFits := by
  apply hourFits_of_short <;> rw [h] <;> decide

theorem max_one_of_ne_zero {n : UInt64} (h : n ≠ 0) : max n 1 = n := by
  rw [Ne, ← UInt64.toNat_inj, UInt64.toNat_zero] at h
  show (if n ≤ 1 then 1 else n) = n
  split
  · next hle =>
    rw [UInt64.le_iff_toNat_le, UInt64.toNat_one] at hle
    rw [← UInt64.toNat_inj, UInt64.toNat_one]
    omega
  · rfl

end Clock

namespace Config

variable {config : Config}

/-- What a playable configuration says of time. -/
theorem Valid.time (h : config.Valid) :
    config.ticksPerDay ≠ 0 ∧ config.daysPerYear ≠ 0 ∧
      config.ticksPerDay.toNat * config.daysPerYear.toNat < 0x10000000000000000 := by
  unfold Valid fault? at h
  split at h
  · cases h
  · next hsome =>
    split at h
    · cases h
    · next hyear =>
      rw [not_or] at hsome
      exact ⟨hsome.1, hsome.2, Nat.not_le.1 hyear⟩

theorem Valid.ticksPerDay_clock (h : config.Valid) :
    config.clock.ticksPerDay = config.ticksPerDay :=
  Clock.max_one_of_ne_zero h.time.1

theorem Valid.daysPerYear_clock (h : config.Valid) :
    config.clock.daysPerYear = config.daysPerYear :=
  Clock.max_one_of_ne_zero h.time.2.1

theorem Valid.proper_clock (h : config.Valid) : config.clock.Proper := by
  obtain ⟨hday, hyear, hfits⟩ := h.time
  rw [Ne, ← UInt64.toNat_inj, UInt64.toNat_zero] at hday hyear
  constructor
  · rw [h.ticksPerDay_clock]
    omega
  · rw [h.daysPerYear_clock]
    omega
  · rw [h.ticksPerDay_clock, h.daysPerYear_clock]
    exact hfits

end Config

end LifeStory
