import LifeStory.Calendar.Clock

/-!
# Readings of a clock

A clock moves forward only, and stops at the greatest word. Wherever its time is cut in two, the two
parts take it as far as the whole, and the day boundaries within them are those within the whole.

    c.tick ≤ (c.advance ticks).tick                                   (tick_le_advance)
    n.toNat = a.toNat + b.toNat → (c.advance a).advance b = c.advance n   (advance_advance)
    n.toNat = a.toNat + b.toNat → the days since `c` after `n` are those of both parts
                                                                      (toNat_daysSince_advance)
-/

namespace LifeStory

namespace Clock

theorem toNat_tick_advance (c : Clock) (ticks : UInt64) :
    (c.advance ticks).tick.toNat = min (c.tick.toNat + ticks.toNat) 0xFFFFFFFFFFFFFFFF :=
  Word.toNat_satAdd c.tick ticks

@[simp] theorem ticksPerDay_advance (c : Clock) (ticks : UInt64) :
    (c.advance ticks).ticksPerDay = c.ticksPerDay := rfl

theorem tick_le_advance (c : Clock) (ticks : UInt64) : c.tick ≤ (c.advance ticks).tick := by
  have hlt := c.tick.toNat_lt
  rw [UInt64.le_iff_toNat_le, toNat_tick_advance]
  omega

theorem toNat_day_le_advance (c : Clock) (ticks : UInt64) :
    c.day.toNat ≤ (c.advance ticks).day.toNat := by
  show (c.tick / c.ticksPerDay).toNat ≤ ((c.advance ticks).tick / c.ticksPerDay).toNat
  rw [UInt64.toNat_div, UInt64.toNat_div]
  exact Nat.div_le_div_right (UInt64.le_iff_toNat_le.1 (c.tick_le_advance ticks))

theorem toNat_daysSince {later earlier : Clock} (h : earlier.day.toNat ≤ later.day.toNat) :
    (later.daysSince earlier).toNat = later.day.toNat - earlier.day.toNat :=
  UInt64.toNat_sub_of_le _ _ (UInt64.le_iff_toNat_le.2 h)

section Cut

variable (c : Clock) {a b n : UInt64} (h : n.toNat = a.toNat + b.toNat)

include h

/-- Where the first part already stops at the greatest word, so does the whole. -/
theorem advance_advance : (c.advance a).advance b = c.advance n := by
  have htick : ((c.advance a).advance b).tick = (c.advance n).tick := by
    rw [← UInt64.toNat_inj, toNat_tick_advance, toNat_tick_advance, toNat_tick_advance]
    omega
  show { c with tick := ((c.advance a).advance b).tick } = { c with tick := (c.advance n).tick }
  rw [htick]

theorem toNat_daysSince_advance :
    ((c.advance n).daysSince c).toNat =
      ((c.advance a).daysSince c).toNat +
        (((c.advance a).advance b).daysSince (c.advance a)).toNat := by
  have hfirst := c.toNat_day_le_advance a
  have hsecond := (c.advance a).toNat_day_le_advance b
  rw [toNat_daysSince (c.toNat_day_le_advance n), toNat_daysSince hfirst, toNat_daysSince hsecond,
    c.advance_advance h]
  rw [c.advance_advance h] at hsecond
  omega

end Cut

end Clock

end LifeStory
