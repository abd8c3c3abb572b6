import LifeStory.Proofs.Calendar.Readings
import LifeStory.Proofs.Session.OpenEvent

/-!
# The calendar of a session

The clock of a session is that of its configuration, so no day and no year is empty, a year fits a
word, and every reading is exact. The product that the hour is read from is another matter: a call
that reaches a tick at which it does not fit crashes, and in a day that is long enough there is such
a tick. A configuration need not see to that: where a day lasts half as long as the clock goes, no
life gets to noon.

    s.Reachable → s.clock.Reads ∧ s.clock.HourFits              (Reachable.reads, Reachable.hourFits)
    0 ≤ n → ((s.step n).1 = .error (.crashed .hourOverflow) ↔
      ¬(s.clock.advance n.toUInt64).HourFits)                                (step_crashes_iff)
    config.Valid → config.Roomy → (no call of its sessions crashes ↔
      (config.ticksPerDay - 1) * 24 < 2 ^ 64)                                (hourFits_iff)
-/

namespace LifeStory

namespace Session

/-- The clock of a session is that of a new one, some time later. -/
theorem Reachable.clock_eq {s : Session} (h : s.Reachable) :
    s.clock = { s.config.clock with tick := s.clock.tick } := by
  induction h using Reachable.induct with
  | start => rfl
  | stepped s n _ _ ih =>
    rw [clock_stepped, (continues_stepped s n).config]
    nth_rewrite 1 [ih]
    rfl
  | chosen s e t c n _ _ ih =>
    rw [clock_chosen, (continues_chosen s t c n).config]
    nth_rewrite 1 [ih]
    rfl

theorem Reachable.reads {s : Session} (h : s.Reachable) : s.clock.Reads := by
  have hproper := h.valid.proper_clock
  apply Clock.Proper.reads
  rw [h.clock_eq]
  exact ⟨hproper.ticksPerDay_pos, hproper.daysPerYear_pos, hproper.year_fits⟩

theorem step_crashes_iff (s : Session) {n : Int64} (nonneg : 0 ≤ n) :
    (s.step n).1 = .error (.crashed .hourOverflow) ↔ ¬(s.clock.advance n.toUInt64).HourFits := by
  by_cases hfits : (s.clock.advance n.toUInt64).HourFits
  · rw [step_of_fits nonneg hfits]
    constructor
    · intro h
      cases h
    · intro h
      exact absurd hfits h
  · rw [step_of_not_fits nonneg hfits]
    constructor
    · intro _
      exact hfits
    · intro _
      rfl

/-- Where the hour can be read at the last tick of a day, no call crashes. -/
theorem not_crashed_of_short {s : Session} (h : s.Reachable)
    (short : (s.config.ticksPerDay.toNat - 1) * 24 < 0x10000000000000000) (c : Call)
    (crash : Crash) : (s.call c).1 ≠ .error (.crashed crash) := by
  have hfits : ∀ ticks, (s.clock.advance ticks).HourFits := by
    intro ticks
    rw [← h.ticksPerDay] at short
    exact Clock.hourFits_of_short h.reads.ticksPerDay_pos short
  intro hcrash
  cases c with
  | step n =>
    have ho := s.step_outcome n
    change (s.step n).1 = _ at hcrash
    generalize s.step n = after at ho hcrash
    cases ho with
    | refused => cases hcrash
    | made => cases hcrash
    | crashed _ unread => exact unread (hfits _)
  | choose storylet choice n =>
    have ho := s.choose_outcome storylet choice n
    change (s.choose storylet choice n).1 = _ at hcrash
    generalize s.choose storylet choice n = after at ho hcrash
    cases ho with
    | refused => cases hcrash
    | broken => cases hcrash
    | made => cases hcrash
    | crashed _ _ _ _ _ _ _ blind => exact blind fun _ => hfits _

/-- In a day that is too long, a new session can be brought to a tick at which it crashes: the first
one whose product does not fit. -/
theorem exists_crash_of_long {config : Config} (valid : config.Valid) (roomy : config.Roomy)
    (long : 0x10000000000000000 ≤ (config.ticksPerDay.toNat - 1) * 24) :
    ∃ s : Session, s.Reachable ∧ s.config = config ∧
      (s.step 768614336404564651).1 = .error (.crashed .hourOverflow) := by
  let game := (fresh 0 kneePlayer .empty config).pass none
  have hgame : game.Reachable :=
    .start Catalog.accepted_empty (start_eq_ok_iff.2 ⟨valid, rfl, roomy, rfl⟩)
  refine ⟨game, hgame, (continues_pass ..).config, ?_⟩
  rw [step_crashes_iff game (by decide)]
  intro hfits
  have htick : (game.clock.advance (Int64.toUInt64 768614336404564651)).tick.toNat =
      768614336404564651 := by
    have hstart : (fresh 0 kneePlayer .empty config).clock.tick.toNat = 0 := rfl
    have hn : (Int64.toUInt64 768614336404564651).toNat = 768614336404564651 := by decide
    rw [Clock.toNat_tick_advance, clock_pass, hstart, hn]
    decide
  unfold Clock.HourFits at hfits
  rw [Clock.toNat_tickOfDay, htick, Clock.ticksPerDay_advance, clock_pass] at hfits
  have hday : (fresh 0 kneePlayer .empty config).clock.ticksPerDay = config.ticksPerDay :=
    valid.ticksPerDay_clock
  rw [hday, Nat.mod_eq_of_lt (by omega)] at hfits
  omega

/-- The clock of a playable configuration is read off without a division by zero, its year does not
wrap, and its hour is exact, below 24, and read from a product that fits. A step that reaches a tick
at which that product does not fit crashes there. No call crashes, in any session of the
configuration, exactly if the product fits at the last tick of a day. -/
theorem hourFits_iff {config : Config} (valid : config.Valid) :
    (∀ s : Session, s.Reachable → s.config = config →
      s.clock = { config.clock with tick := s.clock.tick } ∧ s.clock.Reads ∧ s.clock.HourFits ∧
      ∀ n : Int64, 0 ≤ n → ((s.step n).1 = .error (.crashed .hourOverflow) ↔
        ¬(s.clock.advance n.toUInt64).HourFits)) ∧
    (config.Roomy →
      ((∀ s : Session, s.Reachable → s.config = config → ∀ c crash,
          (s.call c).1 ≠ .error (.crashed crash)) ↔
        (config.ticksPerDay.toNat - 1) * 24 < 0x10000000000000000)) := by
  constructor
  · rintro s hs rfl
    exact ⟨hs.clock_eq, hs.reads, hs.hourFits, fun n nonneg => s.step_crashes_iff nonneg⟩
  · intro roomy
    constructor
    · intro hall
      refine Nat.lt_of_not_le fun hlong => ?_
      obtain ⟨s, hs, hconfig, hcrash⟩ := exists_crash_of_long valid roomy hlong
      exact hall s hs hconfig (.step 768614336404564651) _ hcrash
    · rintro hshort s hs rfl c crash
      exact not_crashed_of_short hs hshort c crash

/-! ## A long day -/

/-- A day that lasts half as long as the clock goes, and a year of one day. -/
def longDayConfig : Config := { ticksPerDay := 0x7FFFFFFFFFFFFFFF, daysPerYear := 1 }

def longDayGame : Session := (fresh 5 kneePlayer .empty longDayConfig).pass none

theorem start_longDayGame : start 5 kneePlayer .empty longDayConfig = .ok longDayGame := rfl

theorem reachable_longDayGame : longDayGame.Reachable :=
  .start Catalog.accepted_empty start_longDayGame

/-- An hour of the long day can be read, and some call of some session of it crashes. -/
theorem hourFits_iff_longDayConfig :
    longDayConfig.Valid ∧
    (longDayGame.clock.Reads ∧ longDayGame.clock.HourFits) ∧
    ¬∀ s : Session, s.Reachable → s.config = longDayConfig → ∀ c crash,
      (s.call c).1 ≠ .error (.crashed crash) := by
  have valid : longDayConfig.Valid := rfl
  obtain ⟨hreads, hiff⟩ := hourFits_iff valid
  obtain ⟨-, hread, hfits, -⟩ := hreads longDayGame reachable_longDayGame (continues_pass ..).config
  exact ⟨valid, ⟨hread, hfits⟩, fun hall => absurd ((hiff (by decide)).1 hall) (by decide)⟩

/-- Half of the long day has passed, so it is noon; its hour cannot be read, and the step crashes. -/
theorem crash_at_noon :
    start 5 kneePlayer .empty longDayConfig = .ok longDayGame ∧
    ∃ left, longDayGame.step 0x4000000000000000 = (.error (.crashed .hourOverflow), left) ∧
      left.clock.tick = 0x4000000000000000 ∧
      0x10000000000000000 ≤ left.clock.tick.toNat % left.clock.ticksPerDay.toNat * 24 ∧
      24 * (left.clock.tick.toNat % left.clock.ticksPerDay.toNat) /
        left.clock.ticksPerDay.toNat = 12 := by
  have hover : ¬(longDayGame.clock.advance (Int64.toUInt64 0x4000000000000000)).HourFits := by
    decide +kernel
  refine ⟨start_longDayGame, _, step_of_not_fits (by decide) hover, ?_⟩
  rw [clock_elapse]
  decide +kernel

end Session

end LifeStory
