import LifeStory.Proofs.Session.Calendar
import LifeStory.Proofs.Session.Ledger
import LifeStory.Proofs.Session.Tale

/-!
# Cutting time into steps

How often the director looks depends on how time is cut into steps, and so does what is drawn, opens
and lapses. The body and the calendar do not: they move with the clock and the day boundaries that
it crosses, and those add up. What the director cannot do without is the hour: a step that ends
where it cannot be read crashes, and a longer step goes over that tick (`crash_of_cut`).

    (s.stepped n).world.stats = s.world.stats.drift (days crossed) …            (stats_stepped)
    n = a + b → SameBody after a, then b, and after n                           (sameBody_elapse)
    0 ≤ a → 0 ≤ b → step a, then step b, and step (a + b) end alike and leave the same body,
      unless step a crashes                                                     (sameBody_step)
-/

namespace LifeStory

/-- A count of ticks cut in two, if the whole is in range. -/
theorem toNat_toUInt64_add {a b : Int64} (ha : 0 ≤ a) (hb : 0 ≤ b)
    (fits : a.toInt + b.toInt ≤ 0x7FFFFFFFFFFFFFFF) :
    0 ≤ a + b ∧ (a + b).toUInt64.toNat = a.toUInt64.toNat + b.toUInt64.toNat := by
  have ha' : 0 ≤ a.toInt := Int64.le_iff_toInt_le.1 ha
  have hb' : 0 ≤ b.toInt := Int64.le_iff_toInt_le.1 hb
  have hsum : (a + b).toInt = a.toInt + b.toInt := by
    rw [Int64.toInt_add, Int.bmod_eq_of_le (by omega) (by omega)]
  have hnonneg : 0 ≤ a + b := by
    rw [Int64.le_iff_toInt_le, Int64.toInt_zero, hsum]
    omega
  refine ⟨hnonneg, ?_⟩
  rw [Int64.toNat_toUInt64_of_le ha, Int64.toNat_toUInt64_of_le hb,
    Int64.toNat_toUInt64_of_le hnonneg]
  unfold Int64.toNatClampNeg
  omega

namespace Session

/-- Two sessions show the same calendar, body, karma and relationships. -/
structure SameBody (s t : Session) : Prop where
  tick : s.clock.tick = t.clock.tick
  day : s.clock.day = t.clock.day
  hour : s.clock.hour = t.clock.hour
  age : s.clock.age = t.clock.age
  stage : s.lifeStage = t.lifeStage
  stats : s.world.stats = t.world.stats
  karma : s.world.pressure.karma = t.world.pressure.karma
  relationships : s.world.relationships = t.world.relationships

/-- What time does to the body does not hang on the director, who looks after it. -/
theorem sameBody_stepped (s : Session) (ticks : UInt64) :
    SameBody (s.stepped ticks) (s.beginOperation.elapse ticks) :=
  ⟨rfl, rfl, rfl, rfl, rfl, rfl, rfl, rfl⟩

theorem SameBody.symm {s t : Session} (h : SameBody s t) : SameBody t s :=
  ⟨h.tick.symm, h.day.symm, h.hour.symm, h.age.symm, h.stage.symm, h.stats.symm, h.karma.symm,
    h.relationships.symm⟩

theorem SameBody.trans {s t u : Session} (h : SameBody s t) (h' : SameBody t u) : SameBody s u :=
  ⟨h.tick.trans h'.tick, h.day.trans h'.day, h.hour.trans h'.hour, h.age.trans h'.age,
    h.stage.trans h'.stage, h.stats.trans h'.stats, h.karma.trans h'.karma,
    h.relationships.trans h'.relationships⟩

theorem stats_stepped {s : Session} (h : s.world.stats.InRange) (ticks : UInt64) :
    (s.stepped ticks).world.stats =
      s.world.stats.drift ((s.clock.advance ticks).daysSince s.clock)
        s.config.moodRegressionPerDay s.config.energyRecoveryPerDay := by
  rw [(sameBody_stepped s ticks).stats]
  exact stats_elapse (s := s.beginOperation) h ticks

/-- A step and then some ticks are one step for the body. -/
theorem sameBody_elapse {s : Session} (h : s.world.stats.InRange) {a b n : UInt64}
    (hn : n.toNat = a.toNat + b.toNat) :
    SameBody ((s.stepped a).beginOperation.elapse b) (s.beginOperation.elapse n) := by
  have hfirst : (s.stepped a).world.stats.InRange := by
    rw [stats_stepped h]
    exact h.drift _ _ _
  have hconfig : (s.stepped a).config = s.config := (continues_stepped s a).config
  have hclock : ((s.stepped a).beginOperation.elapse b).clock =
      (s.beginOperation.elapse n).clock := by
    rw [clock_elapse, clock_elapse]
    show (s.stepped a).clock.advance b = s.clock.advance n
    rw [clock_stepped, s.clock.advance_advance hn]
  have hstats : ((s.stepped a).beginOperation.elapse b).world.stats =
      (s.beginOperation.elapse n).world.stats := by
    rw [← (sameBody_stepped (s.stepped a) b).stats, ← (sameBody_stepped s n).stats,
      stats_stepped hfirst, stats_stepped h, stats_stepped h, clock_stepped, hconfig]
    exact StatLedger.drift_drift h (s.clock.toNat_daysSince_advance hn) _ _
  have hkarma (t : Session) (ticks : UInt64) :
      (t.beginOperation.elapse ticks).world.pressure.karma = t.world.pressure.karma := by
    rw [pressure_elapse, Pressure.karma_decayHeat]
    rfl
  have hrelationships (t : Session) (ticks : UInt64) :
      (t.beginOperation.elapse ticks).world.relationships = t.world.relationships :=
    relationships_elapse t.beginOperation ticks
  refine ⟨?_, ?_, ?_, ?_, ?_, hstats, ?_, ?_⟩
  · rw [hclock]
  · rw [hclock]
  · rw [hclock]
  · rw [hclock]
  · unfold lifeStage
    rw [hclock, config_elapse, config_elapse]
    exact congrArg (fun config => Clock.lifeStage _ (Config.lifeStages config)) hconfig
  · rw [hkarma, hkarma, (sameBody_stepped s a).karma, hkarma]
  · rw [hrelationships, hrelationships, (sameBody_stepped s a).relationships, hrelationships]

/-- A step answers by the hour that it ends at, and its body is that of the time that has passed. -/
theorem exists_step (s : Session) {n : Int64} (nonneg : 0 ≤ n) :
    ∃ t, s.step n = (answerAt (s.clock.advance n.toUInt64), t) ∧
      SameBody t (s.beginOperation.elapse n.toUInt64) := by
  unfold answerAt
  by_cases hfits : (s.clock.advance n.toUInt64).HourFits
  · rw [if_pos hfits]
    exact ⟨_, step_of_fits nonneg hfits, sameBody_stepped s _⟩
  · rw [if_neg hfits]
    exact ⟨_, step_of_not_fits nonneg hfits, ⟨rfl, rfl, rfl, rfl, rfl, rfl, rfl, rfl⟩⟩

/-- Two steps, or one as long as both. If the first of the two does not crash, since the hour that
it ends at can be read, they end as the one does: the calendar, the body, karma and the
relationships are the same, whatever opened or lapsed in between. -/
theorem sameBody_step {s : Session} (h : s.Reachable) {a b : Int64} (ha : 0 ≤ a) (hb : 0 ≤ b)
    (inRange : a.toInt + b.toInt ≤ 0x7FFFFFFFFFFFFFFF) :
    ∃ t v, s.step a = (answerAt (s.clock.advance a.toUInt64), t) ∧
      s.step (a + b) = (answerAt (s.clock.advance (a + b).toUInt64), v) ∧
      ((s.clock.advance a.toUInt64).HourFits →
        ∃ u, t.step b = (answerAt (s.clock.advance (a + b).toUInt64), u) ∧ SameBody u v) := by
  obtain ⟨hsum, hcut⟩ := toNat_toUInt64_add ha hb inRange
  obtain ⟨t, ht, -⟩ := s.exists_step ha
  obtain ⟨v, hv, hbody⟩ := s.exists_step hsum
  refine ⟨t, v, ht, hv, fun hfits => ?_⟩
  obtain rfl : t = s.stepped a.toUInt64 := by
    rw [step_of_fits ha hfits] at ht
    exact (Prod.mk.inj ht).2.symm
  obtain ⟨u, hu, hbody'⟩ := (s.stepped a.toUInt64).exists_step hb
  rw [clock_stepped, s.clock.advance_advance hcut] at hu
  exact ⟨u, hu, (hbody'.trans (sameBody_elapse h.inRange hcut)).trans hbody.symm⟩

/-- At home, chores come up as soon as a step ends after the tooth has lapsed: earlier if there are
two steps. The events differ, the body does not. -/
theorem sameBody_step_homeGame :
    ∃ t u v, homeGame.step 72 = (.ok (), t) ∧ t.step 60 = (.ok (), u) ∧
      homeGame.step 132 = (.ok (), v) ∧ SameBody u v ∧
      u.director.active ≠ v.director.active := by
  have hr : homeGame.Reachable := .start accepted_homeCatalog start_homeGame
  have hanswer (ticks : UInt64) : answerAt (homeGame.clock.advance ticks) = .ok () :=
    if_pos (hourFits_homeGame ticks)
  obtain ⟨t, v, ht, hv, hcut⟩ :=
    sameBody_step hr (a := 72) (b := 60) (by decide) (by decide) (by decide)
  obtain ⟨u, hu, hsame⟩ := hcut (hourFits_homeGame _)
  rw [hanswer] at ht hu hv
  refine ⟨t, u, v, ht, hu, hv, hsame, ?_⟩
  have hactive : (homeGame.run [.step 72, .step 60]).director.active ≠
      (homeGame.run [.step 132]).director.active := by
    decide +kernel
  have hfirst : homeGame.call (.step 72) = (.ok (), t) := ht
  have hsecond : t.call (.step 60) = (.ok (), u) := hu
  have hwhole : homeGame.call (.step 132) = (.ok (), v) := hv
  rw [run_cons_of_some (after?_of_ok hfirst), run_cons_of_some (after?_of_ok hsecond),
    run_cons_of_some (after?_of_ok hwhole)] at hactive
  exact hactive

/-- The long day in one step, or with a stop at noon: the one step goes over it, the stop crashes. -/
theorem crash_of_cut :
    longDayGame.Reachable ∧
    (∃ left, longDayGame.step 0x4000000000000000 = (.error (.crashed .hourOverflow), left)) ∧
    ∃ after, longDayGame.step (0x4000000000000000 + 0x3FFFFFFFFFFFFFFF) = (.ok (), after) ∧
      after.clock.day = 1 := by
  have hover : ¬(longDayGame.clock.advance (Int64.toUInt64 0x4000000000000000)).HourFits := by
    decide +kernel
  have hfits : (longDayGame.clock.advance
      (Int64.toUInt64 (0x4000000000000000 + 0x3FFFFFFFFFFFFFFF))).HourFits := by
    decide +kernel
  refine ⟨reachable_longDayGame, ⟨_, step_of_not_fits (by decide) hover⟩, _,
    step_of_fits (by decide) hfits, ?_⟩
  rw [clock_stepped]
  decide +kernel

end Session

end LifeStory
