import LifeStory.Proofs.Session.ActiveEvent
import LifeStory.Proofs.Stats.Drift

/-!
# The ledger of a session

Attributes change by choices, and drift while time passes; a pass does not touch them. Both keep
every attribute in its range.

    s.world.stats.InRange → (s.elapse ticks).world.stats = s.world.stats.drift …  (stats_elapse)
    s.Reachable → s.world.stats.InRange                                      (Reachable.inRange)
-/

namespace LifeStory

open LifeStory.Random (Stream)

theorem Player.inRange_startingStats (p : Player) : p.startingStats.InRange := by
  unfold Player.startingStats
  refine List.foldlRecOn _ _ StatLedger.inRange_resting ?_
  intro l h nudge _
  exact h.applyDelta _ _

theorem Director.inRange_applyChoice (catalog : Catalog) (config : Config)
    (difficulty : Difficulty) (now : Tick) (s : Storylet) (c : Choice) {world : World}
    (h : world.stats.InRange) (stream : Stream) :
    (applyChoice catalog config difficulty now s c world stream).1.stats.InRange := by
  show (c.stats.foldl (applyStat difficulty) (world.stats, stream)).1.InRange
  refine List.foldlRecOn (motive := fun after : StatLedger × Stream => after.1.InRange) _ _ h ?_
  intro before h delta _
  exact h.applyDelta _ _

namespace Session

theorem stats_elapse {s : Session} (h : s.world.stats.InRange) (ticks : UInt64) :
    (s.elapse ticks).world.stats =
      s.world.stats.drift ((s.clock.advance ticks).daysSince s.clock)
        s.config.moodRegressionPerDay s.config.energyRecoveryPerDay := by
  show ({ s with clock := s.clock.advance ticks }.spendDays
    ((s.clock.advance ticks).daysSince s.clock)).world.stats = _
  unfold spendDays
  split
  · next hzero =>
    rw [hzero]
    exact (StatLedger.drift_zero h _ _).symm
  · rfl

theorem inRange_elapse {s : Session} (h : s.world.stats.InRange) (ticks : UInt64) :
    (s.elapse ticks).world.stats.InRange := by
  rw [stats_elapse h]
  exact h.drift _ _ _

theorem stats_advanced (s : Session) (ticks : UInt64) :
    (s.advanced ticks).world.stats = (s.elapse ticks).world.stats := rfl

theorem Reachable.inRange {s : Session} (h : s.Reachable) : s.world.stats.InRange := by
  apply h.of_moves (P := fun s => s.world.stats.InRange)
  case start => exact fun _ player _ _ => player.inRange_startingStats
  case beginOperation => exact fun _ h => h
  case advanced =>
    intro s ticks h
    rw [stats_advanced]
    exact inRange_elapse h ticks
  case settle =>
    intro s t c h
    exact Director.inRange_applyChoice s.catalog s.config s.player.difficulty s.clock.tick t c h
      s.stream
  case record => exact fun _ _ h => h

end Session

end LifeStory
