import LifeStory.Config.Basic
import LifeStory.Datum.Fields

/-!
# Configuration as data

Every field of a configuration may be left out and then has its standard value; the ages of the
stages come all three or not at all. `Config.toDatum` writes all fields, in order.
-/

namespace LifeStory

namespace LifeStageThresholds

def toDatum (t : LifeStageThresholds) : Datum :=
  .table [("teen_at", .word t.teenAt), ("adult_at", .word t.adultAt), ("elder_at", .word t.elderAt)]

def ofDatum? (surplus : Bool) (d : Datum) : Option LifeStageThresholds := do
  let f ← Fields.of? surplus ["teen_at", "adult_at", "elder_at"] d
  let teenAt ← f.required "teen_at" (Datum.asWord? UInt32)
  let adultAt ← f.required "adult_at" (Datum.asWord? UInt32)
  let elderAt ← f.required "elder_at" (Datum.asWord? UInt32)
  return ⟨teenAt, adultAt, elderAt⟩

end LifeStageThresholds

namespace Config

def toDatum (c : Config) : Datum :=
  .table [
    ("ticks_per_day", .word c.ticksPerDay),
    ("days_per_year", .word c.daysPerYear),
    ("starting_age", .word c.startingAge),
    ("life_stages", c.lifeStages.toDatum),
    ("heat_decay_per_day", .single c.heatDecayPerDay),
    ("heat_per_intensity", .single c.heatPerIntensity),
    ("activation_chance", .real c.activationChance),
    ("heat_activation_bonus", .real c.heatActivationBonus),
    ("heat_bias", .real c.heatBias),
    ("min_weight_factor", .real c.minWeightFactor),
    ("history_len", .word c.historyLength),
    ("default_event_hours", .word c.defaultEventHours),
    ("mood_regression_per_day", .word c.moodRegressionPerDay),
    ("energy_recovery_per_day", .word c.energyRecoveryPerDay),
    ("memory_capacity", .word c.memoryCapacity),
    ("snapshot_memory_count", .word c.snapshotMemoryCount)]

/-- The names of the fields, in order. -/
def fieldNames : List String :=
  ["ticks_per_day", "days_per_year", "starting_age", "life_stages", "heat_decay_per_day",
    "heat_per_intensity", "activation_chance", "heat_activation_bonus", "heat_bias",
    "min_weight_factor", "history_len", "default_event_hours", "mood_regression_per_day",
    "energy_recovery_per_day", "memory_capacity", "snapshot_memory_count"]

/-- A configuration, with the standard value of each field that is left out. -/
def ofDatum? (surplus : Bool) (d : Datum) : Option Config := do
  let f ← Fields.of? surplus fieldNames d
  let std : Config := {}
  let ticksPerDay ← f.defaulted "ticks_per_day" std.ticksPerDay (Datum.asWord? UInt64)
  let daysPerYear ← f.defaulted "days_per_year" std.daysPerYear (Datum.asWord? UInt64)
  let startingAge ← f.defaulted "starting_age" std.startingAge (Datum.asWord? UInt32)
  let lifeStages ← f.defaulted "life_stages" std.lifeStages
    (LifeStageThresholds.ofDatum? surplus)
  let heatDecayPerDay ← f.defaulted "heat_decay_per_day" std.heatDecayPerDay Datum.asSingle?
  let heatPerIntensity ← f.defaulted "heat_per_intensity" std.heatPerIntensity Datum.asSingle?
  let activationChance ← f.defaulted "activation_chance" std.activationChance Datum.asDouble?
  let heatActivationBonus ←
    f.defaulted "heat_activation_bonus" std.heatActivationBonus Datum.asDouble?
  let heatBias ← f.defaulted "heat_bias" std.heatBias Datum.asDouble?
  let minWeightFactor ← f.defaulted "min_weight_factor" std.minWeightFactor Datum.asDouble?
  let historyLength ← f.defaulted "history_len" std.historyLength (Datum.asWord? UInt64)
  let defaultEventHours ←
    f.defaulted "default_event_hours" std.defaultEventHours (Datum.asWord? UInt64)
  let moodRegressionPerDay ←
    f.defaulted "mood_regression_per_day" std.moodRegressionPerDay (Datum.asWord? Int32)
  let energyRecoveryPerDay ←
    f.defaulted "energy_recovery_per_day" std.energyRecoveryPerDay (Datum.asWord? Int32)
  let memoryCapacity ← f.defaulted "memory_capacity" std.memoryCapacity (Datum.asWord? UInt64)
  let snapshotMemoryCount ←
    f.defaulted "snapshot_memory_count" std.snapshotMemoryCount (Datum.asWord? UInt64)
  return {
    ticksPerDay, daysPerYear, startingAge, lifeStages, heatDecayPerDay, heatPerIntensity,
    activationChance, heatActivationBonus, heatBias, minWeightFactor, historyLength,
    defaultEventHours, moodRegressionPerDay, energyRecoveryPerDay, memoryCapacity,
    snapshotMemoryCount }

end Config

end LifeStory
