import LifeStory.Calendar.Clock
import LifeStory.Precision
import LifeStory.Decimal.Numeral

/-!
# Configuration

The numbers that tune a session. A session owns its configuration; `fault?` says why one cannot
be played, and `Valid` that it can.
-/

namespace LifeStory

/-- The tuning of a session. -/
structure Config where
  /-- Ticks in one day; a tick is an hour. -/
  ticksPerDay : UInt64 := 24
  daysPerYear : UInt64 := 365
  /-- Age in years at tick zero. -/
  startingAge : UInt32 := 6
  lifeStages : LifeStageThresholds := .standard
  /-- Heat lost per day that passes. -/
  heatDecayPerDay : Float32 := 5
  /-- Heat that a resolved storylet adds per point of intensity, besides that of its choice. -/
  heatPerIntensity : Float32 := 4
  /-- Probability that a pass with eligible storylets activates one, without heat. -/
  activationChance : Float := 0.5
  /-- What the greatest heat adds to that probability. -/
  heatActivationBonus : Float := 0.3
  /-- How far heat tilts selection toward intense storylets. -/
  heatBias : Float := 1
  /-- The least factor by which heat changes a weight. -/
  minWeightFactor : Float := 0.1
  /-- How many of the storylets that finished last are not selected. -/
  historyLength : UInt64 := 4
  /-- How long an event stays open if its storylet does not say. -/
  defaultEventHours : UInt64 := 72
  /-- Mood lost toward zero per day. -/
  moodRegressionPerDay : Int32 := 1
  /-- Energy gained toward its resting value per day. -/
  energyRecoveryPerDay : Int32 := 5
  memoryCapacity : UInt64 := 32
  /-- How many memories a snapshot shows. -/
  snapshotMemoryCount : UInt64 := 5

/-- Why a configuration cannot be played. -/
inductive ConfigFault where
  | noTime
  | yearTooLong (ticksPerDay daysPerYear : UInt64)
  | notFinite (field : String) (value : Float)
  | stagesNotIncreasing (stages : LifeStageThresholds)
  | activationChance (value : Float)
  | negativeSelection
  | minWeightFactor (value : Float)
  | negativeHeatRate
  | negativeDrift
  | noEventHours

namespace ConfigFault

def message : ConfigFault → String
  | noTime => "ticks_per_day and days_per_year must be positive"
  | yearTooLong ticks days =>
    s!"ticks_per_day ({ticks}) * days_per_year ({days}) overflows a tick count"
  | notFinite field value => s!"{field} ({Numeral.plain value}) must be finite"
  | stagesNotIncreasing t =>
    s!"life stage thresholds must increase (teen {t.teenAt}, adult {t.adultAt}, elder {t.elderAt})"
  | activationChance value => s!"activation_chance ({Numeral.plain value}) must be within [0, 1]"
  | negativeSelection => "heat_activation_bonus and heat_bias must be non-negative"
  | minWeightFactor value => s!"min_weight_factor ({Numeral.plain value}) must be positive"
  | negativeHeatRate => "heat rates must be non-negative"
  | negativeDrift => "daily drift rates must be non-negative"
  | noEventHours => "default_event_hours must be positive"

end ConfigFault

namespace Config

/-- The rates, which all have to be finite, with their names. -/
def rates (c : Config) : List (String × Float) :=
  [("heat_decay_per_day", Precision.widen c.heatDecayPerDay),
   ("heat_per_intensity", Precision.widen c.heatPerIntensity),
   ("activation_chance", c.activationChance),
   ("heat_activation_bonus", c.heatActivationBonus),
   ("heat_bias", c.heatBias),
   ("min_weight_factor", c.minWeightFactor)]

/-- The first thing that is wrong with a configuration. -/
def fault? (c : Config) : Option ConfigFault :=
  if c.ticksPerDay = 0 ∨ c.daysPerYear = 0 then some .noTime
  else if 0x10000000000000000 ≤ c.ticksPerDay.toNat * c.daysPerYear.toNat then
    some (.yearTooLong c.ticksPerDay c.daysPerYear)
  else match c.rates.find? fun r => !r.2.isFinite with
  | some (field, value) => some (.notFinite field value)
  | none =>
    if ¬(c.lifeStages.teenAt < c.lifeStages.adultAt ∧
        c.lifeStages.adultAt < c.lifeStages.elderAt) then
      some (.stagesNotIncreasing c.lifeStages)
    else if ¬(0 ≤ c.activationChance ∧ c.activationChance ≤ 1) then
      some (.activationChance c.activationChance)
    else if c.heatActivationBonus < 0 ∨ c.heatBias < 0 then some .negativeSelection
    else if c.minWeightFactor ≤ 0 then some (.minWeightFactor c.minWeightFactor)
    else if c.heatDecayPerDay < 0 ∨ c.heatPerIntensity < 0 then some .negativeHeatRate
    else if c.moodRegressionPerDay < 0 ∨ c.energyRecoveryPerDay < 0 then some .negativeDrift
    else if c.defaultEventHours = 0 then some .noEventHours
    else none

/-- A configuration that can be played. -/
def Valid (c : Config) : Prop := c.fault? = none

/-- The clock of a new session. -/
def clock (c : Config) : Clock := .start c.ticksPerDay c.daysPerYear c.startingAge

end Config

end LifeStory
