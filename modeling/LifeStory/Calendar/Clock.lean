import LifeStory.Word
import LifeStory.Calendar.LifeStage

/-!
# The clock

One tick is one simulated hour. Day, hour and age are computed from the number of ticks that have
passed, which stops at the greatest word. Two products on the way need not fit a word: that of the
hour (`HourFits`) and that of the ticks in a year (`YearFits`). A program that takes a reading whose
product does not fit goes no further.
-/

namespace LifeStory

/-- A point in simulated time. -/
abbrev Tick := UInt64

/-- The time that has passed, and how it is cut into days and years. -/
structure Clock where
  tick : Tick
  ticksPerDay : UInt64
  daysPerYear : UInt64
  startingAge : UInt32
deriving DecidableEq, Repr

namespace Clock

/-- A clock at tick zero; a day and a year last at least one tick and one day. -/
def start (ticksPerDay daysPerYear : UInt64) (startingAge : UInt32) : Clock :=
  ⟨0, max ticksPerDay 1, max daysPerYear 1, startingAge⟩

def day (c : Clock) : UInt64 := c.tick / c.ticksPerDay

/-- The ticks of the day that have passed. -/
def tickOfDay (c : Clock) : UInt64 := c.tick % c.ticksPerDay

/-- The clock some ticks later. -/
def advance (c : Clock) (ticks : UInt64) : Clock :=
  { c with tick := Word.satAdd c.tick ticks }

/-- The number of day boundaries between two readings of a clock. -/
def daysSince (later earlier : Clock) : UInt64 := later.day - earlier.day

/-- Can the hour of the day be read? -/
def HourFits (c : Clock) : Prop := c.tickOfDay.toNat * 24 < 0x10000000000000000

instance (c : Clock) : Decidable c.HourFits :=
  inferInstanceAs (Decidable (c.tickOfDay.toNat * 24 < 0x10000000000000000))

/-- The hour of the day, of 24 however many ticks a day has. -/
def hour (c : Clock) : UInt32 := .ofNat (c.tickOfDay.toNat * 24 / c.ticksPerDay.toNat)

def timePeriod (c : Clock) : TimePeriod := .ofHour c.hour

/-- Can the ticks of a year be counted? -/
def YearFits (c : Clock) : Prop := c.ticksPerDay.toNat * c.daysPerYear.toNat < 0x10000000000000000

instance (c : Clock) : Decidable c.YearFits :=
  inferInstanceAs (Decidable (c.ticksPerDay.toNat * c.daysPerYear.toNat < 0x10000000000000000))

def ticksPerYear (c : Clock) : UInt64 := c.ticksPerDay * c.daysPerYear

/-- The age in years; it stops at the greatest 32-bit word. -/
def age (c : Clock) : UInt32 :=
  let years : UInt32 := Word.clamp (Word.toInt (c.tick / c.ticksPerYear))
  Word.satAdd c.startingAge years

def lifeStage (c : Clock) (t : LifeStageThresholds) : LifeStage := .ofAge c.age t

end Clock

end LifeStory
