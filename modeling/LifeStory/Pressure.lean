import LifeStory.Precision

/-!
# Karma and heat

Two accumulators. Karma is a whole number held in 64 bits; heat lies between 0 and 200, rises
with drama and is lost day by day. The heat at which the running operation began is kept, so that
a trend can be read.
-/

namespace LifeStory

/-- A reading of karma. -/
inductive KarmaBand where
  | villainous
  | shady
  | neutral
  | kind
  | saintly
deriving DecidableEq, Repr

namespace KarmaBand

/-- Villainous up to -50, shady up to -15, neutral below 15, kind below 50. -/
def ofKarma (karma : Int64) : KarmaBand :=
  if karma ≤ -50 then .villainous
  else if karma ≤ -15 then .shady
  else if karma < 15 then .neutral
  else if karma < 50 then .kind
  else .saintly

def name : KarmaBand → String
  | villainous => "Villainous"
  | shady => "Shady"
  | neutral => "Neutral"
  | kind => "Kind"
  | saintly => "Saintly"

end KarmaBand

/-- A reading of heat. -/
inductive HeatLevel where
  | calm
  | simmering
  | heated
  | boiling
  | explosive
deriving DecidableEq, Repr

namespace HeatLevel

/-- Calm below 40, simmering below 80, heated below 130, boiling below 170. -/
def ofHeat (heat : Float32) : HeatLevel :=
  if heat < 40 then .calm
  else if heat < 80 then .simmering
  else if heat < 130 then .heated
  else if heat < 170 then .boiling
  else .explosive

def name : HeatLevel → String
  | calm => "Calm"
  | simmering => "Simmering"
  | heated => "Heated"
  | boiling => "Boiling"
  | explosive => "Explosive"

end HeatLevel

/-- Where heat went during an operation. -/
inductive HeatTrend where
  | rising
  | falling
  | steady
deriving DecidableEq, Repr

namespace HeatTrend

def name : HeatTrend → String
  | rising => "Rising"
  | falling => "Falling"
  | steady => "Steady"

end HeatTrend

/-- Karma and heat. -/
structure Pressure where
  karma : Int64
  heat : Float32
  /-- The heat at which the last operation began. -/
  baseline : Float32

namespace Pressure

/-- The least heat. -/
def leastHeat : Float32 := 0

/-- The greatest heat. -/
def greatestHeat : Float32 := 200

/-- A change of heat smaller than this is none. -/
def trendThreshold : Float32 := 0.01

/-- No karma and the least heat. -/
def initial : Pressure := ⟨0, leastHeat, leastHeat⟩

def addKarma (p : Pressure) (amount : Int64) : Pressure :=
  { p with karma := Word.satAdd p.karma amount }

/-- Adds to heat and holds it in its range. An amount that is no number changes nothing. -/
def addHeat (p : Pressure) (amount : Float32) : Pressure :=
  if amount.isNaN then p
  else { p with heat := Precision.hold leastHeat greatestHeat (p.heat + amount) }

@[simp] theorem karma_addHeat (p : Pressure) (amount : Float32) :
    (p.addHeat amount).karma = p.karma := by
  unfold addHeat
  split <;> rfl

@[simp] theorem baseline_addHeat (p : Pressure) (amount : Float32) :
    (p.addHeat amount).baseline = p.baseline := by
  unfold addHeat
  split <;> rfl

/-- The heat that is lost while some days pass. -/
def decayHeat (p : Pressure) (days : UInt64) (ratePerDay : Float32) : Pressure :=
  if days = 0 then p else p.addHeat (-(ratePerDay * Float32.ofNat days.toNat))

@[simp] theorem karma_decayHeat (p : Pressure) (days : UInt64) (rate : Float32) :
    (p.decayHeat days rate).karma = p.karma := by
  unfold decayHeat
  split
  · rfl
  · rw [karma_addHeat]

/-- Starts an operation. -/
def beginOperation (p : Pressure) : Pressure := { p with baseline := p.heat }

/-- Where heat went since the last operation began. -/
def trend (p : Pressure) : HeatTrend :=
  let change := p.heat - p.baseline
  if trendThreshold < change then .rising
  else if change < -trendThreshold then .falling
  else .steady

def karmaBand (p : Pressure) : KarmaBand := .ofKarma p.karma

def heatLevel (p : Pressure) : HeatLevel := .ofHeat p.heat

end Pressure

end LifeStory
