import LifeStory.Text.Case

/-!
# Axes of a relationship

A relationship is measured on five axes, each with a range and five bands. A value on the edge of
the two low bands is in the lower band, one on the edge of the two high bands in the higher.
-/

namespace LifeStory

/-- What a relationship is measured by. -/
inductive Axis where
  | affection
  | trust
  | attraction
  | familiarity
  | resentment
deriving DecidableEq, Repr

namespace Axis

/-- The axes in the order in which they are shown. -/
def all : List Axis := [.affection, .trust, .attraction, .familiarity, .resentment]

def name : Axis → String
  | affection => "affection"
  | trust => "trust"
  | attraction => "attraction"
  | familiarity => "familiarity"
  | resentment => "resentment"

/-- The axis with a name, in whatever case. -/
def named? (s : String) : Option Axis := all.find? fun a => a.name == Text.lower s

/-- The least value. -/
def least : Axis → Float32
  | familiarity => 0
  | _ => -10

/-- The greatest value. -/
def greatest : Axis → Float32
  | _ => 10

end Axis

/-- A fifth of an axis. -/
inductive Band where
  | veryLow
  | low
  | neutral
  | high
  | veryHigh
deriving DecidableEq, Repr

namespace Band

def name : Band → String
  | veryLow => "VeryLow"
  | low => "Low"
  | neutral => "Neutral"
  | high => "High"
  | veryHigh => "VeryHigh"

/-- The band between four edges. -/
def between (e₀ e₁ e₂ e₃ value : Float32) : Band :=
  if value ≤ e₀ then .veryLow
  else if value ≤ e₁ then .low
  else if value < e₂ then .neutral
  else if value < e₃ then .high
  else .veryHigh

/-- The band of a value. -/
def ofValue : Axis → Float32 → Band
  | .familiarity, value => between 2 4 6 8 value
  | _, value => between (-6) (-2) 2 6 value

/-- What a band is called on an axis. -/
def label : Axis → Band → String
  | .affection, veryLow => "Loathing"
  | .affection, low => "Cold"
  | .affection, neutral => "Indifferent"
  | .affection, high => "Warm"
  | .affection, veryHigh => "Devoted"
  | .trust, veryLow => "Betrayed"
  | .trust, low => "Wary"
  | .trust, neutral => "Unsure"
  | .trust, high => "Trusting"
  | .trust, veryHigh => "Unshakable"
  | .attraction, veryLow => "Repelled"
  | .attraction, low => "Uninterested"
  | .attraction, neutral => "Neutral"
  | .attraction, high => "Drawn"
  | .attraction, veryHigh => "Smitten"
  | .familiarity, veryLow => "Unknown"
  | .familiarity, low => "Familiar Face"
  | .familiarity, neutral => "Known"
  | .familiarity, high => "Close"
  | .familiarity, veryHigh => "Inseparable"
  | .resentment, veryLow => "Forgiving"
  | .resentment, low => "Easygoing"
  | .resentment, neutral => "Unbothered"
  | .resentment, high => "Bitter"
  | .resentment, veryHigh => "Seething"

end Band

/-- What the bands on the five axes are called. -/
structure AxisBands where
  affection : String
  trust : String
  attraction : String
  familiarity : String
  resentment : String
deriving DecidableEq, Repr

end LifeStory
