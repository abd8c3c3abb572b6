import LifeStory.Word
import LifeStory.Text.Case

/-!
# Attributes

The thirteen attributes of the player's character and their ranges: mood runs from -10 to 10,
every other from 0 to 100.
-/

namespace LifeStory

/-- An attribute of the player's character. -/
inductive StatKind where
  | health
  | mood
  | wealth
  | charisma
  | intelligence
  | wisdom
  | strength
  | stability
  | appearance
  | reputation
  | curiosity
  | energy
  | libido
deriving DecidableEq, Repr

namespace StatKind

/-- The attributes in the order in which they are shown. -/
def all : List StatKind :=
  [.health, .mood, .wealth, .charisma, .intelligence, .wisdom, .strength, .stability,
    .appearance, .reputation, .curiosity, .energy, .libido]

def name : StatKind → String
  | health => "health"
  | mood => "mood"
  | wealth => "wealth"
  | charisma => "charisma"
  | intelligence => "intelligence"
  | wisdom => "wisdom"
  | strength => "strength"
  | stability => "stability"
  | appearance => "appearance"
  | reputation => "reputation"
  | curiosity => "curiosity"
  | energy => "energy"
  | libido => "libido"

/-- The attribute with a name, in whatever case. -/
def named? (s : String) : Option StatKind := all.find? fun k => k.name == Text.lower s

/-- The least value. -/
def least : StatKind → Int32
  | mood => -10
  | _ => 0

/-- The greatest value. -/
def greatest : StatKind → Int32
  | mood => 10
  | _ => 100

/-- The value of a new character, and the value that energy recovers to. -/
def resting : StatKind → Int32
  | health | energy => 75
  | mood => 0
  | _ => 50

/-- The value in range that is nearest. -/
def clamp (k : StatKind) (v : Int32) : Int32 :=
  if v < k.least then k.least else if k.greatest < v then k.greatest else v

theorem mem_all (k : StatKind) : k ∈ all := by cases k <;> decide

end StatKind

/-- A reading of mood. -/
inductive MoodBand where
  | miserable
  | low
  | steady
  | good
  | elated
deriving DecidableEq, Repr

namespace MoodBand

/-- Miserable up to -6, low up to -2, steady below 2, good below 6. -/
def ofMood (mood : Int32) : MoodBand :=
  if mood ≤ -6 then .miserable
  else if mood ≤ -2 then .low
  else if mood < 2 then .steady
  else if mood < 6 then .good
  else .elated

def name : MoodBand → String
  | miserable => "Miserable"
  | low => "Low"
  | steady => "Steady"
  | good => "Good"
  | elated => "Elated"

end MoodBand

end LifeStory
