import LifeStory.Text.Case

/-!
# Stages of life and times of day

A life passes through four stages at ages that the configuration sets; a day has four periods.
Both gate storylets. Names are read without regard to case.
-/

namespace LifeStory

/-- A part of the day. -/
inductive TimePeriod where
  | morning
  | afternoon
  | evening
  | night
deriving DecidableEq, Repr

namespace TimePeriod

def all : List TimePeriod := [.morning, .afternoon, .evening, .night]

/-- Morning from 6, afternoon from 12, evening from 18, night from 22. -/
def ofHour (hour : UInt32) : TimePeriod :=
  if 6 ≤ hour ∧ hour < 12 then .morning
  else if 12 ≤ hour ∧ hour < 18 then .afternoon
  else if 18 ≤ hour ∧ hour < 22 then .evening
  else .night

def name : TimePeriod → String
  | morning => "Morning"
  | afternoon => "Afternoon"
  | evening => "Evening"
  | night => "Night"

/-- The period with a name. -/
def named? (s : String) : Option TimePeriod :=
  all.find? fun p => Text.lower p.name == Text.lower s

end TimePeriod

/-- A coarse age. -/
inductive LifeStage where
  | child
  | teen
  | adult
  | elder
deriving DecidableEq, Repr

/-- The ages at which the later stages begin. -/
structure LifeStageThresholds where
  teenAt : UInt32
  adultAt : UInt32
  elderAt : UInt32
deriving DecidableEq, Repr

/-- Teens from 12, adults from 20, elders from 65. -/
def LifeStageThresholds.standard : LifeStageThresholds := ⟨12, 20, 65⟩

/-- Which of the less common panels a character sheet shows. -/
structure DisplayFlags where
  showWealth : Bool
  showReputation : Bool
  showWisdom : Bool
  showKarma : Bool
deriving DecidableEq, Repr

namespace LifeStage

def all : List LifeStage := [.child, .teen, .adult, .elder]

/-- The stage at an age. -/
def ofAge (age : UInt32) (t : LifeStageThresholds) : LifeStage :=
  if age < t.teenAt then .child
  else if age < t.adultAt then .teen
  else if age < t.elderAt then .adult
  else .elder

def name : LifeStage → String
  | child => "Child"
  | teen => "Teen"
  | adult => "Adult"
  | elder => "Elder"

/-- The stage with a name. -/
def named? (s : String) : Option LifeStage :=
  all.find? fun g => Text.lower g.name == Text.lower s

/-- A child sees none of the panels, a teen reputation and karma, an adult all. -/
def displayFlags : LifeStage → DisplayFlags
  | child => ⟨false, false, false, false⟩
  | teen => ⟨false, true, false, true⟩
  | adult | elder => ⟨true, true, true, true⟩

end LifeStage

end LifeStory
