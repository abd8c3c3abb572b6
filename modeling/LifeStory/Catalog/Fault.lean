import LifeStory.Storylet.Basic
import LifeStory.Decimal.Numeral

/-!
# Faults of content

Why content is refused: because a table of it says too little or too much, names something that is
not known, or because a rule of the catalog is broken.
-/

namespace LifeStory

/-- A part of the content that tables belong to. -/
inductive ContentPlace where
  | storylet (id : StoryletId)
  | choice (id : ChoiceId) (storylet : StoryletId)
deriving DecidableEq, Repr

namespace ContentPlace

def label : ContentPlace → String
  | storylet s => s!"storylet '{s}'"
  | choice c s => s!"choice '{c}' in '{s}'"

end ContentPlace

/-- What is wrong with a table of the content. -/
inductive TableFault where
  | twoSubjects
  | unknownStat (name : String)
  | statWithoutThreshold (stat : String)
  | axisMissing (npc : NpcId)
  | unknownAxis (name : String)
  | relationshipWithoutThreshold (npc : NpcId)
  | thresholdWithoutSubject
  | unknownLifeStage (name : String)
  | unknownTimeOfDay (name : String)
  | emptyCondition
  | jitterWithoutStat (stat : String)
  | emptyRelationshipDelta (npc : NpcId)
deriving DecidableEq, Repr

namespace TableFault

def message : TableFault → String
  | twoSubjects => "a condition cannot name both a stat and an npc"
  | unknownStat name => s!"unknown stat '{name}'"
  | statWithoutThreshold stat => s!"stat condition on '{stat}' needs at_least or at_most"
  | axisMissing npc => s!"relationship condition on '{npc}' needs an axis"
  | unknownAxis name => s!"unknown axis '{name}'"
  | relationshipWithoutThreshold npc =>
    s!"relationship condition on '{npc}' needs at_least or at_most"
  | thresholdWithoutSubject => "threshold given without a stat or npc"
  | unknownLifeStage name => s!"unknown life stage '{name}'"
  | unknownTimeOfDay name => s!"unknown time of day '{name}'"
  | emptyCondition => "empty condition"
  | jitterWithoutStat stat => s!"jitter on '{stat}' without a matching stat delta"
  | emptyRelationshipDelta npc => s!"relationship delta for '{npc}' changes no axis"

end TableFault

/-- Why content is refused. -/
inductive ContentFault where
  | table (place : ContentPlace) (fault : TableFault)
  | emptyStoryletId
  | noChoices (storylet : StoryletId)
  | weight (storylet : StoryletId) (value : Float)
  | intensity (storylet : StoryletId) (value : UInt8)
  | duration (storylet : StoryletId)
  | emptyChoiceId (storylet : StoryletId)
  | duplicateChoice (choice : ChoiceId) (storylet : StoryletId)
  | heat (choice : ChoiceId) (storylet : StoryletId)
  | jitter (choice : ChoiceId) (storylet : StoryletId)
  | relationshipAmount (choice : ChoiceId) (storylet : StoryletId)
  | duplicateStorylet (id : StoryletId)
  | emptyNpcId
  | duplicateNpc (id : NpcId)
  /-- The storylet of an open event is not in the catalog. -/
  | activeMissing (id : StoryletId)

namespace ContentFault

def message : ContentFault → String
  | table place fault => s!"{place.label}: {fault.message}"
  | emptyStoryletId => "storylet with empty id"
  | noChoices s => s!"storylet '{s}' has no choices"
  | weight s value => s!"storylet '{s}' weight must be positive, got {Numeral.plain value}"
  | intensity s value => s!"storylet '{s}' intensity {value} exceeds 3"
  | duration s => s!"storylet '{s}' duration_hours must be positive"
  | emptyChoiceId s => s!"storylet '{s}' has a choice with empty id"
  | duplicateChoice c s => s!"storylet '{s}' has duplicate choice id '{c}'"
  | heat c s => s!"choice '{c}' in '{s}' has a non-finite heat delta"
  | jitter c s => s!"choice '{c}' in '{s}' has negative jitter"
  | relationshipAmount c s => s!"choice '{c}' in '{s}' has a non-finite relationship delta"
  | duplicateStorylet id => s!"duplicate storylet id '{id}'"
  | emptyNpcId => "npc with empty id"
  | duplicateNpc id => s!"duplicate npc id '{id}'"
  | activeMissing id => s!"active storylet '{id}' missing"

end ContentFault

end LifeStory
