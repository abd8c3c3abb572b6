import LifeStory.Storylet.Condition

/-!
# Storylets

A storylet is a short scene with choices. Which storylets can be shown is decided by their
conditions, and which of its choices are offered by the conditions of each choice. A choice says
what changes when it is made.
-/

namespace LifeStory

/-- Names a choice within its storylet. -/
abbrev ChoiceId := String

/-- A change of an attribute. -/
structure StatDelta where
  stat : StatKind
  amount : Int32
  /-- A draw between minus this and this is added on resolution. -/
  jitter : Int32
deriving DecidableEq, Repr

/-- A change of an axis of a relationship. -/
structure RelationshipDelta where
  npc : NpcId
  axis : Axis
  amount : Float32

/-- A way to resolve a storylet. -/
structure Choice where
  id : ChoiceId
  label : String
  conditions : List Condition := []
  stats : List StatDelta := []
  relationships : List RelationshipDelta := []
  karma : Int64 := 0
  heat : Float32 := 0
  memory : Option String := none

/-- A scene that can be shown. -/
structure Storylet where
  id : StoryletId
  title : String
  body : String := ""
  /-- From 0, quiet, to 3, dramatic; heat favours dramatic storylets. -/
  intensity : UInt8 := 0
  /-- The weight in the selection, before heat changes it. -/
  weight : Float := 1
  conditions : List Condition := []
  cooldownDays : UInt32 := 0
  /-- Is it never shown again after its first resolution? -/
  once : Bool := false
  /-- Is it only for players who allow mature storylets? -/
  mature : Bool := false
  /-- How long its event stays open, if not as long as the configuration says. -/
  durationHours : Option UInt64 := none
  choices : List Choice := []

/-- A character whom content can name. -/
structure Npc where
  id : NpcId
  name : String
deriving DecidableEq, Repr

/-! ## Composition -/

namespace Choice

/-- The choice with one more change of an attribute, without jitter. -/
def addStat (c : Choice) (stat : StatKind) (amount : Int32) : Choice :=
  { c with stats := c.stats ++ [⟨stat, amount, 0⟩] }

/-- The choice with one more change of a relationship. -/
def addRelationship (c : Choice) (npc : NpcId) (axis : Axis) (amount : Float32) : Choice :=
  { c with relationships := c.relationships ++ [⟨npc, axis, amount⟩] }

/-- The choice with one more condition. -/
def addCondition (c : Choice) (condition : Condition) : Choice :=
  { c with conditions := c.conditions ++ [condition] }

end Choice

namespace Storylet

/-- The storylet with one more condition. -/
def addCondition (s : Storylet) (condition : Condition) : Storylet :=
  { s with conditions := s.conditions ++ [condition] }

/-- The storylet with one more choice. -/
def addChoice (s : Storylet) (choice : Choice) : Storylet :=
  { s with choices := s.choices ++ [choice] }

/-- The first choice with an id. -/
def choice? (s : Storylet) (id : ChoiceId) : Option Choice := s.choices.find? fun c => c.id == id

end Storylet

end LifeStory
