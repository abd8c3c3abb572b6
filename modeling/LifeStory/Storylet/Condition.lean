import LifeStory.Stats.Ledger
import LifeStory.Relationship.Graph
import LifeStory.History
import LifeStory.Datum.Fields

/-!
# Conditions

A condition gates a storylet or a choice. It reads a `Standing`, the part of a life that gates may
look at, and nothing else. Thresholds are inclusive.
-/

namespace LifeStory

/-- What conditions are judged by. -/
structure Standing where
  stats : StatLedger
  relationships : RelationshipGraph
  history : StoryHistory
  age : UInt32
  stage : LifeStage
  period : TimePeriod
  karma : Int64
  heat : Float32

/-- One gate. -/
inductive Condition where
  | statAtLeast (stat : StatKind) (value : Int32)
  | statAtMost (stat : StatKind) (value : Int32)
  | relationshipAtLeast (npc : NpcId) (axis : Axis) (value : Float32)
  | relationshipAtMost (npc : NpcId) (axis : Axis) (value : Float32)
  | knowsNpc (npc : NpcId)
  | lifeStageIn (stages : List LifeStage)
  | ageAtLeast (age : UInt32)
  | ageAtMost (age : UInt32)
  | karmaAtLeast (karma : Int64)
  | karmaAtMost (karma : Int64)
  | heatAtLeast (heat : Float32)
  | heatAtMost (heat : Float32)
  | timeOfDay (periods : List TimePeriod)
  | resolved (id : StoryletId)
  | notResolved (id : StoryletId)

namespace Condition

def holds (s : Standing) : Condition → Bool
  | statAtLeast stat value => value ≤ s.stats.read stat
  | statAtMost stat value => s.stats.read stat ≤ value
  | relationshipAtLeast npc axis value => value ≤ s.relationships.axisValue npc axis
  | relationshipAtMost npc axis value => s.relationships.axisValue npc axis ≤ value
  | knowsNpc npc => s.relationships.contains npc
  | lifeStageIn stages => stages.contains s.stage
  | ageAtLeast age => age ≤ s.age
  | ageAtMost age => s.age ≤ age
  | karmaAtLeast karma => karma ≤ s.karma
  | karmaAtMost karma => s.karma ≤ karma
  | heatAtLeast heat => heat ≤ s.heat
  | heatAtMost heat => s.heat ≤ heat
  | timeOfDay periods => periods.contains s.period
  | resolved id => s.history.wasResolved id
  | notResolved id => !s.history.wasResolved id

/-- Do all conditions of a list hold? -/
def allHold (s : Standing) (conditions : List Condition) : Bool := conditions.all (holds s)

/-! ## Data -/

def toDatum : Condition → Datum
  | statAtLeast stat value => tag "StatAtLeast" (statTable stat value)
  | statAtMost stat value => tag "StatAtMost" (statTable stat value)
  | relationshipAtLeast npc axis value =>
    tag "RelationshipAtLeast" (relationshipTable npc axis value)
  | relationshipAtMost npc axis value => tag "RelationshipAtMost" (relationshipTable npc axis value)
  | knowsNpc npc => tag "KnowsNpc" (.text npc)
  | lifeStageIn stages => tag "LifeStageIn" (.texts (stages.map LifeStage.name))
  | ageAtLeast age => tag "AgeAtLeast" (.word age)
  | ageAtMost age => tag "AgeAtMost" (.word age)
  | karmaAtLeast karma => tag "KarmaAtLeast" (.word karma)
  | karmaAtMost karma => tag "KarmaAtMost" (.word karma)
  | heatAtLeast heat => tag "HeatAtLeast" (.single heat)
  | heatAtMost heat => tag "HeatAtMost" (.single heat)
  | timeOfDay periods => tag "TimeOfDay" (.texts (periods.map TimePeriod.name))
  | resolved id => tag "Resolved" (.text id)
  | notResolved id => tag "NotResolved" (.text id)
where
  tag (name : String) (d : Datum) : Datum := .table [(name, d)]
  statTable (stat : StatKind) (value : Int32) : Datum :=
    .table [("stat", .text stat.name), ("value", .word value)]
  relationshipTable (npc : NpcId) (axis : Axis) (value : Float32) : Datum :=
    .table [("npc", .text npc), ("axis", .text axis.name), ("value", .single value)]

/-- An attribute and a threshold. -/
def statGate? (d : Datum) : Option (StatKind × Int32) := do
  let f ← Fields.ofTable? ["stat", "value"] d
  let stat ← f.required "stat" (Datum.asName? (StatKind.all.map fun k => (k.name, k)))
  let value ← f.required "value" (Datum.asWord? Int32)
  return (stat, value)

/-- An axis of a character and a threshold. -/
def relationshipGate? (d : Datum) : Option (NpcId × Axis × Float32) := do
  let f ← Fields.ofTable? ["npc", "axis", "value"] d
  let npc ← f.required "npc" Datum.asText?
  let axis ← f.required "axis" (Datum.asName? (Axis.all.map fun a => (a.name, a)))
  let value ← f.required "value" Datum.asSingle?
  return (npc, axis, value)

def stages? : Datum → Option (List LifeStage) :=
  Datum.asList? (Datum.asName? (LifeStage.all.map fun g => (g.name, g)))

def periods? : Datum → Option (List TimePeriod) :=
  Datum.asList? (Datum.asName? (TimePeriod.all.map fun p => (p.name, p)))

/-- A condition is a table of one member, whose name says which gate it is. -/
def ofDatum? (d : Datum) : Option Condition := do
  let (name, content) ← d.asTagged?
  match name with
  | "StatAtLeast" => (statGate? content).map fun (stat, value) => .statAtLeast stat value
  | "StatAtMost" => (statGate? content).map fun (stat, value) => .statAtMost stat value
  | "RelationshipAtLeast" =>
    (relationshipGate? content).map fun (npc, axis, value) => .relationshipAtLeast npc axis value
  | "RelationshipAtMost" =>
    (relationshipGate? content).map fun (npc, axis, value) => .relationshipAtMost npc axis value
  | "KnowsNpc" => content.asText?.map .knowsNpc
  | "LifeStageIn" => (stages? content).map .lifeStageIn
  | "AgeAtLeast" => (content.asWord? UInt32).map .ageAtLeast
  | "AgeAtMost" => (content.asWord? UInt32).map .ageAtMost
  | "KarmaAtLeast" => (content.asWord? Int64).map .karmaAtLeast
  | "KarmaAtMost" => (content.asWord? Int64).map .karmaAtMost
  | "HeatAtLeast" => content.asSingle?.map .heatAtLeast
  | "HeatAtMost" => content.asSingle?.map .heatAtMost
  | "TimeOfDay" => (periods? content).map .timeOfDay
  | "Resolved" => content.asText?.map .resolved
  | "NotResolved" => content.asText?.map .notResolved
  | _ => none

end Condition

end LifeStory
