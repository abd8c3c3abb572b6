import LifeStory.Catalog.Fault
import LifeStory.Precision

/-!
# Gate tables

Content writes conditions as tables of optional keys, all of which have to hold. `compile` turns a
table into conditions, and refuses a table in which a key would have no effect: a threshold needs
a subject, and a subject a threshold.
-/

namespace LifeStory

/-- Conditions as content writes them. -/
structure GateTable where
  stat : Option String := none
  npc : Option NpcId := none
  axis : Option String := none
  /-- The least value of the attribute or axis. -/
  atLeast : Option Float := none
  /-- The greatest value of the attribute or axis. -/
  atMost : Option Float := none
  knows : Option NpcId := none
  lifeStages : Option (List String) := none
  minAge : Option UInt32 := none
  maxAge : Option UInt32 := none
  karmaAtLeast : Option Int64 := none
  karmaAtMost : Option Int64 := none
  heatAtLeast : Option Float32 := none
  heatAtMost : Option Float32 := none
  timeOfDay : Option (List String) := none
  resolved : Option StoryletId := none
  notResolved : Option StoryletId := none

/-- The life stages with some names. -/
def LifeStage.readAll (names : List String) : Except TableFault (List LifeStage) :=
  names.mapM fun name =>
    match named? name with
    | some stage => .ok stage
    | none => .error (.unknownLifeStage name)

/-- The times of day with some names. -/
def TimePeriod.readAll (names : List String) : Except TableFault (List TimePeriod) :=
  names.mapM fun name =>
    match named? name with
    | some period => .ok period
    | none => .error (.unknownTimeOfDay name)

namespace GateTable

/-- The conditions on an attribute; thresholds go to the nearest integer. -/
def statConditions (g : GateTable) (name : String) : Except TableFault (List Condition) :=
  match StatKind.named? name with
  | none => .error (.unknownStat name)
  | some stat =>
    if g.atLeast.isNone && g.atMost.isNone then .error (.statWithoutThreshold name)
    else .ok <|
      (g.atLeast.map fun v => .statAtLeast stat (Precision.nearestInt32 v)).toList ++
      (g.atMost.map fun v => .statAtMost stat (Precision.nearestInt32 v)).toList

/-- The conditions on a relationship; thresholds go to the nearest single. -/
def relationshipConditions (g : GateTable) (npc : NpcId) : Except TableFault (List Condition) :=
  match g.axis with
  | none => .error (.axisMissing npc)
  | some name =>
    match Axis.named? name with
    | none => .error (.unknownAxis name)
    | some axis =>
      if g.atLeast.isNone && g.atMost.isNone then .error (.relationshipWithoutThreshold npc)
      else .ok <|
        (g.atLeast.map fun v => .relationshipAtLeast npc axis (Precision.narrow v)).toList ++
        (g.atMost.map fun v => .relationshipAtMost npc axis (Precision.narrow v)).toList

/-- The conditions with thresholds of their own subject. -/
def thresholdConditions (g : GateTable) : Except TableFault (List Condition) :=
  match g.stat, g.npc with
  | some _, some _ => .error .twoSubjects
  | some name, none => g.statConditions name
  | none, some npc => g.relationshipConditions npc
  | none, none =>
    if g.atLeast.isSome || g.atMost.isSome || g.axis.isSome then .error .thresholdWithoutSubject
    else .ok []

/-- The condition on the life stage. -/
def stageConditions (g : GateTable) : Except TableFault (List Condition) :=
  match g.lifeStages with
  | none => .ok []
  | some names => (LifeStage.readAll names).map fun stages => [.lifeStageIn stages]

/-- The condition on the time of day. -/
def timeConditions (g : GateTable) : Except TableFault (List Condition) :=
  match g.timeOfDay with
  | none => .ok []
  | some names => (TimePeriod.readAll names).map fun periods => [.timeOfDay periods]

/-- The conditions of a table. -/
def compile (g : GateTable) : Except TableFault (List Condition) := do
  let thresholds ← g.thresholdConditions
  let stages ← g.stageConditions
  let times ← g.timeConditions
  let conditions :=
    thresholds ++ (g.knows.map .knowsNpc).toList ++ stages ++
    (g.minAge.map .ageAtLeast).toList ++ (g.maxAge.map .ageAtMost).toList ++
    (g.karmaAtLeast.map .karmaAtLeast).toList ++ (g.karmaAtMost.map .karmaAtMost).toList ++
    (g.heatAtLeast.map .heatAtLeast).toList ++ (g.heatAtMost.map .heatAtMost).toList ++
    times ++ (g.resolved.map .resolved).toList ++ (g.notResolved.map .notResolved).toList
  if conditions.isEmpty then .error .emptyCondition else .ok conditions

/-- The conditions of some tables, one after the other. -/
def compileAll (tables : List GateTable) : Except TableFault (List Condition) :=
  (tables.mapM compile).map List.flatten

/-- The names of the keys, in order. -/
def fieldNames : List String :=
  ["stat", "npc", "axis", "at_least", "at_most", "knows", "life_stages", "min_age", "max_age",
    "karma_at_least", "karma_at_most", "heat_at_least", "heat_at_most", "time_of_day", "resolved",
    "not_resolved"]

def ofDatum? (d : Datum) : Option GateTable := do
  let f ← Fields.of? true fieldNames d
  let stat ← f.optional "stat" Datum.asText?
  let npc ← f.optional "npc" Datum.asText?
  let axis ← f.optional "axis" Datum.asText?
  let atLeast ← f.optional "at_least" Datum.asDouble?
  let atMost ← f.optional "at_most" Datum.asDouble?
  let knows ← f.optional "knows" Datum.asText?
  let lifeStages ← f.optional "life_stages" (Datum.asList? Datum.asText?)
  let minAge ← f.optional "min_age" (Datum.asWord? UInt32)
  let maxAge ← f.optional "max_age" (Datum.asWord? UInt32)
  let karmaAtLeast ← f.optional "karma_at_least" (Datum.asWord? Int64)
  let karmaAtMost ← f.optional "karma_at_most" (Datum.asWord? Int64)
  let heatAtLeast ← f.optional "heat_at_least" Datum.asSingle?
  let heatAtMost ← f.optional "heat_at_most" Datum.asSingle?
  let timeOfDay ← f.optional "time_of_day" (Datum.asList? Datum.asText?)
  let resolved ← f.optional "resolved" Datum.asText?
  let notResolved ← f.optional "not_resolved" Datum.asText?
  return {
    stat, npc, axis, atLeast, atMost, knows, lifeStages, minAge, maxAge, karmaAtLeast, karmaAtMost,
    heatAtLeast, heatAtMost, timeOfDay, resolved, notResolved }

end GateTable

end LifeStory
