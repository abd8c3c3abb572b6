import LifeStory.Storylet.Basic

/-!
# Storylets as data

The written form has all fields of a storylet, in order; of these only the duration and the memory
of a choice may be left out or null when it is read.
-/

namespace LifeStory

namespace StatDelta

def toDatum (d : StatDelta) : Datum :=
  .table [("stat", .text d.stat.name), ("amount", .word d.amount), ("jitter", .word d.jitter)]

def ofDatum? (d : Datum) : Option StatDelta := do
  let f ← Fields.of? false ["stat", "amount", "jitter"] d
  let stat ← f.required "stat" (Datum.asName? (StatKind.all.map fun k => (k.name, k)))
  let amount ← f.required "amount" (Datum.asWord? Int32)
  let jitter ← f.required "jitter" (Datum.asWord? Int32)
  return { stat, amount, jitter }

end StatDelta

namespace RelationshipDelta

def toDatum (d : RelationshipDelta) : Datum :=
  .table [("npc", .text d.npc), ("axis", .text d.axis.name), ("amount", .single d.amount)]

def ofDatum? (d : Datum) : Option RelationshipDelta := do
  let f ← Fields.of? false ["npc", "axis", "amount"] d
  let npc ← f.required "npc" Datum.asText?
  let axis ← f.required "axis" (Datum.asName? (Axis.all.map fun a => (a.name, a)))
  let amount ← f.required "amount" Datum.asSingle?
  return { npc, axis, amount }

end RelationshipDelta

namespace Choice

def toDatum (c : Choice) : Datum :=
  .table [
    ("id", .text c.id),
    ("label", .text c.label),
    ("conditions", .list (c.conditions.map Condition.toDatum)),
    ("stats", .list (c.stats.map StatDelta.toDatum)),
    ("relationships", .list (c.relationships.map RelationshipDelta.toDatum)),
    ("karma", .word c.karma),
    ("heat", .single c.heat),
    ("memory", .ofOption .text c.memory)]

/-- The names of the fields, in order. -/
def fieldNames : List String :=
  ["id", "label", "conditions", "stats", "relationships", "karma", "heat", "memory"]

def ofDatum? (d : Datum) : Option Choice := do
  let f ← Fields.of? false fieldNames d
  let id ← f.required "id" Datum.asText?
  let label ← f.required "label" Datum.asText?
  let conditions ← f.required "conditions" (Datum.asList? Condition.ofDatum?)
  let stats ← f.required "stats" (Datum.asList? StatDelta.ofDatum?)
  let relationships ← f.required "relationships" (Datum.asList? RelationshipDelta.ofDatum?)
  let karma ← f.required "karma" (Datum.asWord? Int64)
  let heat ← f.required "heat" Datum.asSingle?
  let memory ← f.optional "memory" Datum.asText?
  return { id, label, conditions, stats, relationships, karma, heat, memory }

end Choice

namespace Storylet

def toDatum (s : Storylet) : Datum :=
  .table [
    ("id", .text s.id),
    ("title", .text s.title),
    ("body", .text s.body),
    ("intensity", .word s.intensity),
    ("weight", .real s.weight),
    ("conditions", .list (s.conditions.map Condition.toDatum)),
    ("cooldown_days", .word s.cooldownDays),
    ("once", .bool s.once),
    ("mature", .bool s.mature),
    ("duration_hours", .ofOption .word s.durationHours),
    ("choices", .list (s.choices.map Choice.toDatum))]

/-- The names of the fields, in order. -/
def fieldNames : List String :=
  ["id", "title", "body", "intensity", "weight", "conditions", "cooldown_days", "once", "mature",
    "duration_hours", "choices"]

def ofDatum? (d : Datum) : Option Storylet := do
  let f ← Fields.of? false fieldNames d
  let id ← f.required "id" Datum.asText?
  let title ← f.required "title" Datum.asText?
  let body ← f.required "body" Datum.asText?
  let intensity ← f.required "intensity" (Datum.asWord? UInt8)
  let weight ← f.required "weight" Datum.asDouble?
  let conditions ← f.required "conditions" (Datum.asList? Condition.ofDatum?)
  let cooldownDays ← f.required "cooldown_days" (Datum.asWord? UInt32)
  let once ← f.required "once" Datum.asBool?
  let mature ← f.required "mature" Datum.asBool?
  let durationHours ← f.optional "duration_hours" (Datum.asWord? UInt64)
  let choices ← f.required "choices" (Datum.asList? Choice.ofDatum?)
  return {
    id, title, body, intensity, weight, conditions, cooldownDays, once, mature, durationHours,
    choices }

end Storylet

end LifeStory
