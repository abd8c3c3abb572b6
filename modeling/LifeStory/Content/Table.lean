import LifeStory.Content.Gate
import LifeStory.Catalog.Basic

/-!
# Content tables

The written form of content: characters, and storylets with their choices. `compile` gives the
storylets that the tables mean, or says where they are wrong. A choice changes its attributes in
the order of their names, and its relationships row by row, each row in the order of the axes.
-/

namespace LifeStory

/-- A change of one character's axes. -/
structure RelationshipRow where
  npc : NpcId
  affection : Option Float32 := none
  trust : Option Float32 := none
  attraction : Option Float32 := none
  familiarity : Option Float32 := none
  resentment : Option Float32 := none

namespace RelationshipRow

def amount? (r : RelationshipRow) : Axis → Option Float32
  | .affection => r.affection
  | .trust => r.trust
  | .attraction => r.attraction
  | .familiarity => r.familiarity
  | .resentment => r.resentment

/-- The changes of a row, at least one. -/
def compile (r : RelationshipRow) : Except TableFault (List RelationshipDelta) :=
  let deltas := Axis.all.filterMap fun axis =>
    (r.amount? axis).map fun amount => ⟨r.npc, axis, amount⟩
  if deltas.isEmpty then .error (.emptyRelationshipDelta r.npc) else .ok deltas

def ofDatum? (d : Datum) : Option RelationshipRow := do
  let f ← Fields.of? true
    ["npc", "affection", "trust", "attraction", "familiarity", "resentment"] d
  let npc ← f.required "npc" Datum.asText?
  let affection ← f.optional "affection" Datum.asSingle?
  let trust ← f.optional "trust" Datum.asSingle?
  let attraction ← f.optional "attraction" Datum.asSingle?
  let familiarity ← f.optional "familiarity" Datum.asSingle?
  let resentment ← f.optional "resentment" Datum.asSingle?
  return { npc, affection, trust, attraction, familiarity, resentment }

end RelationshipRow

/-- Numbers by name, in the order of the names, of which none is there twice. -/
structure NamedAmounts where
  entries : List (String × Int32)
  ascending : entries.Pairwise fun a b => a.1 < b.1

namespace NamedAmounts

def empty : NamedAmounts := ⟨[], .nil⟩

/-- Some entries with one more; a name that is there gets the new number. -/
def insertEntry (name : String) (amount : Int32) : List (String × Int32) → List (String × Int32)
  | [] => [(name, amount)]
  | e :: rest =>
    if name < e.1 then (name, amount) :: e :: rest
    else if name = e.1 then (name, amount) :: rest
    else e :: insertEntry name amount rest

theorem mem_insertEntry {name : String} {amount : Int32} {l : List (String × Int32)}
    {e : String × Int32} (h : e ∈ insertEntry name amount l) : e = (name, amount) ∨ e ∈ l := by
  fun_induction insertEntry name amount l with
  | case1 => exact .inl (List.mem_singleton.1 h)
  | case2 => exact List.mem_cons.1 h
  | case3 =>
    obtain rfl | h := List.mem_cons.1 h
    · exact .inl rfl
    · exact .inr (List.mem_cons_of_mem _ h)
  | case4 d rest _ _ ih =>
    obtain rfl | h := List.mem_cons.1 h
    · exact .inr List.mem_cons_self
    · exact (ih h).imp_right (List.mem_cons_of_mem _)

theorem ascending_insertEntry (name : String) (amount : Int32) {l : List (String × Int32)}
    (h : l.Pairwise fun a b => a.1 < b.1) :
    (insertEntry name amount l).Pairwise fun a b => a.1 < b.1 := by
  fun_induction insertEntry name amount l with
  | case1 => exact List.pairwise_singleton ..
  | case2 d rest hless =>
    refine List.pairwise_cons.2 ⟨fun e he => ?_, h⟩
    obtain rfl | he := List.mem_cons.1 he
    · exact hless
    · exact String.lt_trans hless ((List.pairwise_cons.1 h).1 e he)
  | case3 d rest _ hsame =>
    obtain ⟨hd, hrest⟩ := List.pairwise_cons.1 h
    exact List.pairwise_cons.2 ⟨fun e he => hsame ▸ hd e he, hrest⟩
  | case4 d rest hless hother ih =>
    obtain ⟨hd, hrest⟩ := List.pairwise_cons.1 h
    have hafter : d.1 < name := by
      refine Classical.byContradiction fun hnot => hother ?_
      exact String.le_antisymm (String.not_lt.1 hnot) (String.not_lt.1 hless)
    refine List.pairwise_cons.2 ⟨fun e he => ?_, ih hrest⟩
    obtain rfl | he := mem_insertEntry he
    · exact hafter
    · exact hd e he

def insert (m : NamedAmounts) (name : String) (amount : Int32) : NamedAmounts :=
  ⟨insertEntry name amount m.entries, ascending_insertEntry name amount m.ascending⟩

/-- The number with a name. -/
def get? (m : NamedAmounts) (name : String) : Option Int32 := m.entries.lookup name

theorem get?_insert (m : NamedAmounts) (name : String) (amount : Int32) (other : String) :
    (m.insert name amount).get? other = if other = name then some amount else m.get? other := by
  show (insertEntry name amount m.entries).lookup other =
    if other = name then some amount else m.entries.lookup other
  fun_induction insertEntry name amount m.entries with
  | case1 => grind
  | case2 => grind
  | case3 => grind
  | case4 e rest _ _ ih => grind

def ofDatum? : Datum → Option NamedAmounts
  | .table members => do
    let entries ← members.mapM fun (name, d) => (d.asWord? Int32).map (name, ·)
    return entries.foldl (fun m (name, amount) => m.insert name amount) .empty
  | _ => none

end NamedAmounts

/-- A choice as content writes it. -/
structure ChoiceTable where
  id : ChoiceId
  label : String
  conditions : List GateTable := []
  stats : NamedAmounts := .empty
  jitter : NamedAmounts := .empty
  relationships : List RelationshipRow := []
  karma : Int64 := 0
  heat : Float32 := 0
  memory : Option String := none

namespace ChoiceTable

/-- A jitter that belongs to no change of an attribute. -/
def strayJitter? (c : ChoiceTable) : Option String :=
  (c.jitter.entries.find? fun j => (c.stats.get? j.1).isNone).map Prod.fst

/-- The changes of attributes, each with its jitter. -/
def statDeltas (c : ChoiceTable) : Except TableFault (List StatDelta) :=
  c.stats.entries.mapM fun (name, amount) =>
    match StatKind.named? name with
    | some stat => .ok ⟨stat, amount, (c.jitter.get? name).getD 0⟩
    | none => .error (.unknownStat name)

/-- The choice that a table means. -/
def compile (c : ChoiceTable) : Except TableFault Choice := do
  if let some name := c.strayJitter? then
    throw (.jitterWithoutStat name)
  let stats ← c.statDeltas
  let relationships ← c.relationships.mapM RelationshipRow.compile
  let conditions ← GateTable.compileAll c.conditions
  return {
    id := c.id, label := c.label, conditions, stats, relationships := relationships.flatten
    karma := c.karma, heat := c.heat, memory := c.memory }

def ofDatum? (d : Datum) : Option ChoiceTable := do
  let f ← Fields.of? true
    ["id", "label", "conditions", "stats", "jitter", "relationships", "karma", "heat", "memory"] d
  let id ← f.required "id" Datum.asText?
  let label ← f.required "label" Datum.asText?
  let conditions ← f.defaulted "conditions" [] (Datum.asList? GateTable.ofDatum?)
  let stats ← f.defaulted "stats" .empty NamedAmounts.ofDatum?
  let jitter ← f.defaulted "jitter" .empty NamedAmounts.ofDatum?
  let relationships ← f.defaulted "relationships" [] (Datum.asList? RelationshipRow.ofDatum?)
  let karma ← f.defaulted "karma" 0 (Datum.asWord? Int64)
  let heat ← f.defaulted "heat" 0 Datum.asSingle?
  let memory ← f.optional "memory" Datum.asText?
  return { id, label, conditions, stats, jitter, relationships, karma, heat, memory }

end ChoiceTable

/-- A storylet as content writes it. -/
structure StoryletTable where
  id : StoryletId
  title : String
  body : String := ""
  intensity : UInt8 := 0
  weight : Float := 1
  lifeStages : List String := []
  conditions : List GateTable := []
  cooldownDays : UInt32 := 0
  once : Bool := false
  mature : Bool := false
  durationHours : Option UInt64 := none
  choices : List ChoiceTable := []

namespace StoryletTable

/-- The condition on the life stage; an empty list of stages is none. -/
def stageConditions (s : StoryletTable) : Except TableFault (List Condition) :=
  if s.lifeStages.isEmpty then .ok []
  else (LifeStage.readAll s.lifeStages).map fun stages => [.lifeStageIn stages]

/-- All conditions of the storylet itself. -/
def allConditions (s : StoryletTable) : Except TableFault (List Condition) := do
  let stages ← s.stageConditions
  let gates ← GateTable.compileAll s.conditions
  return stages ++ gates

/-- The storylet that a table means. -/
def compile (s : StoryletTable) : Except ContentFault Storylet := do
  let conditions ← s.allConditions.mapError (.table (.storylet s.id))
  let choices ← s.choices.mapM fun c => c.compile.mapError (.table (.choice c.id s.id))
  return {
    id := s.id, title := s.title, body := s.body, intensity := s.intensity, weight := s.weight
    conditions, cooldownDays := s.cooldownDays, once := s.once, mature := s.mature
    durationHours := s.durationHours, choices }

def ofDatum? (d : Datum) : Option StoryletTable := do
  let f ← Fields.of? true
    ["id", "title", "body", "intensity", "weight", "life_stages", "conditions", "cooldown_days",
      "once", "mature", "duration_hours", "choices"] d
  let id ← f.required "id" Datum.asText?
  let title ← f.required "title" Datum.asText?
  let body ← f.defaulted "body" "" Datum.asText?
  let intensity ← f.defaulted "intensity" 0 (Datum.asWord? UInt8)
  let weight ← f.defaulted "weight" 1 Datum.asDouble?
  let lifeStages ← f.defaulted "life_stages" [] (Datum.asList? Datum.asText?)
  let conditions ← f.defaulted "conditions" [] (Datum.asList? GateTable.ofDatum?)
  let cooldownDays ← f.defaulted "cooldown_days" 0 (Datum.asWord? UInt32)
  let once ← f.defaulted "once" false Datum.asBool?
  let mature ← f.defaulted "mature" false Datum.asBool?
  let durationHours ← f.optional "duration_hours" (Datum.asWord? UInt64)
  let choices ← f.defaulted "choices" [] (Datum.asList? ChoiceTable.ofDatum?)
  return {
    id, title, body, intensity, weight, lifeStages, conditions, cooldownDays, once, mature,
    durationHours, choices }

end StoryletTable

namespace Npc

def ofDatum? (d : Datum) : Option Npc := do
  let f ← Fields.of? true ["id", "name"] d
  let id ← f.required "id" Datum.asText?
  let name ← f.required "name" Datum.asText?
  return { id, name }

end Npc

/-- Content as it is written. -/
structure ContentTables where
  npcs : List Npc
  storylets : List StoryletTable

namespace ContentTables

/-- The catalog that the tables mean. -/
def compile (t : ContentTables) : Except ContentFault Catalog := do
  let storylets ← t.storylets.mapM StoryletTable.compile
  Catalog.build storylets t.npcs

def ofDatum? (d : Datum) : Option ContentTables := do
  let f ← Fields.of? true ["npcs", "storylets"] d
  let npcs ← f.defaulted "npcs" [] (Datum.asList? Npc.ofDatum?)
  let storylets ← f.defaulted "storylets" [] (Datum.asList? StoryletTable.ofDatum?)
  return { npcs, storylets }

end ContentTables

end LifeStory
