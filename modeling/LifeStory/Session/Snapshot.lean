import LifeStory.Session.Basic

/-!
# Snapshots

What is shown of a session: a short view for the main screen (`Snapshot`), and a long one for the
character sheet (`FullSnapshot`). Both are values of their own and change no more.
-/

namespace LifeStory

/-- A choice that is offered. -/
structure ChoiceView where
  id : ChoiceId
  label : String
deriving DecidableEq, Repr

/-- The active event as it is put to the player. -/
structure EventView where
  storylet : StoryletId
  title : String
  body : String
  intensity : UInt8
  expiresAt : Tick
  choices : List ChoiceView
deriving DecidableEq, Repr

/-- A relationship in short. -/
structure RelationshipSummary where
  npc : NpcId
  name : String
  strength : Float32
  role : Role

/-- What the main screen shows. -/
structure Snapshot where
  tick : Tick
  day : UInt64
  age : UInt32
  stage : LifeStage
  stats : StatLedger
  mood : MoodBand
  karma : Int64
  event : Option EventView
  /-- Ranked by affection and trust, greatest first. -/
  relationships : List RelationshipSummary
  /-- Newest first. -/
  memories : List String

/-- A relationship with all that is read off it. -/
structure RelationshipDetail where
  npc : NpcId
  name : String
  affection : Float32
  trust : Float32
  attraction : Float32
  familiarity : Float32
  resentment : Float32
  bands : AxisBands
  role : Role

structure HeatView where
  value : Float32
  level : HeatLevel
  trend : HeatTrend

structure KarmaView where
  value : Int64
  band : KarmaBand
deriving DecidableEq, Repr

/-- What the character sheet shows. -/
structure FullSnapshot where
  tick : Tick
  day : UInt64
  age : UInt32
  stage : LifeStage
  display : DisplayFlags
  stats : StatLedger
  /-- In first-touch order. -/
  relationships : List RelationshipDetail
  heat : HeatView
  karma : KarmaView
  event : Option EventView
  state : DirectorState

namespace EventView

/-- The view of an event, if its storylet is in the catalog. -/
def of? (e : ActiveEvent) (catalog : Catalog) : Option EventView :=
  (catalog.get? e.storylet).map fun s =>
    { storylet := s.id
      title := s.title
      body := s.body
      intensity := s.intensity
      expiresAt := e.expiresAt
      choices := (e.offered.filterMap s.choice?).map fun c => ⟨c.id, c.label⟩ }

end EventView

namespace RelationshipDetail

/-- What is read off a relationship. -/
def of (r : Relationship) : RelationshipDetail where
  npc := r.npc
  name := r.name
  affection := r.affection
  trust := r.trust
  attraction := r.attraction
  familiarity := r.familiarity
  resentment := r.resentment
  bands := r.bands
  role := r.role

end RelationshipDetail

namespace Session

/-- The active event. -/
def currentEvent (s : Session) : Option EventView :=
  s.director.active.bind fun e => EventView.of? e s.catalog

/-- The choices of the active event, in order. -/
def availableChoices (s : Session) : List ChoiceView :=
  match s.currentEvent with
  | none => []
  | some event => event.choices

def snapshot (s : Session) : Snapshot where
  tick := s.clock.tick
  day := s.clock.day
  age := s.clock.age
  stage := s.lifeStage
  stats := s.world.stats
  mood := .ofMood s.world.stats.mood
  karma := s.world.pressure.karma
  event := s.currentEvent
  relationships := s.world.relationships.ranked.map fun r =>
    { npc := r.npc, name := r.name, strength := r.strength, role := r.role }
  memories :=
    (MemoryLog.recent s.world.memories s.config.snapshotMemoryCount.toNat).map Memory.text

def fullSnapshot (s : Session) : FullSnapshot where
  tick := s.clock.tick
  day := s.clock.day
  age := s.clock.age
  stage := s.lifeStage
  display := s.lifeStage.displayFlags
  stats := s.world.stats
  relationships := s.world.relationships.records.map .of
  heat :=
    { value := s.world.pressure.heat
      level := s.world.pressure.heatLevel
      trend := s.world.pressure.trend }
  karma := { value := s.world.pressure.karma, band := s.world.pressure.karmaBand }
  event := s.currentEvent
  state := s.director.state

end Session

/-! ## Data -/

namespace ChoiceView

def toDatum (c : ChoiceView) : Datum := .table [("id", .text c.id), ("label", .text c.label)]

end ChoiceView

namespace EventView

def toDatum (e : EventView) : Datum :=
  .table [
    ("storylet_id", .text e.storylet),
    ("title", .text e.title),
    ("body", .text e.body),
    ("intensity", .word e.intensity),
    ("expires_at_tick", .word e.expiresAt),
    ("choices", .list (e.choices.map ChoiceView.toDatum))]

end EventView

namespace RelationshipSummary

def toDatum (r : RelationshipSummary) : Datum :=
  .table [
    ("npc_id", .text r.npc),
    ("name", .text r.name),
    ("strength", .single r.strength),
    ("state", .text r.role.name)]

end RelationshipSummary

namespace Snapshot

def toDatum (s : Snapshot) : Datum :=
  .table [
    ("tick", .word s.tick),
    ("day", .word s.day),
    ("age_years", .word s.age),
    ("life_stage", .text s.stage.name),
    ("stats", s.stats.toDatum),
    ("mood_band", .text s.mood.name),
    ("karma", .word s.karma),
    ("current_event", .ofOption EventView.toDatum s.event),
    ("relationships", .list (s.relationships.map RelationshipSummary.toDatum)),
    ("memories", .texts s.memories)]

end Snapshot

namespace DisplayFlags

def toDatum (f : DisplayFlags) : Datum :=
  .table [
    ("show_wealth", .bool f.showWealth),
    ("show_reputation", .bool f.showReputation),
    ("show_wisdom", .bool f.showWisdom),
    ("show_karma", .bool f.showKarma)]

end DisplayFlags

namespace RelationshipDetail

def toDatum (d : RelationshipDetail) : Datum :=
  .table [
    ("npc_id", .text d.npc),
    ("name", .text d.name),
    ("affection", .single d.affection),
    ("trust", .single d.trust),
    ("attraction", .single d.attraction),
    ("familiarity", .single d.familiarity),
    ("resentment", .single d.resentment),
    ("bands", d.bands.toDatum),
    ("role", .text d.role.name)]

end RelationshipDetail

namespace HeatView

def toDatum (h : HeatView) : Datum :=
  .table [
    ("value", .single h.value),
    ("level", .text h.level.name),
    ("trend", .text h.trend.name)]

end HeatView

namespace KarmaView

def toDatum (k : KarmaView) : Datum :=
  .table [("value", .word k.value), ("band", .text k.band.name)]

end KarmaView

namespace FullSnapshot

def toDatum (s : FullSnapshot) : Datum :=
  .table [
    ("tick", .word s.tick),
    ("day", .word s.day),
    ("age_years", .word s.age),
    ("life_stage", .text s.stage.name),
    ("display", s.display.toDatum),
    ("stats", s.stats.toDatum),
    ("relationships", .list (s.relationships.map RelationshipDetail.toDatum)),
    ("heat", s.heat.toDatum),
    ("karma", s.karma.toDatum),
    ("current_event", .ofOption EventView.toDatum s.event),
    ("director_state", .text s.state.name)]

end FullSnapshot

end LifeStory
