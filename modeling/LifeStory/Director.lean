import LifeStory.Catalog.Basic
import LifeStory.Config.Basic
import LifeStory.Error
import LifeStory.Memory
import LifeStory.Player
import LifeStory.Pressure
import LifeStory.Random.Stream
import LifeStory.Selection

/-!
# The director

The director shows one storylet at a time. A pass of an idle director looks at the storylets that
are eligible in a situation (`eligible`); if there are any it draws once whether to show one, and
if so once more which. A shown storylet is an active event until a choice resolves it (`resolve`)
or its time is over (`expire`).

A storylet is eligible unless it is mature and the player does not want that, may be shown only
once and was resolved, finished recently, lapsed just now, is on cooldown, has a condition that
does not hold, or has no choice to offer.
-/

namespace LifeStory

open LifeStory.Random (Stream)

/-- The storylet that is put to the player. -/
structure ActiveEvent where
  storylet : StoryletId
  /-- The choices whose conditions held when the event opened, in order. -/
  offered : List ChoiceId
  activatedAt : Tick
  expiresAt : Tick
deriving DecidableEq, Repr

/-- What a pass looks at, besides what was told before. -/
structure Situation where
  stats : StatLedger
  relationships : RelationshipGraph
  pressure : Pressure
  age : UInt32
  stage : LifeStage
  period : TimePeriod
  now : Tick
  ticksPerDay : UInt64
  contentMode : Bool
  /-- The storylet whose event closed just before the pass. -/
  lapsed : Option StoryletId

/-- What a resolution changes, besides the director. -/
structure World where
  stats : StatLedger
  relationships : RelationshipGraph
  pressure : Pressure
  memories : MemoryLog

/-- An eligible storylet with the choices that it would offer. -/
structure Candidate where
  storylet : Storylet
  offered : List ChoiceId

/-- Is the director free to show something? -/
inductive DirectorState where
  | idle
  | eventActive
deriving DecidableEq, Repr

def DirectorState.name : DirectorState → String
  | idle => "Idle"
  | eventActive => "EventActive"

/-- The active event, if there is one, and what was told. -/
structure Director where
  active : Option ActiveEvent
  history : StoryHistory

namespace Situation

/-- What conditions see. -/
def standing (s : Situation) (history : StoryHistory) : Standing where
  stats := s.stats
  relationships := s.relationships
  history := history
  age := s.age
  stage := s.stage
  period := s.period
  karma := s.pressure.karma
  heat := s.pressure.heat

end Situation

namespace Storylet

/-- The ids of the choices whose conditions hold, in order. -/
def offered (s : Storylet) (standing : Standing) : List ChoiceId :=
  (s.choices.filter fun c => Condition.allHold standing c.conditions).map Choice.id

/-- The weight of the storylet at some heat. -/
def weightAt (s : Storylet) (heat : Float32) (config : Config) : Float :=
  s.weight * Selection.heatFactor config.heatBias config.minWeightFactor (Precision.widen heat)
    (Float.ofNat s.intensity.toNat)

end Storylet

/-- The probability that a pass with eligible storylets shows one. -/
def Config.activationProbability (config : Config) (heat : Float32) : Float :=
  Selection.activation config.activationChance config.heatActivationBonus (Precision.widen heat)

namespace Candidate

/-- The event that opens for a candidate. -/
def event (c : Candidate) (now : Tick) (config : Config) : ActiveEvent where
  storylet := c.storylet.id
  offered := c.offered
  activatedAt := now
  expiresAt := Word.satAdd now (c.storylet.durationHours.getD config.defaultEventHours)

end Candidate

namespace ActiveEvent

def offers (e : ActiveEvent) (choice : ChoiceId) : Bool := e.offered.contains choice

def toDatum (e : ActiveEvent) : Datum :=
  .table [
    ("storylet_id", .text e.storylet),
    ("offered", .texts e.offered),
    ("activated_at", .word e.activatedAt),
    ("expires_at", .word e.expiresAt)]

end ActiveEvent

namespace Director

/-- A director that has shown nothing. -/
def initial (historyLength : Nat) : Director := ⟨none, .empty historyLength⟩

def state (d : Director) : DirectorState :=
  match d.active with
  | none => .idle
  | some _ => .eventActive

/-! ## Passes -/

/-- Is it too soon after the latest resolution? -/
def onCooldown (d : Director) (s : Storylet) (now : Tick) (ticksPerDay : UInt64) : Bool :=
  match d.history.lastResolvedAt? s.id with
  | none => false
  | some resolvedAt =>
    now < Word.satAdd resolvedAt (Word.satMul s.cooldownDays.toUInt64 ticksPerDay)

/-- Does nothing but the choices stand in the way of a storylet? -/
def admits (d : Director) (s : Storylet) (situation : Situation) : Bool :=
  (!s.mature || situation.contentMode) &&
  !(s.once && d.history.wasResolved s.id) &&
  !d.history.isRecent s.id &&
  situation.lapsed != some s.id &&
  !d.onCooldown s situation.now situation.ticksPerDay &&
  Condition.allHold (situation.standing d.history) s.conditions

/-- The storylet with what it would offer, if it is eligible. -/
def candidate? (d : Director) (situation : Situation) (s : Storylet) : Option Candidate :=
  let offered := s.offered (situation.standing d.history)
  if d.admits s situation && !offered.isEmpty then some ⟨s, offered⟩ else none

/-- The eligible storylets, in the order of the catalog. -/
def eligible (d : Director) (catalog : Catalog) (situation : Situation) : List Candidate :=
  catalog.storylets.filterMap (d.candidate? situation)

/-- One chance to show a storylet. Without an eligible one nothing is drawn. -/
def pass (d : Director) (catalog : Catalog) (situation : Situation) (config : Config)
    (stream : Stream) : Director × Stream :=
  match d.active with
  | some _ => (d, stream)
  | none =>
    match d.eligible catalog situation with
    | [] => (d, stream)
    | candidates =>
      let heat := situation.pressure.heat
      let (roll, stream) := stream.unit
      if config.activationProbability heat ≤ roll then (d, stream)
      else
        let (draw, stream) := stream.unit
        let picked := Selection.pick draw <|
          candidates.map fun c => (c, c.storylet.weightAt heat config)
        ({ d with active := picked.map fun c => c.event situation.now config }, stream)

/-! ## Choices -/

/-- The active event, if it is the one that is meant and offers the choice. -/
def validate (d : Director) (storylet : StoryletId) (choice : ChoiceId) :
    Except GameError ActiveEvent :=
  match d.active with
  | none => .error .noActiveEvent
  | some event =>
    if event.storylet ≠ storylet then .error (.eventMismatch event.storylet storylet)
    else if event.offers choice then .ok event
    else .error (.invalidChoice event.storylet choice)

/-- What jitter adds to a change. -/
def drawJitter (d : StatDelta) (stream : Stream) : Int32 × Stream :=
  if 0 < d.jitter then stream.between (-d.jitter) d.jitter else (0, stream)

/-- Applies a change of an attribute, with its jitter and scaled by the difficulty. -/
def applyStat (difficulty : Difficulty) (before : StatLedger × Stream) (d : StatDelta) :
    StatLedger × Stream :=
  let (jitter, stream) := drawJitter d before.2
  (before.1.applyDelta d.stat (difficulty.scale (Word.satAdd d.amount jitter)), stream)

/-- Applies a change of a relationship; someone met for the first time is called by the name in
the catalog. -/
def applyRelationship (catalog : Catalog) (g : RelationshipGraph) (d : RelationshipDelta) :
    RelationshipGraph :=
  g.touch d.npc ((catalog.npcName? d.npc).getD d.npc) d.axis d.amount

/-- The heat that a choice of a storylet adds. -/
def heatGain (s : Storylet) (c : Choice) (config : Config) : Float32 :=
  c.heat + Float32.ofNat s.intensity.toNat * config.heatPerIntensity

/-- What a choice makes of the world. -/
def applyChoice (catalog : Catalog) (config : Config) (difficulty : Difficulty) (now : Tick)
    (s : Storylet) (c : Choice) (world : World) (stream : Stream) : World × Stream :=
  let (stats, stream) := c.stats.foldl (applyStat difficulty) (world.stats, stream)
  let relationships := c.relationships.foldl (applyRelationship catalog) world.relationships
  let pressure := (world.pressure.addKarma c.karma).addHeat (heatGain s c config)
  let memories :=
    match c.memory with
    | some text => MemoryLog.record world.memories now text
    | none => world.memories
  ({ stats, relationships, pressure, memories }, stream)

/-- Makes a choice on the active event. -/
def resolve (d : Director) (catalog : Catalog) (storylet : StoryletId) (choice : ChoiceId)
    (config : Config) (difficulty : Difficulty) (now : Tick) (world : World) (stream : Stream) :
    Except GameError (Director × World × Stream) := do
  let event ← d.validate storylet choice
  let some s := catalog.get? event.storylet | throw (.content (.activeMissing event.storylet))
  let some c := s.choice? choice | throw (.invalidChoice event.storylet choice)
  let (world, stream) := applyChoice catalog config difficulty now s c world stream
  return ({ active := none, history := d.history.recordResolved event.storylet now }, world, stream)

/-! ## Expiry -/

/-- What is remembered of an event that closed without a choice. -/
def lapseText (catalog : Catalog) (id : StoryletId) : String :=
  let title := ((catalog.get? id).map Storylet.title).getD id
  s!"You let \"{title}\" pass."

/-- Closes the active event if its time is over. The third part is the storylet that lapsed. -/
def expire (d : Director) (catalog : Catalog) (memories : MemoryLog) (now : Tick) :
    Director × MemoryLog × Option StoryletId :=
  match d.active with
  | none => (d, memories, none)
  | some event =>
    if event.expiresAt ≤ now then
      ({ active := none, history := d.history.recordExpired event.storylet },
        MemoryLog.record memories now (lapseText catalog event.storylet), some event.storylet)
    else (d, memories, none)

end Director

end LifeStory
