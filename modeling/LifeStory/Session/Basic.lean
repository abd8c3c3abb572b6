import LifeStory.Director
import LifeStory.Document
import LifeStory.Session.Journal

/-!
# Sessions

A session is one life being played. Two operations change it: time passes (`step`), or a choice
is made on the active event (`choose`), which may let time pass as well. An operation gives the
session that it leaves behind, also where it fails, and every operation that succeeds is logged.

When time passes, the days that are over take their heat and let mood and energy drift; then the
active event closes if its time is over; then the director has one chance to open another. The
director looks at the hour: where that cannot be read the operation crashes, and what was done
before stays done.
-/

namespace LifeStory

open LifeStory.Random (Stream)

/-- A life being played. -/
structure Session where
  config : Config
  catalog : Catalog
  player : Player
  clock : Clock
  world : World
  director : Director
  stream : Stream
  /-- The operations that succeeded, newest first. -/
  log : List JournalEntry

/-- Is there room for what a session keeps, the storylets that finished last and the memories? -/
def Config.Roomy (c : Config) : Prop :=
  Window.Roomy StoryHistory.itemBytes c.historyLength.toNat ∧
    Window.Roomy MemoryLog.itemBytes c.memoryCapacity.toNat

instance (c : Config) : Decidable c.Roomy :=
  inferInstanceAs (Decidable (_ ∧ _))

namespace Session

/-! ## Readings -/

def lifeStage (s : Session) : LifeStage := s.clock.lifeStage s.config.lifeStages

/-- What the director sees. -/
def situation (s : Session) (lapsed : Option StoryletId) : Situation where
  stats := s.world.stats
  relationships := s.world.relationships
  pressure := s.world.pressure
  age := s.clock.age
  stage := s.lifeStage
  period := s.clock.timePeriod
  now := s.clock.tick
  ticksPerDay := s.clock.ticksPerDay
  contentMode := s.player.contentMode
  lapsed := lapsed

def journal (s : Session) : Journal where
  version := ArgumentFault.knownJournalVersion
  seed := s.stream.seed
  player := s.player
  config := s.config
  entries := s.log.reverse

/-! ## Parts of the operations -/

/-- One chance for the director to open an event, at an hour that can be read. -/
def pass (s : Session) (lapsed : Option StoryletId) : Session :=
  let (director, stream) := s.director.pass s.catalog (s.situation lapsed) s.config s.stream
  { s with director, stream }

/-- Reads the hour, then gives the director its chance. -/
def look (s : Session) (lapsed : Option StoryletId) : Except Failure Unit × Session :=
  if s.clock.HourFits then (.ok (), s.pass lapsed) else (.error (.crashed .hourOverflow), s)

/-- What the days between two readings of the clock do to the world. -/
def spendDays (s : Session) (days : UInt64) : Session :=
  if days = 0 then s
  else
    let world : World :=
      { s.world with
        pressure := s.world.pressure.decayHeat days s.config.heatDecayPerDay
        stats := s.world.stats.drift days s.config.moodRegressionPerDay
          s.config.energyRecoveryPerDay }
    { s with world }

/-- Closes the active event if its time is over. -/
def expire (s : Session) : Session × Option StoryletId :=
  let (director, memories, lapsed) := s.director.expire s.catalog s.world.memories s.clock.tick
  ({ s with director, world := { s.world with memories } }, lapsed)

/-- Lets time pass. -/
def advance (s : Session) (ticks : UInt64) : Except Failure Unit × Session :=
  let clock := s.clock.advance ticks
  let (s, lapsed) := ({ s with clock }.spendDays (clock.daysSince s.clock)).expire
  s.look lapsed

/-- Remembers the heat at which an operation begins. -/
def beginOperation (s : Session) : Session :=
  { s with world := { s.world with pressure := s.world.pressure.beginOperation } }

/-- Logs an operation. -/
def record (s : Session) (entry : JournalEntry) : Session := { s with log := entry :: s.log }

/-- Logs an operation unless it failed. -/
def recorded (entry : JournalEntry) : Except Failure Unit × Session → Except Failure Unit × Session
  | (.error failure, s) => (.error failure, s)
  | (.ok (), s) => (.ok (), s.record entry)

/-- The session after an operation, unless it fails. -/
def succeeded : Except Failure Unit × Session → Except Failure Session
  | (.ok (), s) => .ok s
  | (.error failure, _) => .error failure

/-- A tick count that is not negative. -/
def checkTicks (argument : String) (ticks : Int64) : Except GameError UInt64 :=
  if ticks < 0 then .error (.argument (.negativeTicks argument ticks)) else .ok ticks.toUInt64

/-! ## Operations -/

/-- A session at tick zero, before the director has looked at it. -/
def fresh (seed : UInt64) (player : Player) (catalog : Catalog) (config : Config) : Session where
  config := config
  catalog := catalog
  player := player
  clock := config.clock
  world :=
    { stats := player.startingStats
      relationships := .empty
      pressure := .initial
      memories := .empty config.memoryCapacity.toNat }
  director := .initial config.historyLength.toNat
  stream := .ofSeed seed
  log := []

/-- Starts a game. The director has one chance to open an event at tick zero. -/
def start (seed : UInt64) (player : Player) (catalog : Catalog) (config : Config) :
    Except Failure Session := do
  let config ← config.checked.mapError .refused
  match player.fault? with
  | some fault => throw (.refused (.player fault))
  | none =>
    if config.Roomy then succeeded ((fresh seed player catalog config).look none)
    else throw (.crashed .capacityOverflow)

/-- Starts a game of a player as chosen outside. -/
def startRaw (seed : UInt64) (raw : RawPlayer) (catalog : Catalog) (config : Config) :
    Except Failure Session := do
  let player ← (Player.ofRaw raw).mapError fun fault => .refused (.player fault)
  start seed player catalog config

/-- Lets some ticks pass. -/
def step (s : Session) (ticks : Int64) : Except Failure Unit × Session :=
  match checkTicks "ticks" ticks with
  | .error e => (.error (.refused e), s)
  | .ok n => recorded (.step n) (s.beginOperation.advance n)

/-- Makes a choice on the active event, then lets some ticks pass. Without any, the director does
not look at what comes next. -/
def choose (s : Session) (storylet : StoryletId) (choice : ChoiceId) (ticksAfter : Int64) :
    Except Failure Unit × Session :=
  match s.director.validate storylet choice, checkTicks "ticks_after" ticksAfter with
  | .error e, _ => (.error (.refused e), s)
  | .ok _, .error e => (.error (.refused e), s)
  | .ok _, .ok n =>
    let s := s.beginOperation
    match s.director.resolve s.catalog storylet choice s.config s.player.difficulty s.clock.tick
      s.world s.stream with
    | .error e => (.error (.refused e), s)
    | .ok (director, world, stream) =>
      let s := { s with director, world, stream }
      recorded (.choose storylet choice n) (if n = 0 then (.ok (), s) else s.advance n)

end Session

end LifeStory
