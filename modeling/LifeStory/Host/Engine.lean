import LifeStory.Session.Replay
import LifeStory.Session.Snapshot

/-!
# The engine

An engine has a catalog and a configuration, and at most one session. Until a game is started or
a journal loaded, every other operation fails. A game that cannot be started and a journal that
cannot be loaded leave the session that was there.
-/

namespace LifeStory

/-- A host of one session. -/
structure Engine where
  catalog : Catalog
  config : Config
  session : Option Session

namespace Engine

/-- An engine without a session. -/
def create (catalog : Catalog) (config : Config) : Engine := ⟨catalog, config, none⟩

def hasSession (e : Engine) : Bool := e.session.isSome

/-- Reads something off the session. -/
def read {α : Type} (e : Engine) (f : Session → α) : Except GameError α :=
  match e.session with
  | none => .error .uninitialized
  | some s => .ok (f s)

/-- Does an operation of the session, and shows the session after it. -/
def operate (e : Engine) (op : Session → Except Failure Unit × Session) :
    Except Failure Snapshot × Engine :=
  match e.session with
  | none => (.error (.refused .uninitialized), e)
  | some s =>
    let (result, s) := op s
    (result.map fun _ => s.snapshot, { e with session := some s })

/-- Puts a session in the place of the one that was there, if there is a new one. -/
def install (e : Engine) (made : Except Failure Session) : Except Failure Snapshot × Engine :=
  match made with
  | .error failure => (.error failure, e)
  | .ok s => (.ok s.snapshot, { e with session := some s })

/-- Starts a game. -/
def newGame (e : Engine) (seed : UInt64) (raw : RawPlayer) : Except Failure Snapshot × Engine :=
  e.install (Session.startRaw seed raw e.catalog e.config)

def step (e : Engine) (ticks : Int64) : Except Failure Snapshot × Engine :=
  e.operate fun s => s.step ticks

def choose (e : Engine) (storylet : StoryletId) (choice : ChoiceId) (ticksAfter : Int64) :
    Except Failure Snapshot × Engine :=
  e.operate fun s => s.choose storylet choice ticksAfter

/-- The text that saves the session. -/
def save (e : Engine) : Except GameError String := e.read fun s => s.journal.toText

/-- Plays a saved journal again; `source` is what reading its file gave. -/
def load (e : Engine) (source : Except FileFault String) : Except Failure Snapshot × Engine :=
  e.install <| do
    let text ← source.mapError fun fault => .refused (.file fault)
    let journal ← (Journal.ofText text).mapError .refused
    Session.replay journal e.catalog

end Engine

end LifeStory
