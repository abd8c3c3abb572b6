import LifeStory.Session.Snapshot

/-!
# Session tables

A table has a catalog and a configuration, and any number of sessions, each under a handle. A new
session comes with a fresh handle from outside. An operation on a handle that has no session fails
and changes nothing. A session whose operation crashed is poisoned: it stays in the table, but every
further operation on it is refused until it is removed.
-/

namespace LifeStory

/-- What a handle of a table stands for. -/
inductive Slot where
  | sound (session : Session)
  /-- An operation crashed halfway. -/
  | poisoned

/-- A host of many sessions. -/
structure SessionTable where
  catalog : Catalog
  config : Config
  /-- The sessions with their handles, newest first. -/
  slots : List (SessionHandle × Slot)

namespace Slot

/-- The slot that an operation of a session leaves behind. -/
def after : Except Failure Unit × Session → Slot
  | (.error (.crashed _), _) => .poisoned
  | (_, s) => .sound s

end Slot

namespace SessionTable

/-- A table without sessions. -/
def empty (catalog : Catalog) (config : Config) : SessionTable := ⟨catalog, config, []⟩

def get? (t : SessionTable) (h : SessionHandle) : Option Slot := t.slots.lookup h

def size (t : SessionTable) : Nat := t.slots.length

/-- The handles of all sessions, oldest first. -/
def handles (t : SessionTable) : List SessionHandle := (t.slots.map Prod.fst).reverse

/-- The slots of all other handles. -/
def others (t : SessionTable) (h : SessionHandle) : List (SessionHandle × Slot) :=
  t.slots.filter fun entry => entry.1 != h

/-- The table with another slot under a handle that has one. -/
def replace (t : SessionTable) (h : SessionHandle) (slot : Slot) : SessionTable :=
  { t with slots := t.slots.map fun entry => if entry.1 == h then (h, slot) else entry }

/-- Starts a session under a fresh handle. -/
def create (t : SessionTable) (fresh : SessionHandle) (seed : UInt64) (raw : RawPlayer) :
    Except Failure (SessionHandle × Snapshot) × SessionTable :=
  match Session.startRaw seed raw t.catalog t.config with
  | .error failure => (.error failure, t)
  | .ok s => (.ok (fresh, s.snapshot), { t with slots := (fresh, .sound s) :: t.others fresh })

/-- Reads something off a session. -/
def read {α : Type} (t : SessionTable) (h : SessionHandle) (f : Session → α) :
    Except GameError α :=
  match t.get? h with
  | none => .error (.unknownSession h)
  | some .poisoned => .error (.sessionPoisoned h)
  | some (.sound s) => .ok (f s)

/-- Does an operation of a session, and shows the session after it. -/
def operate (t : SessionTable) (h : SessionHandle)
    (op : Session → Except Failure Unit × Session) : Except Failure Snapshot × SessionTable :=
  match t.get? h with
  | none => (.error (.refused (.unknownSession h)), t)
  | some .poisoned => (.error (.refused (.sessionPoisoned h)), t)
  | some (.sound s) =>
    let result := op s
    (result.1.map fun _ => result.2.snapshot, t.replace h (.after result))

def step (t : SessionTable) (h : SessionHandle) (ticks : Int64) :
    Except Failure Snapshot × SessionTable :=
  t.operate h fun s => s.step ticks

def choose (t : SessionTable) (h : SessionHandle) (storylet : StoryletId) (choice : ChoiceId)
    (ticksAfter : Int64) : Except Failure Snapshot × SessionTable :=
  t.operate h fun s => s.choose storylet choice ticksAfter

/-- Ends a session. -/
def remove (t : SessionTable) (h : SessionHandle) : Except GameError Unit × SessionTable :=
  match t.get? h with
  | none => (.error (.unknownSession h), t)
  | some _ => (.ok (), { t with slots := t.others h })

end SessionTable

end LifeStory
