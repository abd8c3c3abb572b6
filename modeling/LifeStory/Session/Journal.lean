import LifeStory.Config.Data
import LifeStory.Error
import LifeStory.Json.Printer
import LifeStory.Json.Reader
import LifeStory.Storylet.Basic

/-!
# Journals

A journal is all that has to be kept of a session: the seed, the player, the configuration, and
what was done, in order. It is saved as text. A journal of another version can be read but is
refused.
-/

namespace LifeStory

/-- An operation that succeeded. -/
inductive JournalEntry where
  | step (ticks : UInt64)
  | choose (storylet : StoryletId) (choice : ChoiceId) (ticksAfter : UInt64)
deriving DecidableEq, Repr

namespace JournalEntry

/-- The time that passed. -/
def ticks : JournalEntry → UInt64
  | step n => n
  | choose _ _ n => n

def toDatum : JournalEntry → Datum
  | step n => .table [("op", .text "step"), ("ticks", .word n)]
  | choose s c n =>
    .table [
      ("op", .text "choose"),
      ("storylet_id", .text s),
      ("choice_id", .text c),
      ("ticks_after", .word n)]

/-- The kind of an entry and its fields. -/
def tagged? : Datum → Option (String × Datum)
  | .table members =>
    match members.partition fun m => m.1 == "op" with
    | ([(_, .text kind)], fields) =>
      if fields.all fun m => m.2.fits contentDepth then some (kind, .table fields) else none
    | _ => none
  | .list (.text kind :: fields) =>
    if fields.all (Datum.fits contentDepth) then some (kind, .list fields) else none
  | _ => none
where
  /-- How deep the fields of an entry may be nested. -/
  contentDepth : Nat := 124

def ofDatum? (d : Datum) : Option JournalEntry := do
  let (kind, content) ← tagged? d
  match kind with
  | "step" =>
    let f ← Fields.of? false ["ticks"] content
    let ticks ← f.required "ticks" (Datum.asWord? UInt64)
    return .step ticks
  | "choose" =>
    let f ← Fields.of? false ["storylet_id", "choice_id", "ticks_after"] content
    let storylet ← f.required "storylet_id" Datum.asText?
    let choice ← f.required "choice_id" Datum.asText?
    let ticksAfter ← f.required "ticks_after" (Datum.asWord? UInt64)
    return .choose storylet choice ticksAfter
  | _ => none

end JournalEntry

/-- The record of a session. -/
structure Journal where
  version : UInt32
  seed : UInt64
  player : Player
  config : Config
  /-- Oldest first. -/
  entries : List JournalEntry

namespace Journal

/-- The time that passed in all entries; it stops at the greatest word. -/
def totalTicks (j : Journal) : UInt64 :=
  j.entries.foldl (fun total e => Word.satAdd total e.ticks) 0

def toDatum (j : Journal) : Datum :=
  .table [
    ("version", .word j.version),
    ("seed", .word j.seed),
    ("player", j.player.toDatum),
    ("config", j.config.toDatum),
    ("entries", .list (j.entries.map JournalEntry.toDatum))]

def ofDatum? (d : Datum) : Option Journal := do
  let f ← Fields.of? false ["version", "seed", "player", "config", "entries"] d
  let version ← f.required "version" (Datum.asWord? UInt32)
  let seed ← f.required "seed" (Datum.asWord? UInt64)
  let player ← f.required "player" Player.ofDatum?
  let config ← f.required "config" (Config.ofDatum? false)
  let entries ← f.required "entries" (Datum.asList? JournalEntry.ofDatum?)
  return { version, seed, player, config, entries }

/-- The saved form. -/
def toText (j : Journal) : String := Json.pretty j.toDatum

/-- The journal that a text saves. -/
def ofText (s : String) : Except GameError Journal :=
  match (Json.read? s).bind ofDatum? with
  | none => .error (.journalText (if s.isEmpty then .empty else .malformed))
  | some j =>
    if j.version = ArgumentFault.knownJournalVersion then .ok j
    else .error (.argument (.journalVersion j.version))

end Journal

end LifeStory
