import LifeStory.Stats.Ledger
import LifeStory.Datum.Fields
import LifeStory.Text.Blank

/-!
# The player

What is chosen when a game starts. A raw choice, as it comes from outside, is checked and trimmed
by `Player.ofRaw`; `Player.fault?` says why a player cannot play, however it was made.
-/

namespace LifeStory

/-- A starting temperament. -/
inductive Archetype where
  | storyteller
  | analyst
  | dreamer
  | challenger
deriving DecidableEq, Repr

namespace Archetype

def all : List Archetype := [.storyteller, .analyst, .dreamer, .challenger]

def name : Archetype → String
  | storyteller => "STORYTELLER"
  | analyst => "ANALYST"
  | dreamer => "DREAMER"
  | challenger => "CHALLENGER"

/-- The archetype with a name, in whatever case and between blanks. -/
def named? (s : String) : Option Archetype :=
  all.find? fun a => a.name == Text.upper (Text.trim s)

/-- What the temperament changes in the ledger of a new character. -/
def nudges : Archetype → List (StatKind × Int32)
  | storyteller => [(.charisma, 5), (.curiosity, 5)]
  | analyst => [(.intelligence, 8), (.charisma, -3)]
  | dreamer => [(.curiosity, 8), (.stability, -3)]
  | challenger => [(.strength, 6), (.stability, 2), (.wisdom, -3)]

def toDatum (a : Archetype) : Datum := .text a.name

def ofDatum? : Datum → Option Archetype := Datum.asName? (all.map fun a => (a.name, a))

end Archetype

/-- How hard losses land. -/
inductive Difficulty where
  | relaxed
  | balanced
  | harsh
deriving DecidableEq, Repr

namespace Difficulty

def all : List Difficulty := [.relaxed, .balanced, .harsh]

def name : Difficulty → String
  | relaxed => "RELAXED"
  | balanced => "BALANCED"
  | harsh => "HARSH"

/-- The difficulty with a name, in whatever case and between blanks. -/
def named? (s : String) : Option Difficulty :=
  all.find? fun d => d.name == Text.upper (Text.trim s)

/-- Losses are halved toward zero when relaxed; when harsh, half of them, rounded up, is added.
Gains are never changed. -/
def scale (d : Difficulty) (amount : Int32) : Int32 :=
  if 0 ≤ amount then amount
  else match d with
  | relaxed => amount / 2
  | balanced => amount
  | harsh => Word.satSub amount (Word.satAdd (Word.satNeg amount) 1 / 2)

def toDatum (d : Difficulty) : Datum := .text d.name

def ofDatum? : Datum → Option Difficulty := Datum.asName? (all.map fun d => (d.name, d))

end Difficulty

/-- Why a player cannot play. -/
inductive PlayerFault where
  | nameMissing
  | archetypeMissing
  | archetypeUnknown (given : String)
  | difficultyMissing
  | difficultyUnknown (given : String)
  | nameEmpty
  | nameTooLong
  | nameWithControls
deriving DecidableEq, Repr

namespace PlayerFault

def message : PlayerFault → String
  | nameMissing => "name is required"
  | archetypeMissing => "archetype is required"
  | archetypeUnknown given => s!"unknown archetype '{given}'"
  | difficultyMissing => "difficulty is required"
  | difficultyUnknown given => s!"unknown difficulty '{given}'"
  | nameEmpty => "name must not be empty"
  | nameTooLong => "name longer than 40 characters"
  | nameWithControls => "name contains control characters"

end PlayerFault

/-- A player. -/
structure Player where
  name : String
  pronouns : Option String
  archetype : Archetype
  difficulty : Difficulty
  /-- Are mature storylets allowed? -/
  contentMode : Bool
deriving DecidableEq, Repr

/-- A player as chosen outside; anything may be missing. -/
structure RawPlayer where
  name : Option String
  pronouns : Option String
  archetype : Option String
  difficulty : Option String
  contentMode : Option Bool
deriving DecidableEq, Repr

namespace Player

/-- The greatest number of characters in a name. -/
def maxNameLength : Nat := 40

/-- The first thing that is wrong with a player. Blanks around the name do not count. -/
def fault? (p : Player) : Option PlayerFault :=
  let name := Text.trimList p.name.toList
  if name.isEmpty then some .nameEmpty
  else if maxNameLength < name.length then some .nameTooLong
  else if name.any Text.isControl then some .nameWithControls
  else none

/-- A trimmed text; none if nothing is left of it. -/
def nonBlank? (s : String) : Option String :=
  let t := Text.trim s
  if t.isEmpty then none else some t

/-- The player that a raw choice means. -/
def ofRaw (raw : RawPlayer) : Except PlayerFault Player := do
  let some name := raw.name.bind nonBlank? | throw .nameMissing
  let some archetypeGiven := raw.archetype | throw .archetypeMissing
  let some archetype := Archetype.named? archetypeGiven | throw (.archetypeUnknown archetypeGiven)
  let some difficultyGiven := raw.difficulty | throw .difficultyMissing
  let some difficulty := Difficulty.named? difficultyGiven
    | throw (.difficultyUnknown difficultyGiven)
  let player : Player :=
    { name, pronouns := raw.pronouns.bind nonBlank?, archetype, difficulty
      contentMode := raw.contentMode.getD false }
  match player.fault? with
  | some fault => throw fault
  | none => return player

/-- The ledger of a new character. -/
def startingStats (p : Player) : StatLedger :=
  p.archetype.nudges.foldl (fun l (k, amount) => l.applyDelta k amount) .resting

/-! ## Data -/

def toDatum (p : Player) : Datum :=
  .table [
    ("name", .text p.name),
    ("pronouns", .ofOption .text p.pronouns),
    ("archetype", p.archetype.toDatum),
    ("difficulty", p.difficulty.toDatum),
    ("content_mode", .bool p.contentMode)]

def ofDatum? (d : Datum) : Option Player := do
  let f ← Fields.of? false ["name", "pronouns", "archetype", "difficulty", "content_mode"] d
  let name ← f.required "name" Datum.asText?
  let pronouns ← f.optional "pronouns" Datum.asText?
  let archetype ← f.required "archetype" Archetype.ofDatum?
  let difficulty ← f.required "difficulty" Difficulty.ofDatum?
  let contentMode ← f.required "content_mode" Datum.asBool?
  return { name, pronouns, archetype, difficulty, contentMode }

end Player

namespace RawPlayer

def ofDatum? (d : Datum) : Option RawPlayer := do
  let f ← Fields.of? false ["name", "pronouns", "archetype", "difficulty", "contentMode"] d
  let name ← f.optional "name" Datum.asText?
  let pronouns ← f.optional "pronouns" Datum.asText?
  let archetype ← f.optional "archetype" Datum.asText?
  let difficulty ← f.optional "difficulty" Datum.asText?
  let contentMode ← f.optional "contentMode" Datum.asBool?
  return { name, pronouns, archetype, difficulty, contentMode }

end RawPlayer

end LifeStory
