import LifeStory.Content.Builtin
import LifeStory.Disk
import LifeStory.Host.Engine
import LifeStory.Text.Integer

/-!
# The console

A game for one player at a terminal, over the built-in content. A line is a command with an
argument. The console itself touches no file: where a command needs one, its `Reply` says which,
and the outcome is given back. An operation that crashes ends the console.
-/

namespace LifeStory

/-- A console with its engine. -/
structure Console where
  engine : Engine
  /-- The name of the player as it was given. -/
  name : String

namespace Console

/-- What a line leads to. -/
inductive Reply where
  /-- A text is shown. -/
  | say (text : String) (console : Console)
  /-- A text is to be saved; `afterSave` takes the outcome. -/
  | save (path text : String)
  /-- A text is to be read; `afterLoad` takes the outcome. -/
  | load (path : String)
  | quit
  | crash (crash : Crash)

/-! ## Screens -/

/-- Lines as a text. -/
def lines (ls : List String) : String := String.join (ls.map (· ++ "\n"))

def eventLines (e : EventView) : List String :=
  ["", s!"*** {e.title} ***"] ++
  (if e.body.isEmpty then [] else [e.body]) ++
  e.choices.map (fun c => s!"  [{c.id}] {c.label}") ++
  [s!"(expires at tick {e.expiresAt})"]

def relationshipLine (r : RelationshipSummary) : String :=
  let strength := Numeral.tenths "+" r.strength
  s!"  {r.name} - {r.role.label} ({strength})"

def statusLines (s : Snapshot) : List String :=
  ["",
    s!"--- Day {s.day} | Age {s.age} ({s.stage.name}) | Mood: {s.mood.name} | Karma: {s.karma} ---",
    s!"  Health {s.stats.health} | Energy {s.stats.energy} | Wealth {s.stats.wealth} | " ++
      s!"Charisma {s.stats.charisma} | Curiosity {s.stats.curiosity}"] ++
  (s.relationships.take 3).map relationshipLine ++
  (s.memories.take 1).map (fun memory => s!"  Last memory: {memory}") ++
  match s.event with
  | none => []
  | some e => eventLines e

def bannerLines (seed : UInt64) (name : String) : List String :=
  ["",
    "=== LIFESIM ===",
    s!"Seed {seed} | {name}",
    "",
    "Commands:",
    "  tick / t          - Advance one hour",
    "  step <n>          - Advance n hours",
    "  choose <id> / c   - Pick a choice on the current event",
    "  status / s        - Show a short status",
    "  full / f          - Show the full character sheet (JSON)",
    "  save <path>       - Save the session journal",
    "  load <path>       - Replay a saved journal",
    "  quit / q          - Exit",
    ""]

def prompt : String := "> "

def helpText : String :=
  "Unknown command. Available: tick, step <n>, choose <id>, status, full, " ++
    "save <path>, load <path>, quit\n"

def errorText (e : GameError) : String := s!"Error ({e.kind.name}): {e.message}\n"

/-- What is said when no game can be started. -/
def startFailure : GameError → String
  | .player fault => s!"Error: InvalidConfig(\"{fault.message}\")"
  | e => s!"Error: {e.message}"

/-- What is said in the end. -/
def farewell (c : Console) : String :=
  match c.engine.read Session.snapshot with
  | .error _ => ""
  | .ok s => s!"\nGoodbye! {c.name} reached age {s.age} on day {s.day}.\n"

/-! ## Commands -/

/-- A console with a new game, and what it shows first. The arguments are a seed and a name. -/
def start (args : List String) : Except Failure (Console × String) := do
  let seed := (args[0]?.bind Text.readUInt64?).getD 42
  let name := args[1]?.getD "Alex"
  let raw : RawPlayer :=
    { name := some name, pronouns := none, archetype := some Archetype.storyteller.name
      difficulty := some Difficulty.balanced.name, contentMode := some false }
  let (result, engine) := (Engine.create Catalog.builtin {}).newGame seed raw
  let snapshot ← result
  return ({ engine, name }, lines (bannerLines seed name) ++ lines (statusLines snapshot))

/-- What is shown after an operation. -/
def outcomeText : Except GameError Snapshot → String
  | .error e => errorText e
  | .ok s => lines (statusLines s)

/-- What is shown after an operation, and the console then, unless it crashed. -/
def outcome (c : Console) : Except Failure Snapshot × Engine → Except Crash (String × Console)
  | (.error (.crashed crash), _) => .error crash
  | (.error (.refused e), engine) => .ok (outcomeText (.error e), { c with engine })
  | (.ok s, engine) => .ok (outcomeText (.ok s), { c with engine })

/-- Shows the outcome of an operation. -/
def operate (c : Console) (op : Except Failure Snapshot × Engine) : Reply :=
  match c.outcome op with
  | .error crash => .crash crash
  | .ok (text, c) => .say text c

/-- Makes a choice on the event that is open. -/
def choose (c : Console) (choice : String) : Reply :=
  match c.engine.read Session.currentEvent with
  | .ok (some e) => c.operate (c.engine.choose e.storylet choice 0)
  | _ => .say "Nothing to choose right now.\n" c

/-- The command and its argument. -/
def split (line : String) : String × String :=
  let cs := Text.trimList line.toList
  (String.ofList (cs.takeWhile (· != ' ')),
    String.ofList (Text.trimList (cs.dropWhile (· != ' '))))

/-- Carries out a line. -/
def obey (c : Console) (line : String) : Reply :=
  match split line with
  | ("", _) => .say "" c
  | ("quit", _) | ("q", _) => .quit
  | ("tick", _) | ("t", _) => c.operate (c.engine.step 1)
  | ("step", argument) =>
    match Text.readInt64? argument with
    | some n => c.operate (c.engine.step n)
    | none => .say "Usage: step <hours>\n" c
  | ("choose", argument) | ("c", argument) => c.choose argument
  | ("status", _) | ("s", _) => .say (outcomeText (c.engine.read Session.snapshot)) c
  | ("full", _) | ("f", _) =>
    match c.engine.read Session.fullSnapshot with
    | .error e => .say (errorText e) c
    | .ok s => .say (Json.pretty s.toDatum ++ "\n") c
  | (command, argument) =>
    if command == "save" && !argument.isEmpty then
      match c.engine.save with
      | .error e => .say (errorText e) c
      | .ok text => .save argument text
    else if command == "load" && !argument.isEmpty then .load argument
    else .say helpText c

/-- What is shown after a text was saved, or not. -/
def afterSave (path : String) : Except FileFault Unit → String
  | .error fault => errorText (.file fault)
  | .ok () => s!"Saved journal to {path}\n"

/-- What is shown after a text was read, or not, and the console then, unless it crashed. -/
def afterLoad (c : Console) (source : Except FileFault String) : Except Crash (String × Console) :=
  c.outcome (c.engine.load source)

/-! ## Transcripts -/

/-- What is shown in a conversation, and whether it crashed. -/
structure Transcript where
  shown : List String
  crash : Option Crash

/-- The transcript with a text in front. -/
def Transcript.after (text : String) (t : Transcript) : Transcript :=
  { t with shown := text :: t.shown }

/-- What is shown for some lines, on a disk. -/
def transcript (c : Console) (disk : Disk) : List String → Transcript
  | [] => ⟨[prompt, c.farewell], none⟩
  | line :: rest =>
    .after prompt <|
    match c.obey line with
    | .quit => ⟨[c.farewell], none⟩
    | .crash crash => ⟨[], some crash⟩
    | .say text c => .after text (c.transcript disk rest)
    | .save path text =>
      match disk.write path text with
      | .error fault => .after (afterSave path (.error fault)) (c.transcript disk rest)
      | .ok disk => .after (afterSave path (.ok ())) (c.transcript disk rest)
    | .load path =>
      match c.afterLoad (disk.read path) with
      | .error crash => ⟨[], some crash⟩
      | .ok (text, c) => .after text (c.transcript disk rest)

/-- The lines of a text; the last one may lack its end. -/
def inputLines (text : String) : List String :=
  let pieces := text.splitOn "\n"
  if pieces.getLast? = some "" then pieces.dropLast else pieces

/-- Everything that is shown for an input, in an empty folder, and whether it ends in a crash. -/
def play (args : List String) (input : String) : Except Failure (String × Option Crash) := do
  let (c, banner) ← start args
  let t := c.transcript .standard (inputLines input)
  return (banner ++ String.join t.shown, t.crash)

end Console

end LifeStory
