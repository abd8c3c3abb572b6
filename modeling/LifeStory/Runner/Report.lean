import LifeStory.Content.Builtin
import LifeStory.Disk
import LifeStory.Runner.Options
import LifeStory.Runner.Summary

/-!
# Runs of many lives

A run plays one life per seed and reports all of them. What is wrong with the configuration is
found before what is wrong with the content, and that before what is wrong with the character.
-/

namespace LifeStory.Runner

/-- What a run needs, once its files are read and its names are known. -/
structure Setup where
  config : Config
  catalog : Catalog
  player : Player

/-- What a run makes. -/
structure Report where
  text : String
  /-- The journals, with the names of their files. -/
  journals : List (String × String)

/-- What a program run from a command line leaves behind. -/
structure Outcome where
  exitCode : Nat
  out : String
  err : String
  disk : Disk

/-- The configuration, the catalog and the character of a run; `read` gives the text of a file. -/
def setup (o : Options) (read : String → Except FileFault String) : Except GameError Setup := do
  let config ←
    match o.config with
    | none => pure {}
    | some path => Config.ofDocument (← (read path).mapError .file)
  let catalog ←
    match o.content with
    | none => pure Catalog.builtin
    | some path => Catalog.ofDocument (← (read path).mapError .file)
  let some archetype := Archetype.named? o.archetype
    | throw (.player (.archetypeUnknown o.archetype))
  let some difficulty := Difficulty.named? o.difficulty
    | throw (.player (.difficultyUnknown o.difficulty))
  let player : Player :=
    { name := "Runner", pronouns := none, archetype, difficulty, contentMode := o.contentMode }
  return { config, catalog, player }

/-- The seeds of a run, at least one. -/
def seeds (o : Options) (anySeed : UInt64) : List UInt64 :=
  (List.range (max o.seeds.toNat 1)).map fun i => o.seed.getD anySeed + UInt64.ofNat i

/-- The text of some summaries: a line for each, or data, one summary without a list around it. -/
def reportText (format : ReportFormat) (summaries : List Summary) : String :=
  match format, summaries with
  | .text, _ => String.join (summaries.map fun s => s.line ++ "\n")
  | .json, [s] => Json.pretty s.toDatum ++ "\n"
  | .json, _ => Json.pretty (.list (summaries.map Summary.toDatum)) ++ "\n"

/-- The name of the file for the journal of a life. -/
def journalName (seed : UInt64) : String := s!"life_{seed}.json"

/-- Plays all lives of a run. -/
def play (o : Options) (setup : Setup) (anySeed : UInt64) : Except Failure Report := do
  let sessions ← (seeds o anySeed).mapM fun seed =>
    playLife o.policy o.days.toNat seed setup.player setup.catalog setup.config
  return {
    text := reportText o.format (sessions.map fun s => .ofSession s o.days)
    journals :=
      if o.journalFolder.isNone then []
      else sessions.map fun s => (journalName s.stream.seed, s.journal.toText) }

/-- What the options make of the files that `read` gives. -/
def report (o : Options) (read : String → Except FileFault String) (anySeed : UInt64) :
    Except Failure Report := do
  let setup ← (setup o read).mapError .refused
  play o setup anySeed

/-- The disk with the journals of a run. -/
def saveJournals (disk : Disk) (o : Options) (r : Report) : Except GameError Disk :=
  let folder := o.journalFolder.getD "."
  r.journals.foldlM (fun disk (name, text) =>
    (disk.write s!"{folder}/{name}" text).mapError .file) disk

/-- What is said of a run that fails. -/
def failureText (e : GameError) : String := s!"life_runner failed: {e.message}\n"

/-- The exit code for arguments that are no options. -/
def usageExitCode : Nat := 2

/-- A run on a disk. -/
def run (args : List String) (disk : Disk) (anySeed : UInt64) : Outcome :=
  match Options.parse? args with
  | none => ⟨usageExitCode, "", "", disk⟩
  | some o =>
    let result : Except Failure (Report × Disk) := do
      let report ← report o disk.read anySeed
      return (report, ← (saveJournals disk o report).mapError .refused)
    match result with
    | .error (.crashed crash) => ⟨Crash.exitCode.toNat, "", crash.message ++ "\n", disk⟩
    | .error (.refused e) => ⟨1, "", failureText e, disk⟩
    | .ok (report, disk) => ⟨0, report.text, "", disk⟩

end LifeStory.Runner
