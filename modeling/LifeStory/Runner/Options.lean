import LifeStory.Text.Integer
import LifeStory.Runner.Life

/-!
# Options of the runner

Options are given by long names, each at most once, the value after the name or behind an equals
sign. A value that follows its name may not look like an option.
-/

namespace LifeStory.Runner

/-- How lives are reported. -/
inductive ReportFormat where
  | json
  | text
deriving DecidableEq, Repr

/-- What is to be run. -/
structure Options where
  /-- The seed of the first life; any if there is none. -/
  seed : Option UInt64 := none
  /-- The number of lives; their seeds follow each other. -/
  seeds : UInt64 := 1
  /-- The length of a life. -/
  days : UInt64 := 365
  policy : Policy := .first
  archetype : String := "STORYTELLER"
  difficulty : String := "BALANCED"
  contentMode : Bool := false
  /-- The file of the configuration, if not the standard one. -/
  config : Option String := none
  /-- The file of the content, if not the built-in one. -/
  content : Option String := none
  /-- The folder for the journals, if they are to be kept. -/
  journalFolder : Option String := none
  format : ReportFormat := .json
deriving DecidableEq, Repr

namespace Policy

def named? : String → Option Policy
  | "first" => some .first
  | "random" => some .random
  | _ => none

end Policy

namespace ReportFormat

def named? : String → Option ReportFormat
  | "json" => some .json
  | "text" => some .text
  | _ => none

end ReportFormat

namespace Options

/-- A path is not empty. -/
def path? (value : String) : Option String := if value.isEmpty then none else some value

/-- The options with a value for a name. -/
def set? (o : Options) (name value : String) : Option Options :=
  match name with
  | "--seed" => (Text.readUInt64? value).map fun n => { o with seed := some n }
  | "--seeds" => (Text.readUInt64? value).map fun n => { o with seeds := n }
  | "--days" => (Text.readUInt64? value).map fun n => { o with days := n }
  | "--policy" => (Policy.named? value).map fun p => { o with policy := p }
  | "--archetype" => some { o with archetype := value }
  | "--difficulty" => some { o with difficulty := value }
  | "--config" => (path? value).map fun p => { o with config := some p }
  | "--content" => (path? value).map fun p => { o with content := some p }
  | "--journal-dir" => (path? value).map fun p => { o with journalFolder := some p }
  | "--format" => (ReportFormat.named? value).map fun f => { o with format := f }
  | _ => none

/-- An argument cut at its first equals sign. -/
def splitEquals (arg : String) : String × Option String :=
  let cs := arg.toList
  match cs.dropWhile (· != '=') with
  | [] => (arg, none)
  | _ :: value => (String.ofList (cs.takeWhile (· != '=')), some (String.ofList value))

/-- May an argument be the value of the option before it? -/
def isValue (arg : String) : Bool := arg == "-" || arg.toList.head? != some '-'

/-- The options with some more arguments; `seen` are the names that were given. -/
def parseFrom (seen : List String) (o : Options) : List String → Option Options
  | [] => some o
  | "--" :: rest => if rest.isEmpty then some o else none
  | arg :: rest =>
    match splitEquals arg, rest with
    | (name, some value), rest =>
      if seen.contains name then none
      else (o.set? name value).bind fun o => parseFrom (name :: seen) o rest
    | ("--content-mode", none), rest =>
      if seen.contains "--content-mode" then none
      else parseFrom ("--content-mode" :: seen) { o with contentMode := true } rest
    | (name, none), value :: rest =>
      if seen.contains name || !isValue value then none
      else (o.set? name value).bind fun o => parseFrom (name :: seen) o rest
    | (_, none), [] => none

/-- The options that arguments give. -/
def parse? (args : List String) : Option Options := parseFrom [] {} args

end Options

end LifeStory.Runner
