import LifeStory.Console
import LifeStory.Runner.Report

/-!
# Command line

`lives` with options plays lives without a player and reports them; any other arguments start the
console.
-/

open LifeStory

/-- What went wrong with a file. -/
def fileFault : IO.Error → FileFault
  | .noFileOrDirectory .. => .notFound
  | .inappropriateType _ 21 _ => .isDirectory
  | .inappropriateType .. => .notDirectory
  | .invalidArgument _ 36 _ => .nameTooLong
  | e => .other (toString e)

def readText (path : String) : IO (Except FileFault String) := do
  if let some fault := Disk.pathFault? path then return .error fault
  try return .ok (← IO.FS.readFile path)
  catch e => return .error (fileFault e)

def writeText (path text : String) : IO (Except FileFault Unit) := do
  if let some fault := Disk.pathFault? path then return .error fault
  try
    IO.FS.writeFile path text
    return .ok ()
  catch e => return .error (fileFault e)

/-- Says why the program cannot go on. -/
def crashed (crash : Crash) : IO UInt32 := do
  IO.eprintln crash.message
  return Crash.exitCode

/-- Reads and obeys lines until there are no more, or the player has had enough. -/
partial def converse (c : Console) : IO UInt32 := do
  let out ← IO.getStdout
  out.putStr Console.prompt
  out.flush
  let line ← (← IO.getStdin).getLine
  if line.isEmpty then
    out.putStr c.farewell
    return 0
  match c.obey line with
  | .quit =>
    out.putStr c.farewell
    return 0
  | .crash crash => crashed crash
  | .say text c =>
    out.putStr text
    converse c
  | .save path text =>
    out.putStr (Console.afterSave path (← writeText path text))
    converse c
  | .load path =>
    match c.afterLoad (← readText path) with
    | .error crash => crashed crash
    | .ok (text, c) =>
      out.putStr text
      converse c

def runConsole (args : List String) : IO UInt32 := do
  match Console.start args with
  | .error (.crashed crash) => crashed crash
  | .error (.refused e) =>
    IO.eprintln (Console.startFailure e)
    return 1
  | .ok (c, banner) =>
    IO.print banner
    converse c

/-- Plays lives; the files that the options name are read first. -/
def runLives (args : List String) : IO UInt32 := do
  let some options := Runner.Options.parse? args | return 2
  let paths := options.config.toList ++ options.content.toList
  let texts ← paths.mapM fun path => return (path, ← readText path)
  let read := fun path => (texts.lookup path).getD (.error .notFound)
  let anySeed ← IO.rand 0 0xFFFFFFFF
  match Runner.report options read anySeed.toUInt64 with
  | .error (.crashed crash) => crashed crash
  | .error (.refused e) =>
    IO.eprint (Runner.failureText e)
    return 1
  | .ok report =>
    for (name, text) in report.journals do
      let folder := options.journalFolder.getD "."
      match ← writeText s!"{folder}/{name}" text with
      | .ok () => pure ()
      | .error fault =>
        IO.eprint (Runner.failureText (.file fault))
        return 1
    IO.print report.text
    return 0

def main (args : List String) : IO UInt32 :=
  match args with
  | "lives" :: args => runLives args
  | args => runConsole args
