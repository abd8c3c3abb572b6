import LifeStory.Error

/-!
# Disks

A disk holds files with texts, in folders. A path is followed step by step, from the root or from
the folder of the game, so the first thing that is wrong with it decides how it fails. What is
written to a file is what is read from it; what is written to a sink is lost.
-/

namespace LifeStory

/-- A file or folder, by the names on the way to it from the root. -/
abbrev Place := List String

/-- What stands at a place. -/
inductive DiskEntry where
  | folder
  | file (text : String)
  /-- Swallows what is written to it, and reads as an empty file. -/
  | sink
deriving DecidableEq, Repr

/-- What stands where, and the folder in which the game runs. -/
structure Disk where
  home : Place
  entries : List (Place × DiskEntry)

namespace Disk

/-! ## Places -/

/-- What stands at a place. The root is a folder. -/
def get? (d : Disk) (p : Place) : Option DiskEntry :=
  if p.isEmpty then some .folder else d.entries.lookup p

/-- The disk with something at a place, instead of what stood there. -/
def set (d : Disk) (p : Place) (e : DiskEntry) : Disk :=
  { d with entries := (p, e) :: d.entries.filter fun entry => entry.1 != p }

theorem get?_set_self (d : Disk) {p : Place} (h : p ≠ []) (e : DiskEntry) :
    (d.set p e).get? p = some e := by
  simp [get?, set, h]

/-- The disk with a folder in the folder of the game. -/
def addFolder (d : Disk) (name : String) : Disk := d.set (d.home ++ [name]) .folder

/-- The disk with a file in the folder of the game. -/
def addFile (d : Disk) (name text : String) : Disk := d.set (d.home ++ [name]) (.file text)

/-- The folders at the root. -/
def rootFolders : List String :=
  ["bin", "boot", "dev", "etc", "home", "lib", "media", "mnt", "opt", "proc", "root", "run",
    "sbin", "srv", "sys", "tmp", "usr", "var"]

/-- A disk with the usual folders and an empty folder for the game. -/
def standard : Disk where
  home := ["tmp", "game"]
  entries :=
    rootFolders.map (fun name => ([name], .folder)) ++
      [(["tmp", "game"], .folder), (["dev", "null"], .sink)]

/-- The names and texts of the files in a folder of the game. -/
def filesIn (d : Disk) (folder : String) : List (String × String) :=
  d.entries.filterMap fun (place, entry) =>
    match place.getLast?, entry with
    | some name, .file text =>
      if place.dropLast = d.home ++ [folder] then some (name, text) else none
    | _, _ => none

/-! ## Paths -/

/-- The longest name of a file or folder, in bytes. -/
def maxNameSize : Nat := 255

/-- The longest path, in bytes. -/
def maxPathSize : Nat := 4095

/-- A path, cut at its slashes. -/
structure Path where
  /-- Does it begin at the root, and not in the folder of the game? -/
  rooted : Bool
  /-- The steps from folder to folder. -/
  way : List String
  /-- The name in the last folder; none if the path ends in a step that is no name. -/
  name : Option String
  /-- Does a slash at the end ask for a folder? -/
  closed : Bool
deriving DecidableEq, Repr

/-- What is wrong with a path, wherever it leads. -/
def pathFault? (s : String) : Option FileFault :=
  if s.toList.contains '\x00' then some .nulByte
  else if maxPathSize < s.utf8ByteSize then some .nameTooLong
  else if s.isEmpty then some .notFound
  else none

/-- The path that a text writes. -/
def path (s : String) : Except FileFault Path :=
  match pathFault? s with
  | some fault => .error fault
  | none =>
    let parts := s.splitOn "/"
    let steps := (parts.reverse.dropWhile (· == "")).reverse
    let name := steps.getLast?.filter fun last => last != "." && last != ".."
    .ok {
      rooted := s.startsWith "/"
      way := if name.isSome then steps.dropLast else steps
      name
      closed := parts.getLast? == some "" }

/-- What a name stands for in a folder. -/
def find (d : Disk) (here : Place) (name : String) : Except FileFault (Option DiskEntry) :=
  if maxNameSize < name.utf8ByteSize then .error .nameTooLong
  else .ok (d.get? (here ++ [name]))

/-- The folder that a step leads to. Above the root is the root. -/
def enter (d : Disk) (here : Place) (step : String) : Except FileFault Place :=
  if step == "" || step == "." then .ok here
  else if step == ".." then .ok here.dropLast
  else do
    match ← d.find here step with
    | some .folder => return here ++ [step]
    | some _ => throw .notDirectory
    | none => throw .notFound

/-- The folder at the end of the way of a path. -/
def follow (d : Disk) (p : Path) : Except FileFault Place :=
  p.way.foldlM d.enter (if p.rooted then [] else d.home)

/-! ## Files -/

/-- The text of a file. -/
def read (d : Disk) (path : String) : Except FileFault String := do
  let p ← Disk.path path
  let folder ← d.follow p
  let some name := p.name | throw .isDirectory
  match ← d.find folder name with
  | none => throw .notFound
  | some .folder => throw .isDirectory
  | some (.file text) => if p.closed then throw .notDirectory else return text
  | some .sink => if p.closed then throw .notDirectory else return ""

/-- The disk with a text in a file. -/
def write (d : Disk) (path text : String) : Except FileFault Disk := do
  let p ← Disk.path path
  let folder ← d.follow p
  let some name := p.name | throw .isDirectory
  if p.closed then throw .isDirectory
  match ← d.find folder name with
  | some .folder => throw .isDirectory
  | some .sink => return d
  | _ => return d.set (folder ++ [name]) (.file text)

end Disk

end LifeStory
