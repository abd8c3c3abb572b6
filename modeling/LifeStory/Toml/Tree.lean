import LifeStory.Datum.Basic

/-!
# Tables of a document

A document is a list of statements, each of which adds something to a tree of tables. Headers
open a table, or a new table at the end of a list of tables; assignments add to the table that
the last header opened. A table is made once: by its header, by the keys below it, or by the
dotted keys of assignments, and what was made in one of these ways cannot be made or added to in
another, except that a header may open a table that headers below it have made.
-/

namespace LifeStory.Toml

/-- How a table was made. -/
inductive TableOrigin where
  /-- By its own header, or as an element of a list of tables. -/
  | header
  /-- By the header of a table below it. -/
  | below
  /-- By a dotted key. -/
  | dotted
deriving DecidableEq

/-- What a name stands for. -/
inductive Node where
  | value (d : Datum)
  | table (origin : TableOrigin) (members : List (String × Node))
  /-- A list of tables, the last one first. -/
  | tables (items : List (List (String × Node)))

/-- The members of a table. -/
abbrev Members := List (String × Node)

namespace Node

mutual

def toDatum : Node → Datum
  | value d => d
  | table _ members => .table (membersToData members)
  | tables items => .list (itemsToData items).reverse

def membersToData : List (String × Node) → List (String × Datum)
  | [] => []
  | (name, node) :: rest => (name, toDatum node) :: membersToData rest

def itemsToData : List (List (String × Node)) → List Datum
  | [] => []
  | members :: rest => .table (membersToData members) :: itemsToData rest

end

end Node

namespace Members

/-- The members with another node for a name that is there. -/
def replace (ms : Members) (name : String) (node : Node) : Members :=
  ms.map fun m => if m.1 == name then (name, node) else m

/-- The members with one more, whose name must be new. -/
def add? (ms : Members) (name : String) (node : Node) : Option Members :=
  if (ms.lookup name).isSome then none else some (ms ++ [(name, node)])

/-- Changes the table at the end of a path, and makes the tables on the way that are missing. In a
list of tables the way goes on in the last one. With `dotted`, the way may not lead into a table
that has a header. -/
def changeAt? (dotted : Bool) (f : TableOrigin → Members → Option Members) :
    List String → TableOrigin → Members → Option Members
  | [], origin, ms => f origin ms
  | name :: path, _, ms =>
    match ms.lookup name with
    | none =>
      let origin := if dotted then .dotted else .below
      (changeAt? dotted f path origin []).map fun new => ms ++ [(name, .table origin new)]
    | some (.value _) => none
    | some (.tables []) => none
    | some (.tables (last :: earlier)) =>
      (changeAt? dotted f path .header last).map fun new =>
        ms.replace name (.tables (new :: earlier))
    | some (.table origin members) =>
      if dotted && origin == .header then none
      else (changeAt? dotted f path origin members).map fun new =>
        ms.replace name (.table origin new)

/-- Gives a value to a dotted key: all its parts but the last lead to tables made by dotted
keys. -/
def assign? (ms : Members) (path : List String) (name : String) (d : Datum) : Option Members :=
  let put (origin : TableOrigin) (ms : Members) : Option Members :=
    if origin == .dotted || path.isEmpty then ms.add? name (.value d) else none
  changeAt? true put path .header ms

/-- Opens the table of a header. -/
def open? (name : String) (_ : TableOrigin) (ms : Members) : Option Members :=
  match ms.lookup name with
  | none => some (ms ++ [(name, .table .header [])])
  | some (.table .below members) => some (ms.replace name (.table .header members))
  | some _ => none

/-- Opens a new table at the end of a list of tables. -/
def openNext? (name : String) (_ : TableOrigin) (ms : Members) : Option Members :=
  match ms.lookup name with
  | none => some (ms ++ [(name, .tables [[]])])
  | some (.tables items) => some (ms.replace name (.tables ([] :: items)))
  | some _ => none

end Members

/-- A line of a document. Keys are split into the parts before the last and the last. -/
inductive Statement where
  | header (path : List String) (name : String)
  | nextHeader (path : List String) (name : String)
  | assign (path : List String) (name : String) (d : Datum)

/-- A document of which some statements are read. -/
structure Draft where
  root : Members
  /-- The path of the last header. -/
  current : List String

namespace Draft

def empty : Draft := ⟨[], []⟩

/-- The document after one more statement. -/
def extend? (t : Draft) : Statement → Option Draft
  | .header path name =>
    (t.root.changeAt? false (Members.open? name) path .header).map (⟨·, path ++ [name]⟩)
  | .nextHeader path name =>
    (t.root.changeAt? false (Members.openNext? name) path .header).map (⟨·, path ++ [name]⟩)
  | .assign path name d =>
    (t.root.changeAt? false (fun _ ms => ms.assign? path name d) t.current .header).map
      (⟨·, t.current⟩)

end Draft

/-- The table that a list of statements makes. -/
def tableOf? (statements : List Statement) : Option Datum :=
  (statements.foldlM Draft.extend? .empty).map fun t => .table (Node.membersToData t.root)

end LifeStory.Toml
