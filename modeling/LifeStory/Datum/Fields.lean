import LifeStory.Datum.Basic

/-!
# Fields of a record

A record is written as a table, each field by its name in any order, or as a list, the fields in
their fixed order. Members of other names are skipped, a field given twice is refused. A list may
be longer than the record only where `surplus` is allowed, as in configuration files but not in
journals.
-/

namespace LifeStory

/-- The fields that a datum gives to a record. -/
structure Fields where
  byName : Bool
  members : List (String × Datum)

namespace Fields

/-- The fields of a record whose field names are `names`, in order. -/
def of? (surplus : Bool) (names : List String) : Datum → Option Fields
  | .table members =>
    let known := members.filter fun m => names.contains m.1
    if (known.map Prod.fst).Nodup then some ⟨true, known⟩ else none
  | .list items =>
    if surplus || items.length ≤ names.length then some ⟨false, names.zip items⟩ else none
  | _ => none

/-- The fields of a record that is always written as a table. -/
def ofTable? (names : List String) : Datum → Option Fields
  | .table members => of? false names (.table members)
  | _ => none

variable {α : Type} (f : Fields) (name : String)

/-- A field that has to be there. -/
def required (read : Datum → Option α) : Option α :=
  (f.members.lookup name).bind read

/-- A field that may be null; in a table it may also be absent. -/
def optional (read : Datum → Option α) : Option (Option α) :=
  match f.members.lookup name with
  | none => if f.byName then some none else none
  | some .null => some none
  | some d => (read d).map some

/-- A field that may be absent. -/
def defaulted (default : α) (read : Datum → Option α) : Option α :=
  match f.members.lookup name with
  | none => some default
  | some d => read d

end Fields

end LifeStory
