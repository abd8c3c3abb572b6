import LifeStory.Word
import LifeStory.Precision

/-!
# Data

A `Datum` is what a data text says before it is read as a value of a domain type. The readers of
this module are partial: a value of the wrong kind, or an integer that the word type does not
hold, is refused. An integer is taken where a number with a fraction is wanted, never the other
way round.
-/

namespace LifeStory

/-- A tree of data. Tables keep the order of their members, and members of one name. -/
inductive Datum where
  | null
  | bool (b : Bool)
  | integer (n : Int)
  | real (x : Float)
  | single (x : Float32)
  | text (s : String)
  | list (items : List Datum)
  | table (members : List (String × Datum))
  /-- Well written, but beyond any value: a number past the range, text that is no Unicode. -/
  | unreadable
deriving Inhabited

namespace Datum

/-- The datum of an optional value. -/
def ofOption {α : Type} (f : α → Datum) : Option α → Datum
  | none => .null
  | some a => f a

/-- The datum of a word. -/
def word {α : Type} [Word α] (a : α) : Datum := .integer (Word.toInt a)

/-- The datum of a list of texts. -/
def texts (ss : List String) : Datum := .list (ss.map .text)

/-! ## Readers -/

def asBool? : Datum → Option Bool
  | bool b => some b
  | _ => none

def asText? : Datum → Option String
  | text s => some s
  | _ => none

def asWord? (α : Type) [Word α] : Datum → Option α
  | integer n => Word.ofInt? n
  | _ => none

def asDouble? : Datum → Option Float
  | integer n => some (Float.ofInt n)
  | real x => some x
  | single x => some (Precision.widen x)
  | _ => none

def asSingle? : Datum → Option Float32
  | integer n => some (Float32.ofInt n)
  | real x => some (Precision.narrow x)
  | single x => some x
  | _ => none

/-- A list, every item of which can be read. -/
def asList? {α : Type} (read : Datum → Option α) : Datum → Option (List α)
  | list items => items.mapM read
  | _ => none

/-- A text from a list of names, or a table of one member with that name and nothing in it. -/
def asName? {α : Type} (names : List (String × α)) : Datum → Option α
  | text s => names.lookup s
  | table [(s, null)] => names.lookup s
  | _ => none

/-- A table of one member. -/
def asTagged? : Datum → Option (String × Datum)
  | table [m] => some m
  | _ => none

/-- Is everything inside readable, and nested at most `depth` lists and tables deep? -/
def fits : Nat → Datum → Bool
  | _, unreadable => false
  | 0, list _ => false
  | 0, table _ => false
  | n + 1, list items => items.all (fits n)
  | n + 1, table members => members.all fun m => fits n m.2
  | _, _ => true

end Datum

end LifeStory
