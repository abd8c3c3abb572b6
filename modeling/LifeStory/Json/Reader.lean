import LifeStory.Json.Token

/-!
# Reading data

The tokens of a text are put together by a machine that keeps a stack of the lists and tables
that are still open. `read?` gives the datum that a text writes, `none` for a text that is not
well written; reading one token after another is a fold (`feedAll_append`).
-/

namespace LifeStory.Json

/-- A list or table that is still open; items and members are kept last first. -/
inductive Frame where
  | list (items : List Datum)
  /-- `name` is the name of the member whose value comes next. -/
  | table (members : List (String × Datum)) (name : Option String) (readable : Bool)

/-- What may come next. -/
inductive Expected where
  | value
  | valueOrClose
  | name
  | nameOrClose
  | colon
  | separator
  | done
deriving DecidableEq

/-- The open lists and tables, innermost first, and the value of the whole text once it is read. -/
structure Reader where
  frames : List Frame
  expected : Expected
  result : Option Datum

namespace Reader

/-- Nothing is read. -/
def start : Reader := ⟨[], .value, none⟩

/-- Puts a complete value where it belongs. -/
def deliver (frames : List Frame) (d : Datum) : Reader :=
  match frames with
  | [] => ⟨[], .done, some d⟩
  | .list items :: rest => ⟨.list (d :: items) :: rest, .separator, none⟩
  | .table members (some name) readable :: rest =>
    ⟨.table ((name, d) :: members) none readable :: rest, .separator, none⟩
  | .table members none _ :: rest => ⟨.table members none false :: rest, .separator, none⟩

/-- The reader after a value of one token, where a value may come. -/
def value? (r : Reader) (d : Datum) : Option Reader :=
  match r.expected with
  | .value | .valueOrClose => some (deliver r.frames d)
  | _ => none

/-- The reader after an opening token, where a value may come. -/
def open? (r : Reader) (frame : Frame) (expected : Expected) : Option Reader :=
  match r.expected with
  | .value | .valueOrClose => some ⟨frame :: r.frames, expected, none⟩
  | _ => none

/-- The reader after a text, which is a value or the name of a member. -/
def text? (r : Reader) (s : Option String) : Option Reader :=
  match r.expected, r.frames with
  | .name, .table members _ readable :: rest | .nameOrClose, .table members _ readable :: rest =>
    some ⟨.table members s (readable && s.isSome) :: rest, .colon, none⟩
  | _, _ => r.value? (match s with | some s => .text s | none => .unreadable)

/-- The reader after a closing token. -/
def close? (r : Reader) (isList : Bool) : Option Reader :=
  match r.expected, r.frames, isList with
  | .valueOrClose, .list items :: rest, true | .separator, .list items :: rest, true =>
    some (deliver rest (.list items.reverse))
  | .nameOrClose, .table members _ readable :: rest, false
  | .separator, .table members _ readable :: rest, false =>
    some (deliver rest (if readable then .table members.reverse else .unreadable))
  | _, _, _ => none

/-- The reader after a comma. -/
def comma? (r : Reader) : Option Reader :=
  match r.expected, r.frames with
  | .separator, .list _ :: _ => some { r with expected := .value }
  | .separator, .table _ _ _ :: _ => some { r with expected := .name }
  | _, _ => none

/-- The reader after one more token; none if the token may not come here. -/
def feed (r : Reader) : Token → Option Reader
  | .openList => r.open? (.list []) .valueOrClose
  | .openTable => r.open? (.table [] none true) .nameOrClose
  | .closeList => r.close? true
  | .closeTable => r.close? false
  | .comma => r.comma?
  | .colon => if r.expected = .colon then some { r with expected := .value } else none
  | .null => r.value? .null
  | .bool b => r.value? (.bool b)
  | .number l => r.value? l.toDatum
  | .text s => r.text? s

/-- The reader after more tokens. -/
def feedAll (r : Reader) (tokens : List Token) : Option Reader := tokens.foldlM feed r

theorem feedAll_append (r : Reader) (s t : List Token) :
    r.feedAll (s ++ t) = (r.feedAll s).bind fun r => r.feedAll t :=
  List.foldlM_append

end Reader

/-- The datum that a text writes. -/
def read? (s : String) : Option Datum :=
  (tokens? s.toList).bind fun tokens => (Reader.start.feedAll tokens).bind Reader.result

end LifeStory.Json
