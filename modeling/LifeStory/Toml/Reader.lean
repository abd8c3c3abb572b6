import LifeStory.Toml.Word
import LifeStory.Toml.Tree

/-!
# Documents

The statements of a document, one to a line; texts in triple quotes and lists may go over several
lines. Lists and inline tables may be nested, and keys dotted, less than 80 deep. `read?` gives
the table that a document writes, `none` for a text that is no document.

Every reader takes something from the front of a text and gives the rest; a loop goes on as long
as the rest gets shorter.
-/

namespace LifeStory.Toml

/-- How deep lists and inline tables may be nested, and how many parts a key may have. -/
def depthLimit : Nat := 79

/-! ## Blanks and line ends -/

def skipGaps (cs : List Char) : List Char := cs.dropWhile isGap

/-- What comes after the end of a line; a document may end without one. -/
def lineEnd? : List Char → Option (List Char)
  | [] => some []
  | '\n' :: rest => some rest
  | '\r' :: '\n' :: rest => some rest
  | _ => none

/-- What comes after a line on which only a comment may still follow. -/
def finishLine? (cs : List Char) : Option (List Char) :=
  match skipGaps cs with
  | '#' :: rest => lineEnd? (rest.dropWhile isPrintable)
  | rest => lineEnd? rest

/-- What comes after blanks, line ends and comments. -/
def skipLines (inComment : Bool) : List Char → List Char
  | [] => []
  | '\n' :: rest => skipLines false rest
  | '\r' :: '\n' :: rest => skipLines false rest
  | c :: rest =>
    if inComment && isPrintable c then skipLines true rest
    else if !inComment && isGap c then skipLines false rest
    else if !inComment && c == '#' then skipLines true rest
    else c :: rest

/-! ## Keys -/

/-- May the character stand in a key without quotes? -/
def isKeyChar (c : Char) : Bool := c.isAlphanum || c == '-' || c == '_'

/-- One part of a key. -/
def keyPart? (cs : List Char) : Option (String × List Char) :=
  match cs with
  | '"' :: _ | '\x27' :: _ => (textOfLine? cs).map fun (name, rest) => (String.ofList name, rest)
  | _ =>
    let name := cs.takeWhile isKeyChar
    if name.isEmpty then none else some (String.ofList name, cs.dropWhile isKeyChar)

/-- A key of at most so many parts, split before the last one; blanks around the parts. -/
def key? : Nat → List Char → Option ((List String × String) × List Char)
  | 0, _ => none
  | n + 1, cs => do
    let (name, rest) ← keyPart? (skipGaps cs)
    match skipGaps rest with
    | '.' :: rest =>
      let ((path, last), rest) ← key? n rest
      return ((name :: path, last), rest)
    | rest => return (([], name), rest)

/-! ## Values -/

/-- The items of a list, after its bracket. -/
def items? (item? : List Char → Option (Datum × List Char)) (cs : List Char) :
    Option (List Datum × List Char) :=
  match skipLines false cs with
  | ']' :: rest => some ([], rest)
  | front => do
    let (d, rest) ← item? front
    match skipLines false rest with
    | ']' :: rest => return ([d], rest)
    | ',' :: rest =>
      if _h : rest.length < cs.length then
        let (ds, rest) ← items? item? rest
        return (d :: ds, rest)
      else none
    | _ => none
termination_by cs.length

/-- The members of an inline table, after its brace or a comma. -/
def members? (item? : List Char → Option (Datum × List Char)) (ms : Members) (cs : List Char) :
    Option (Members × List Char) := do
  let ((path, name), rest) ← key? depthLimit cs
  match rest with
  | '=' :: rest =>
    let (d, rest) ← item? (skipGaps rest)
    let ms ← ms.assign? path name d
    match skipGaps rest with
    | '\x7d' :: rest => return (ms, rest)
    | ',' :: rest =>
      if _h : rest.length < cs.length then members? item? ms rest else none
    | _ => none
  | _ => none
termination_by cs.length

/-- An inline table, after its brace. -/
def inlineTable? (item? : List Char → Option (Datum × List Char)) (cs : List Char) :
    Option (Datum × List Char) :=
  match skipGaps cs with
  | '\x7d' :: rest => some (.table [], rest)
  | _ => (members? item? [] cs).map fun (ms, rest) => (.table (Node.membersToData ms), rest)

/-- A value; `depth` lists and inline tables may be nested in it. -/
def value? : Nat → List Char → Option (Datum × List Char)
  | depth, cs =>
    match cs with
    | '"' :: _ | '\x27' :: _ => (text? cs).map fun (s, rest) => (.text (String.ofList s), rest)
    | '[' :: rest =>
      match depth with
      | 0 => none
      | n + 1 => (items? (value? n) rest).map fun (ds, rest) => (.list ds, rest)
    | '\x7b' :: rest =>
      match depth with
      | 0 => none
      | n + 1 => inlineTable? (value? n) rest
    | _ => word? cs

/-! ## Statements -/

/-- A header, after its bracket. -/
def header? (cs : List Char) : Option (Statement × List Char) :=
  match cs with
  | '[' :: cs => do
    let ((path, name), rest) ← key? depthLimit cs
    match rest with
    | ']' :: ']' :: rest => return (.nextHeader path name, rest)
    | _ => none
  | cs => do
    let ((path, name), rest) ← key? depthLimit cs
    match rest with
    | ']' :: rest => return (.header path name, rest)
    | _ => none

/-- An assignment. -/
def assignment? (cs : List Char) : Option (Statement × List Char) := do
  let ((path, name), rest) ← key? depthLimit cs
  match rest with
  | '=' :: rest =>
    let (d, rest) ← value? depthLimit (skipGaps rest)
    return (.assign path name d, rest)
  | _ => none

/-- The statement at the front of a text. -/
def statement? : List Char → Option (Statement × List Char)
  | '[' :: rest => header? rest
  | cs => assignment? cs

/-- The statements of a text. -/
def statements? (cs : List Char) : Option (List Statement) :=
  match skipLines false cs with
  | [] => some []
  | front => do
    let (statement, rest) ← statement? front
    let rest ← finishLine? rest
    if _h : rest.length < cs.length then
      let more ← statements? rest
      return statement :: more
    else none
termination_by cs.length

/-- The table that a document writes. -/
def read? (s : String) : Option Datum :=
  let cs := match s.toList with
    | '\uFEFF' :: rest => rest
    | cs => cs
  (statements? cs).bind tableOf?

end LifeStory.Toml
