import LifeStory.Datum.Basic
import LifeStory.Decimal.Numeral

/-!
# Writing data

A datum is written on one line without blanks (`compact`), or with every item and member on a
line of its own, two blanks deeper than what it is in (`pretty`). Empty lists and tables stay on
one line. Numbers that are not finite, and what is unreadable, are written as null.
-/

namespace LifeStory.Json

/-- A hexadecimal digit. -/
def hexDigit (n : Nat) : Char := Nat.digitChar (n % 16)

/-- A character inside quotation marks. -/
def escape (c : Char) : List Char :=
  if c == '"' then ['\\', '"']
  else if c == '\\' then ['\\', '\\']
  else if c == '\x08' then ['\\', 'b']
  else if c == '\x0c' then ['\\', 'f']
  else if c == '\n' then ['\\', 'n']
  else if c == '\r' then ['\\', 'r']
  else if c == '\t' then ['\\', 't']
  else if c.toNat < 0x20 then
    ['\\', 'u', '0', '0', hexDigit (c.toNat / 16), hexDigit c.toNat]
  else [c]

/-- A text in quotation marks. -/
def quote (s : String) : List Char := '"' :: s.toList.flatMap escape ++ ['"']

/-- An integer. -/
def integer (n : Int) : List Char :=
  if n < 0 then '-' :: Nat.toDigits 10 n.natAbs else Nat.toDigits 10 n.natAbs

/-- A datum without parts. -/
def scalar : Datum → List Char
  | .bool true => "true".toList
  | .bool false => "false".toList
  | .integer n => integer n
  | .real x => (Numeral.double? x).getD "null".toList
  | .single x => (Numeral.single? x).getD "null".toList
  | .text s => quote s
  | _ => "null".toList

/-- A new line, `depth` levels deep. -/
def newLine (depth : Nat) : List Char := '\n' :: List.replicate (2 * depth) ' '

mutual

/-- A datum on lines of its own; `depth` is the level of its last line. -/
def prettyAt (depth : Nat) : Datum → List Char
  | .list [] => ['[', ']']
  | .list (d :: rest) =>
    '[' :: newLine (depth + 1) ++ prettyAt (depth + 1) d ++ prettyItems (depth + 1) rest
      ++ newLine depth ++ [']']
  | .table [] => ['{', '}']
  | .table ((name, d) :: rest) =>
    '{' :: newLine (depth + 1) ++ quote name ++ [':', ' '] ++ prettyAt (depth + 1) d
      ++ prettyMembers (depth + 1) rest ++ newLine depth ++ ['}']
  | d => scalar d

/-- The items of a list after the first. -/
def prettyItems (depth : Nat) : List Datum → List Char
  | [] => []
  | d :: rest => ',' :: newLine depth ++ prettyAt depth d ++ prettyItems depth rest

/-- The members of a table after the first. -/
def prettyMembers (depth : Nat) : List (String × Datum) → List Char
  | [] => []
  | (name, d) :: rest =>
    ',' :: newLine depth ++ quote name ++ [':', ' '] ++ prettyAt depth d
      ++ prettyMembers depth rest

end

mutual

/-- A datum on one line. -/
def compactList : Datum → List Char
  | .list [] => ['[', ']']
  | .list (d :: rest) => '[' :: compactList d ++ compactItems rest ++ [']']
  | .table [] => ['{', '}']
  | .table ((name, d) :: rest) =>
    '{' :: quote name ++ ':' :: compactList d ++ compactMembers rest ++ ['}']
  | d => scalar d

/-- The items of a list after the first. -/
def compactItems : List Datum → List Char
  | [] => []
  | d :: rest => ',' :: compactList d ++ compactItems rest

/-- The members of a table after the first. -/
def compactMembers : List (String × Datum) → List Char
  | [] => []
  | (name, d) :: rest => ',' :: quote name ++ ':' :: compactList d ++ compactMembers rest

end

/-- A datum on lines of its own. -/
def pretty (d : Datum) : String := String.ofList (prettyAt 0 d)

/-- A datum on one line. -/
def compact (d : Datum) : String := String.ofList (compactList d)

end LifeStory.Json
