import LifeStory.Toml.Text
import LifeStory.Datum.Basic

/-!
# Words

A value without quotes or brackets is a word: `true`, a number, or a moment, that is a date, a
time of day, or both. Digits of numbers may be set apart by single underscores. Integers have 64
bits and a sign; other numbers go to the nearest double. A moment becomes a table with a member
that no record has.
-/

namespace LifeStory.Toml

/-- May the character stand in a word? -/
def isWordChar (c : Char) : Bool :=
  c.isAlphanum || c == '+' || c == '-' || c == '_' || c == '.' || c == ':'

/-! ## Numbers -/

/-- The digits of a number, without the underscores between them. -/
def digits? (isDigit : Char → Bool) : List Char → Option (List Char)
  | [] => none
  | [c] => if isDigit c then some [c] else none
  | c :: '_' :: rest => if isDigit c then (digits? isDigit rest).map (c :: ·) else none
  | c :: rest => if isDigit c then (digits? isDigit rest).map (c :: ·) else none

/-- The number that digits of a base write. -/
def number (base : Nat) (digits : List Char) : Nat :=
  digits.foldl (fun n c => base * n + (Text.hexDigit? c).getD 0) 0

/-- Decimal digits; a zero does not stand before others. -/
def decimal? (cs : List Char) : Option (List Char) :=
  match digits? Char.isDigit cs with
  | some ('0' :: _ :: _) => none
  | digits => digits

/-- A sign in front of a number, and the rest. -/
def splitSign : List Char → Bool × List Char
  | '+' :: rest => (false, rest)
  | '-' :: rest => (true, rest)
  | cs => (false, cs)

/-- The digits of a base after its mark. -/
def based? (base : Nat) (cs : List Char) : Option Datum := do
  let digits ← digits? (fun c => (Text.hexDigit? c).any (· < base)) cs
  let word : Int64 ← Word.ofInt? (number base digits : Int)
  return .word word

/-- An integer. -/
def integer? : List Char → Option Datum
  | '0' :: 'x' :: rest => based? 16 rest
  | '0' :: 'o' :: rest => based? 8 rest
  | '0' :: 'b' :: rest => based? 2 rest
  | cs => do
    let (negative, rest) := splitSign cs
    let digits ← decimal? rest
    let size : Int := number 10 digits
    let word : Int64 ← Word.ofInt? (if negative then -size else size)
    return .word word

/-- The double nearest to `significand * 10 ^ exponent`. Numbers that are surely past the greatest
or under the least double are not computed. -/
def nearestDouble (significand : Nat) (exponent : Int) : Float :=
  let magnitude := (Nat.toDigits 10 significand).length + exponent
  if significand = 0 ∨ magnitude < -400 then 0
  else if 400 < magnitude then 1 / 0
  else Float.ofScientific significand (exponent < 0) exponent.natAbs

/-- An exponent after its mark. -/
def exponent? (cs : List Char) : Option Int := do
  let (negative, rest) := splitSign cs
  let digits ← digits? Char.isDigit rest
  let size : Int := number 10 digits
  return if negative then -size else size

/-- A number with a point, an exponent, or both. -/
def pointed? (cs : List Char) : Option Float := do
  let whole ← decimal? (cs.takeWhile fun c => c.isDigit || c == '_')
  let afterWhole := cs.dropWhile fun c => c.isDigit || c == '_'
  let (fraction, afterFraction) ←
    match afterWhole with
    | '.' :: rest =>
      (digits? Char.isDigit (rest.takeWhile fun c => c.isDigit || c == '_')).map fun digits =>
        (digits, rest.dropWhile fun c => c.isDigit || c == '_')
    | rest => some ([], rest)
  let exponent ←
    match afterFraction with
    | [] => if fraction.isEmpty then none else some 0
    | mark :: rest => if mark == 'e' || mark == 'E' then exponent? rest else none
  return nearestDouble (number 10 (whole ++ fraction)) (exponent - fraction.length)

/-- A number that is no integer. One past the greatest double is refused; one past the least is
infinite. -/
def real? (cs : List Char) : Option Datum := do
  let (negative, rest) := splitSign cs
  match rest with
  | ['i', 'n', 'f'] => some (.real (if negative then -1 / 0 else 1 / 0))
  | ['n', 'a', 'n'] => some (.real (0 / 0))
  | _ =>
    let size ← pointed? rest
    if negative then some (.real (-size))
    else if size.isInf then none
    else some (.real size)

/-! ## Moments -/

/-- A number of two digits within bounds. -/
def twoDigits? (least greatest : Nat) (a b : Char) : Option Nat :=
  if a.isDigit && b.isDigit then
    let n := number 10 [a, b]
    if least ≤ n && n ≤ greatest then some n else none
  else none

/-- The number of days in a month. -/
def daysInMonth (year month : Nat) : Nat :=
  if month = 2 then
    if year % 4 = 0 ∧ (year % 100 ≠ 0 ∨ year % 400 = 0) then 29 else 28
  else if month = 4 ∨ month = 6 ∨ month = 9 ∨ month = 11 then 30
  else 31

/-- Does a word start with a date? The rest. -/
def afterDate? : List Char → Option (List Char)
  | y₁ :: y₂ :: y₃ :: y₄ :: '-' :: m₁ :: m₂ :: '-' :: d₁ :: d₂ :: rest =>
    if [y₁, y₂, y₃, y₄].all Char.isDigit then do
      let month ← twoDigits? 1 12 m₁ m₂
      let _ ← twoDigits? 1 (daysInMonth (number 10 [y₁, y₂, y₃, y₄]) month) d₁ d₂
      return rest
    else none
  | _ => none

/-- Does a word start with a time of day? The rest. -/
def afterTime? : List Char → Option (List Char)
  | h₁ :: h₂ :: ':' :: m₁ :: m₂ :: ':' :: s₁ :: s₂ :: rest => do
    let _ ← twoDigits? 0 23 h₁ h₂
    let _ ← twoDigits? 0 59 m₁ m₂
    let _ ← twoDigits? 0 60 s₁ s₂
    match rest with
    | '.' :: c :: more => if c.isDigit then return more.dropWhile Char.isDigit else none
    | rest => return rest
  | _ => none

/-- Is it the distance of a place's time from the world's? -/
def isOffset : List Char → Bool
  | [] => true
  | ['Z'] | ['z'] => true
  | [sign, h₁, h₂, ':', m₁, m₂] =>
    (sign == '+' || sign == '-') && (twoDigits? 0 23 h₁ h₂).isSome &&
      (twoDigits? 0 59 m₁ m₂).isSome
  | _ => false

/-- Is it a time of day, which may have an offset? -/
def isTime (offset : Bool) (cs : List Char) : Bool :=
  match afterTime? cs with
  | some [] => true
  | some rest => offset && isOffset rest
  | none => false

/-- Is it a date alone? -/
def isDate (cs : List Char) : Bool := afterDate? cs == some []

/-- Is it a moment, in one word? -/
def isMoment (cs : List Char) : Bool :=
  isTime false cs ||
    match afterDate? cs with
    | some [] => true
    | some (mark :: rest) => (mark == 'T' || mark == 't') && isTime true rest
    | none => false

/-- The datum of a moment. -/
def moment (cs : List Char) : Datum := .table [("moment", .text (String.ofList cs))]

/-! ## Words -/

/-- The value of a word. -/
def ofWord? (cs : List Char) : Option Datum :=
  match cs with
  | ['t', 'r', 'u', 'e'] => some (.bool true)
  | ['f', 'a', 'l', 's', 'e'] => some (.bool false)
  | _ =>
    if isMoment cs then some (moment cs)
    else match real? cs with
    | some d => some d
    | none => integer? cs

/-- The word at the front of a text. A time of day may follow a date after a blank. -/
def word? (cs : List Char) : Option (Datum × List Char) :=
  let first := cs.takeWhile isWordChar
  let rest := cs.dropWhile isWordChar
  match isDate first, rest with
  | true, ' ' :: more =>
    let second := more.takeWhile isWordChar
    if isTime true second then some (moment (first ++ ' ' :: second), more.dropWhile isWordChar)
    else some (moment first, rest)
  | _, _ => (ofWord? first).map fun d => (d, rest)

end LifeStory.Toml
