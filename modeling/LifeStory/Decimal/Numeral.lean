import LifeStory.Decimal.Shortest

/-!
# Numerals

How floating-point numbers are written. A number is written by its shortest decimal, with a
point while its magnitude is within the bounds of the style and with an exponent of ten outside
them. Data texts (`Numeral.double`, `Numeral.single`) always show that a number is no integer and
have no text for what is not finite; messages (`Numeral.plain`) never use an exponent and write
an integer bare. `Numeral.tenths` keeps one place.
-/

namespace LifeStory

/-- How a decimal is written. -/
structure Numeral.Style where
  /-- Greatest magnitude that is written without an exponent. -/
  widest : Option Nat
  /-- Number of zeros after the point from which an exponent is written. -/
  deepest : Option Nat
  /-- Is an integer written with `.0`? -/
  pointed : Bool
  tie : Decimal.Tie

namespace Numeral

open Float.Model (Format UnpackedFloat)

/-- Doubles in data: a point from `1e-5` up to sixteen digits before it. -/
def Style.double : Style := ⟨some 16, some 5, true, .toEven⟩

/-- Singles in data: a point from `1e-6` up to thirteen digits before it. -/
def Style.single : Style := ⟨some 13, some 6, true, .toEven⟩

/-- Numbers in messages: never an exponent. -/
def Style.plain : Style := ⟨none, none, false, .up⟩

/-- Digits with a point after the first `n` of them, and zeros where digits are missing. -/
def withPoint (digits : List Char) (n : Int) (pointed : Bool) : List Char :=
  if n ≤ 0 then
    ['0', '.'] ++ List.replicate (-n).toNat '0' ++ digits
  else if digits.length ≤ n.toNat then
    digits ++ List.replicate (n.toNat - digits.length) '0' ++ if pointed then ['.', '0'] else []
  else
    digits.take n.toNat ++ '.' :: digits.drop n.toNat

/-- Digits with a point after the first and the exponent of ten of that digit, with its sign. -/
def withExponent (digits : List Char) (exponent : Int) : List Char :=
  let fraction := if digits.length ≤ 1 then [] else '.' :: digits.drop 1
  let sign := if exponent < 0 then '-' else '+'
  digits.take 1 ++ fraction ++ 'e' :: sign :: Nat.toDigits 10 exponent.natAbs

/-- Is the magnitude of a number outside what the style writes without an exponent? -/
def Style.needsExponent (style : Style) (magnitude : Int) : Bool :=
  style.widest.any (fun w => (w : Int) < magnitude) ||
    style.deepest.any (fun z => magnitude ≤ -(z : Int))

/-- The text of a positive decimal. -/
def Style.write (style : Style) (d : Decimal) : List Char :=
  let digits := Nat.toDigits 10 d.coefficient
  if style.needsExponent d.magnitude then withExponent digits (d.magnitude - 1)
  else withPoint digits d.magnitude style.pointed

/-- The text of a number of a binary format. -/
def write (format : Format) (style : Style) : UnpackedFloat → Option (List Char)
  | .notANumber | .infinity _ => none
  | .zero sign => some (signed sign (withPoint ['0'] 1 style.pointed))
  | .finite sign mantissa exponent _ =>
    let narrow := Decimal.narrowBelow format mantissa exponent
    some (signed sign (style.write (Decimal.shortest mantissa exponent narrow style.tie)))
where
  signed : UnpackedFloat.Sign → List Char → List Char
    | .positive, text => text
    | .negative, text => '-' :: text

/-- The text of a double in data; none if it is not finite. -/
def double? (x : Float) : Option (List Char) :=
  write .binary64 .double (Precision.unpack x)

/-- The text of a single in data; none if it is not finite. -/
def single? (x : Float32) : Option (List Char) :=
  write .binary32 .single (Precision.unpackSingle x)

/-- The text of a double in a message. -/
def plain (x : Float) : String :=
  match Precision.unpack x with
  | .notANumber => "NaN"
  | .infinity .positive => "inf"
  | .infinity .negative => "-inf"
  | number => String.ofList ((write .binary64 .plain number).getD [])

/-- A quotient rounded to the nearest integer, a half to the even one. -/
def divToEven (n d : Nat) : Nat :=
  let q := n / d
  let r := n % d
  if 2 * r < d then q
  else if d < 2 * r then q + 1
  else if q % 2 == 0 then q else q + 1

/-- The integer nearest to ten times `mantissa * 2 ^ exponent`, a half going to the even one. -/
def countTenths (mantissa : Nat) : Int → Nat
  | .ofNat k => 10 * mantissa * Nat.pow 2 k
  | .negSucc k => divToEven (10 * mantissa) (Nat.pow 2 (k + 1))

/-- The text of a single with one place; `plus` is written in front of what is not negative. -/
def tenths (plus : String) (x : Float32) : String :=
  match Precision.unpackSingle x with
  | .notANumber => "NaN"
  | .infinity sign => signed sign "inf"
  | .zero sign => signed sign "0.0"
  | .finite sign mantissa exponent _ =>
    let n := countTenths mantissa exponent
    signed sign (Nat.repr (n / 10) ++ "." ++ Nat.repr (n % 10))
where
  signed : UnpackedFloat.Sign → String → String
    | .positive, text => plus ++ text
    | .negative, text => "-" ++ text

end Numeral

end LifeStory
