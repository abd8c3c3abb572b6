import LifeStory.Datum.Basic

/-!
# Number literals

A literal is a number as written. Without a point or exponent it is an integer if a 64-bit word
holds it (`-0` is not: it is a number with a sign). Every other literal is a double, read with one
rounding of its significand and one multiplication or division by a power of ten: the significand
is made of the leading digits that a 64-bit word holds, and digits that come later count as
zeros. So the double may be a unit in the last place off the nearest one. A literal that would be
infinite is unreadable.
-/

namespace LifeStory.Json

/-- A number as written: the digits before and after the point, and the exponent. -/
structure Literal where
  negative : Bool
  whole : List Nat
  fraction : List Nat
  exponent : Option Int
deriving DecidableEq, Repr

namespace Literal

/-- Appends digits to a significand as long as a 64-bit word holds it; with the digits left. -/
def absorb (significand : Nat) : List Nat → Nat × List Nat
  | [] => (significand, [])
  | d :: rest =>
    if 10 * significand + d < 0x10000000000000000 then absorb (10 * significand + d) rest
    else (significand, d :: rest)

/-- A power of ten as a double. -/
def powerOfTen (k : Nat) : Float := Float.ofScientific 1 false k

/-- A number divided by a power of ten, by `1e308` at a time. -/
def scaleDown (x : Float) (k : Nat) : Float :=
  if h : k ≤ 308 then x / powerOfTen k
  else if x == 0 then x
  else scaleDown (x / powerOfTen 308) (k - 308)
termination_by k
decreasing_by omega

/-- The double `significand * 10 ^ exponent`; none past the greatest. -/
def scaled? (significand : Nat) : Int → Option Float
  | .ofNat k =>
    let x := Float.ofNat significand
    if k ≤ 308 then
      let y := x * powerOfTen k
      if y.isFinite then some y else none
    else if x == 0 then some x
    else none
  | .negSucc k => some (scaleDown (Float.ofNat significand) (k + 1))

/-- The exponent after adding the one that is written. It is counted in 32 bits; one that does
not fit makes the number zero or too great. -/
def exponentSum? (significand : Nat) (shift written : Int) : Option (Option Int) :=
  if written.natAbs < 0x80000000 then
    some (some (Word.toInt (Word.clamp (shift + written) : Int32)))
  else if significand ≠ 0 ∧ 0 < written then none
  else some none

/-- The size of the double that a literal with a point or exponent stands for. -/
def magnitude? (l : Literal) : Option Float :=
  let (significand, skipped) := absorb 0 l.whole
  let (significand, unread) := absorb significand l.fraction
  let shift : Int := skipped.length - ((l.fraction.length - unread.length : Nat) : Int)
  match l.exponent with
  | none => scaled? significand shift
  | some written =>
    match exponentSum? significand shift written with
    | none => none
    | some none => some 0
    | some (some exponent) => scaled? significand exponent

/-- The integer that a literal without point and exponent stands for, if a word holds it. -/
def integer? (l : Literal) : Option Int :=
  match l.fraction, l.exponent, absorb 0 l.whole with
  | [], none, (n, []) =>
    if !l.negative then some n
    else if 0 < n ∧ n ≤ 0x8000000000000000 then some (-n)
    else none
  | _, _, _ => none

/-- What a literal stands for. -/
def toDatum (l : Literal) : Datum :=
  match l.integer? with
  | some n => .integer n
  | none =>
    match l.magnitude? with
    | some x => .real (if l.negative then -x else x)
    | none => .unreadable

end Literal

end LifeStory.Json
