import LifeStory.Precision

/-!
# The shortest decimal of a binary fraction

A finite binary number stands for every real that rounds to it: the reals up to half a unit of
its last place away, the ends included iff its mantissa is even. Its shortest decimal is the
number `coefficient * 10 ^ exponent` among them with the greatest exponent, and of those with
that exponent the nearest; `Tie` says which of two equally near ones is meant.

A grid `10 ^ k` has a point among those reals iff one of the two grid points around the number
is among them, so only these two are looked at on each grid.
-/

namespace LifeStory

/-- A decimal number `coefficient * 10 ^ exponent`. -/
structure Decimal where
  coefficient : Nat
  exponent : Int
deriving DecidableEq, Repr

namespace Decimal

/-- Which of two equally near decimals is taken. -/
inductive Tie where
  | toEven
  | up
deriving DecidableEq

/-- A positive number and the reals that round to it, all over one denominator: those between
`value - below` and `value + above`. -/
structure Interval where
  value : Nat
  below : Nat
  above : Nat
  denominator : Nat
  closed : Bool

namespace Interval

/-- The reals that round to `mantissa * 2 ^ exponent`. The gap below is half the gap above where
the mantissa is the least of its length (`narrowBelow`). -/
def ofBinary (mantissa : Nat) (exponent : Int) (narrowBelow : Bool) : Interval :=
  let unit := Nat.pow 2 exponent.toNat
  { value := 4 * mantissa * unit
    below := if narrowBelow then unit else 2 * unit
    above := 2 * unit
    denominator := 4 * Nat.pow 2 (-exponent).toNat
    closed := mantissa % 2 == 0 }

/-- The interval with every bound multiplied by a number. -/
def scale (i : Interval) (factor : Nat) : Interval :=
  { i with value := i.value * factor, below := i.below * factor, above := i.above * factor }

/-- Is the point `p`, a numerator over the interval's denominator, inside? -/
def contains (i : Interval) (p : Nat) : Bool :=
  if i.closed then i.value ≤ p + i.below && p ≤ i.value + i.above
  else i.value < p + i.below && p < i.value + i.above

/-- The multiple of `step` inside the interval that is nearest to its value, divided by `step`. -/
def nearestMultiple? (i : Interval) (step : Nat) (tie : Tie) : Option Nat :=
  let low := i.value / step
  let down := i.value - low * step
  let up := (low + 1) * step - i.value
  match i.contains (low * step), i.contains ((low + 1) * step) with
  | false, false => none
  | true, false => some low
  | false, true => some (low + 1)
  | true, true =>
    if down < up then some low
    else if up < down then some (low + 1)
    else match tie with
      | .up => some (low + 1)
      | .toEven => some (if low % 2 == 0 then low else low + 1)

/-- The decimal with exponent `k` inside the interval that is nearest to its value. -/
def onGrid? (i : Interval) (tie : Tie) : Int → Option Decimal
  | .ofNat k =>
    (i.nearestMultiple? (i.denominator * Nat.pow 10 k) tie).map fun c => ⟨c, .ofNat k⟩
  | .negSucc k =>
    ((i.scale (Nat.pow 10 (k + 1))).nearestMultiple? i.denominator tie).map fun c => ⟨c, .negSucc k⟩

end Interval

/-- An exponent of ten past every number below `2 ^ bits`. -/
def exponentBound (bits : Int) : Int := bits * 30103 / 100000 + 1

/-- The shortest decimal of `mantissa * 2 ^ exponent`. Seventeen digits are always enough, so the
grids are tried from the first that is too coarse. -/
def shortest (mantissa : Nat) (exponent : Int) (narrowBelow : Bool) (tie : Tie) : Decimal :=
  let interval := Interval.ofBinary mantissa exponent narrowBelow
  let top := exponentBound (mantissa.log2 + 1 + exponent)
  ((List.range 20).findSome? fun (i : Nat) => interval.onGrid? tie (top - i)).getD ⟨0, 0⟩

open Float.Model (Format)

/-- Is the gap below narrower: is the mantissa a power of two, and not at the end of the range? -/
def narrowBelow (format : Format) (mantissa : Nat) (exponent : Int) : Bool :=
  mantissa == Nat.pow 2 format.mantissaBitsWithoutImplicit && format.minExponent < exponent

/-- The number of digits of a decimal's coefficient. -/
def length (d : Decimal) : Nat := (Nat.toDigits 10 d.coefficient).length

/-- The exponent of ten next above the decimal: it lies in `10 ^ (magnitude - 1)` up to
`10 ^ magnitude`. -/
def magnitude (d : Decimal) : Int := d.length + d.exponent

end Decimal

end LifeStory
