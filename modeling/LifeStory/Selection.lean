import LifeStory.Precision

/-!
# Weighted selection

How heat changes chances, and how a draw picks one of some weighted items. At half heat every
item keeps its weight; above it intense items gain, below it quiet ones. The rules are stated for
any kind of number, so that they can be read over exact fractions as well as over the doubles that
a game computes with.

    pick draw items = firstPast? draw items, if there is one, else the last item
-/

namespace LifeStory.Selection

variable {α β : Type} [Add α] [Sub α] [Mul α] [Div α] [LT α] [DecidableLT α]
  [∀ n : Nat, OfNat α n]

/-- Heat as a share of the greatest heat. -/
def share (heat : α) : α := heat / 200

/-- The factor by which heat changes the weight of an item: the floor unless it is above it. -/
def heatFactor (bias floor heat intensity : α) : α :=
  let factor := 1 + bias * (share heat - 1 / 2) * intensity
  if floor < factor then factor else floor

/-- The probability that something is shown at all. -/
def activation (chance bonus heat : α) : α := Precision.hold 0 1 (chance + bonus * share heat)

/-- The sum of the weights. -/
def total (items : List (β × α)) : α := items.foldl (fun sum item => sum + item.2) 0

/-- The first item at which the running sum of the weights passes the target. -/
def firstPast? (target : α) : (sum : α) → List (β × α) → Option β
  | _, [] => none
  | sum, (b, weight) :: rest =>
    if target < sum + weight then some b else firstPast? target (sum + weight) rest

/-- The item that a draw from `[0, 1)` picks. -/
def pick (draw : α) (items : List (β × α)) : Option β :=
  match firstPast? (draw * total items) 0 items with
  | some b => some b
  | none => items.getLast?.map Prod.fst

end LifeStory.Selection
