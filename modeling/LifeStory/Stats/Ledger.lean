import LifeStory.Stats.Kind
import LifeStory.Datum.Basic

/-!
# The ledger of attributes

One value per attribute. Every change clamps (`applyDelta`). Over days without events mood eases
toward zero and energy recovers toward its resting value, each by at most its rate a day and
never past its goal; `drift` does any number of days in one step.

    (l.set k v).read j = if j = k then v else l.read j        (read_set)
-/

namespace LifeStory

/-- The values of the attributes. -/
structure StatLedger where
  health : Int32
  mood : Int32
  wealth : Int32
  charisma : Int32
  intelligence : Int32
  wisdom : Int32
  strength : Int32
  stability : Int32
  appearance : Int32
  reputation : Int32
  curiosity : Int32
  energy : Int32
  libido : Int32
deriving DecidableEq, Repr

namespace StatLedger

/-- The ledger of a new character. -/
def resting : StatLedger where
  health := StatKind.health.resting
  mood := StatKind.mood.resting
  wealth := StatKind.wealth.resting
  charisma := StatKind.charisma.resting
  intelligence := StatKind.intelligence.resting
  wisdom := StatKind.wisdom.resting
  strength := StatKind.strength.resting
  stability := StatKind.stability.resting
  appearance := StatKind.appearance.resting
  reputation := StatKind.reputation.resting
  curiosity := StatKind.curiosity.resting
  energy := StatKind.energy.resting
  libido := StatKind.libido.resting

def read (l : StatLedger) : StatKind → Int32
  | .health => l.health
  | .mood => l.mood
  | .wealth => l.wealth
  | .charisma => l.charisma
  | .intelligence => l.intelligence
  | .wisdom => l.wisdom
  | .strength => l.strength
  | .stability => l.stability
  | .appearance => l.appearance
  | .reputation => l.reputation
  | .curiosity => l.curiosity
  | .energy => l.energy
  | .libido => l.libido

def set (l : StatLedger) : StatKind → Int32 → StatLedger
  | .health, v => { l with health := v }
  | .mood, v => { l with mood := v }
  | .wealth, v => { l with wealth := v }
  | .charisma, v => { l with charisma := v }
  | .intelligence, v => { l with intelligence := v }
  | .wisdom, v => { l with wisdom := v }
  | .strength, v => { l with strength := v }
  | .stability, v => { l with stability := v }
  | .appearance, v => { l with appearance := v }
  | .reputation, v => { l with reputation := v }
  | .curiosity, v => { l with curiosity := v }
  | .energy, v => { l with energy := v }
  | .libido, v => { l with libido := v }

/-- Adds to an attribute and clamps. -/
def applyDelta (l : StatLedger) (k : StatKind) (amount : Int32) : StatLedger :=
  l.set k (k.clamp (Word.satAdd (l.read k) amount))

/-! ## Drift -/

/-- How far a value moves in some days toward a goal that is `gap` away. Days and their product
with the rate stop at the greatest 64-bit integer. -/
def driftAmount (days : UInt64) (rate gap : Int32) : Int32 :=
  let days : Int64 := Word.clamp (Word.toInt days)
  let total : Int64 := Word.satMul (max rate 0).toInt64 days
  (min total gap.toInt64).toInt32

/-- Mood after some days without events. -/
def driftMood (l : StatLedger) (days : UInt64) (rate : Int32) : StatLedger :=
  if 0 < l.mood then l.applyDelta .mood (-(driftAmount days rate l.mood.abs))
  else if l.mood < 0 then l.applyDelta .mood (driftAmount days rate l.mood.abs)
  else l

/-- Energy after some days without events. -/
def driftEnergy (l : StatLedger) (days : UInt64) (rate : Int32) : StatLedger :=
  let rest := StatKind.energy.resting
  if l.energy < rest then l.applyDelta .energy (driftAmount days rate (rest - l.energy)) else l

/-- The ledger after some days without events. -/
def drift (l : StatLedger) (days : UInt64) (moodRate energyRate : Int32) : StatLedger :=
  (l.driftMood days moodRate).driftEnergy days energyRate

/-- The ledger after one day without events. -/
def driftDay (l : StatLedger) (moodRate energyRate : Int32) : StatLedger :=
  l.drift 1 moodRate energyRate

/-! ## Views -/

/-- The values with their attributes, in order. -/
def toList (l : StatLedger) : List (StatKind × Int32) := StatKind.all.map fun k => (k, l.read k)

def toDatum (l : StatLedger) : Datum := .table (l.toList.map fun (k, v) => (k.name, .word v))

/-! ## Lemmas -/

@[simp] theorem read_set (l : StatLedger) (k j : StatKind) (v : Int32) :
    (l.set k v).read j = if j = k then v else l.read j := by
  cases k <;> cases j <;> rfl

@[ext] theorem ext_read {l m : StatLedger} (h : ∀ k, l.read k = m.read k) : l = m := by
  cases l; cases m
  simp only [StatLedger.mk.injEq]
  exact ⟨h .health, h .mood, h .wealth, h .charisma, h .intelligence, h .wisdom, h .strength,
    h .stability, h .appearance, h .reputation, h .curiosity, h .energy, h .libido⟩

theorem read_resting (k : StatKind) : resting.read k = k.resting := by cases k <;> rfl

end StatLedger

end LifeStory
