import LifeStory.Relationship.Axis
import LifeStory.Datum.Basic
import LifeStory.Precision

/-!
# One relationship

The five values of the relationship with one character, and what is read off them: the role that
the character plays, bands, and two summaries. Nothing derived is kept.

Roles are tried from the most hostile to the friendliest, so someone both loved and resented is
never a friend.
-/

namespace LifeStory

/-- Names a character that the player can meet. -/
abbrev NpcId := String

/-- The relationship with one character. -/
structure Relationship where
  npc : NpcId
  name : String
  affection : Float32
  trust : Float32
  attraction : Float32
  familiarity : Float32
  resentment : Float32

/-- What a character is to the player. -/
inductive Role where
  | stranger
  | acquaintance
  | friend
  | closeFriend
  | crush
  | partner
  | distrusted
  | rival
  | enemy
  | conflicted
deriving DecidableEq, Repr

namespace Role

/-- The name in data. -/
def name : Role → String
  | stranger => "Stranger"
  | acquaintance => "Acquaintance"
  | friend => "Friend"
  | closeFriend => "CloseFriend"
  | crush => "Crush"
  | partner => "Partner"
  | distrusted => "Distrusted"
  | rival => "Rival"
  | enemy => "Enemy"
  | conflicted => "Conflicted"

/-- The name on the screen. -/
def label : Role → String
  | closeFriend => "Close Friend"
  | r => r.name

/-- Is it one of the hostile roles? -/
def isNegative : Role → Bool
  | distrusted | rival | enemy | conflicted => true
  | _ => false

end Role

namespace AxisBands

def toDatum (b : AxisBands) : Datum :=
  .table [
    ("affection", .text b.affection),
    ("trust", .text b.trust),
    ("attraction", .text b.attraction),
    ("familiarity", .text b.familiarity),
    ("resentment", .text b.resentment)]

end AxisBands

namespace Relationship

/-- The relationship with someone not yet met. -/
def zero (npc : NpcId) (name : String) : Relationship := ⟨npc, name, 0, 0, 0, 0, 0⟩

def get (r : Relationship) : Axis → Float32
  | .affection => r.affection
  | .trust => r.trust
  | .attraction => r.attraction
  | .familiarity => r.familiarity
  | .resentment => r.resentment

def set (r : Relationship) : Axis → Float32 → Relationship
  | .affection, v => { r with affection := v }
  | .trust, v => { r with trust := v }
  | .attraction, v => { r with attraction := v }
  | .familiarity, v => { r with familiarity := v }
  | .resentment, v => { r with resentment := v }

/-- Adds to an axis and clamps. A sum that is no number changes nothing. -/
def applyDelta (r : Relationship) (axis : Axis) (amount : Float32) : Relationship :=
  let next := r.get axis + amount
  if next.isNaN then r else r.set axis (Precision.hold axis.least axis.greatest next)

/-! ## Readings -/

/-- The role that five values make. -/
def roleOf (affection trust attraction familiarity resentment : Float32) : Role :=
  if 7 ≤ resentment ∧ 5 ≤ affection then .conflicted
  else if 7 ≤ resentment then .enemy
  else if 4 ≤ resentment then .rival
  else if trust ≤ -5 then .distrusted
  else if 6 ≤ attraction ∧ 4 ≤ affection then
    if 5 ≤ trust ∧ 6 ≤ familiarity then .partner else .crush
  else if 7 ≤ affection ∧ 6 ≤ trust then .closeFriend
  else if 4 ≤ affection ∧ 2 ≤ trust then .friend
  else if 3 ≤ familiarity then .acquaintance
  else .stranger

def role (r : Relationship) : Role :=
  roleOf r.affection r.trust r.attraction r.familiarity r.resentment

/-- The label of the band on an axis. -/
def bandLabel (r : Relationship) (axis : Axis) : String :=
  Band.label axis (.ofValue axis (r.get axis))

def bands (r : Relationship) : AxisBands where
  affection := r.bandLabel .affection
  trust := r.bandLabel .trust
  attraction := r.bandLabel .attraction
  familiarity := r.bandLabel .familiarity
  resentment := r.bandLabel .resentment

/-- What relationships are ranked by. -/
def rankKey (r : Relationship) : Float32 := r.affection + r.trust

/-- A summary between -10 and 10. -/
def strength (r : Relationship) : Float32 :=
  Precision.hold (-10) 10 ((r.affection + r.trust - r.resentment) / 3)

/-! ## Data -/

/-- The five values, by the names of their axes. -/
def axisData (r : Relationship) : List (String × Datum) :=
  Axis.all.map fun a => (a.name, .single (r.get a))

def toDatum (r : Relationship) : Datum :=
  .table ([("npc_id", .text r.npc), ("name", .text r.name)] ++ r.axisData)

/-! ## Lemmas -/

@[simp] theorem get_set (r : Relationship) (a b : Axis) (v : Float32) :
    (r.set a v).get b = if b = a then v else r.get b := by
  cases a <;> cases b <;> rfl

@[simp] theorem npc_set (r : Relationship) (a : Axis) (v : Float32) : (r.set a v).npc = r.npc := by
  cases a <;> rfl

@[simp] theorem name_set (r : Relationship) (a : Axis) (v : Float32) :
    (r.set a v).name = r.name := by
  cases a <;> rfl

@[simp] theorem npc_applyDelta (r : Relationship) (a : Axis) (v : Float32) :
    (r.applyDelta a v).npc = r.npc := by
  simp only [applyDelta]; split <;> simp

@[simp] theorem name_applyDelta (r : Relationship) (a : Axis) (v : Float32) :
    (r.applyDelta a v).name = r.name := by
  simp only [applyDelta]; split <;> simp

end Relationship

end LifeStory
