import LifeStory.Catalog.Fault
import LifeStory.Index
import LifeStory.Sorting

/-!
# The catalog

The storylets and characters of a game, checked once. The storylets stand in the order of their
ids, which is the order in which a selection looks at them, so the order in which content was
written does not matter. An index has the place of each storylet, and a storylet is looked up
through it.

    c.get? id = some s ↔ s ∈ c.storylets ∧ s.id = id                         (get?_eq_some_iff)
    c.get? id = c.storylets.find? fun s => s.id == id                        (get?_eq_find?)
-/

namespace LifeStory

/-- The content of a game, and where each storylet stands. -/
structure Catalog where
  storylets : List Storylet
  npcs : List Npc
  index : List (StoryletId × Nat)
  indexed : Indexes index (storylets.map Storylet.id)

/-- The greatest intensity. -/
def Storylet.greatestIntensity : UInt8 := 3

namespace Choice

/-- The first rule that a choice of a storylet breaks; `earlier` are the ids of the choices before
it. -/
def fault? (c : Choice) (storylet : StoryletId) (earlier : List ChoiceId) : Option ContentFault :=
  if c.id = "" then some (.emptyChoiceId storylet)
  else if c.id ∈ earlier then some (.duplicateChoice c.id storylet)
  else if !c.heat.isFinite then some (.heat c.id storylet)
  else if c.stats.any fun d => d.jitter < 0 then some (.jitter c.id storylet)
  else if c.relationships.any fun d => !d.amount.isFinite then
    some (.relationshipAmount c.id storylet)
  else none

/-- The first rule that a list of choices breaks. -/
def faultIn? (storylet : StoryletId) (earlier : List ChoiceId) :
    List Choice → Option ContentFault
  | [] => none
  | c :: rest =>
    match c.fault? storylet earlier with
    | some fault => some fault
    | none => faultIn? storylet (c.id :: earlier) rest

end Choice

namespace Storylet

/-- The first rule that a storylet breaks. -/
def fault? (s : Storylet) : Option ContentFault :=
  if s.id = "" then some .emptyStoryletId
  else if s.choices.isEmpty then some (.noChoices s.id)
  else if ¬(s.weight.isFinite ∧ 0 < s.weight) then some (.weight s.id s.weight)
  else if greatestIntensity < s.intensity then some (.intensity s.id s.intensity)
  else if s.durationHours = some 0 then some (.duration s.id)
  else Choice.faultIn? s.id [] s.choices

end Storylet

namespace Npc

/-- The first rule that a list of characters breaks. -/
def faultIn? (earlier : List NpcId) : List Npc → Option ContentFault
  | [] => none
  | n :: rest =>
    if n.id = "" then some .emptyNpcId
    else if n.id ∈ earlier then some (.duplicateNpc n.id)
    else faultIn? (n.id :: earlier) rest

end Npc

namespace Catalog

/-- The catalog without content. -/
def empty : Catalog := ⟨[], [], [], .nil⟩

/-- The catalog of some storylets, each with an id of its own. -/
def of (storylets : List Storylet) (npcs : List Npc)
    (nodup : (storylets.map Storylet.id).Nodup) : Catalog :=
  ⟨storylets, npcs, places (storylets.map Storylet.id), indexes_places nodup⟩

/-- The catalog with a storylet more, which is put last. -/
def append (c : Catalog) (s : Storylet) (new : c.index.lookup s.id = none) : Catalog where
  storylets := c.storylets ++ [s]
  npcs := c.npcs
  index := (s.id, c.storylets.length) :: c.index
  indexed := by
    have h := c.indexed.concat new
    rwa [List.length_map, ← List.map_singleton, ← List.map_append] at h

/-- The catalog with a storylet more, if that breaks no rule and has an id of its own. -/
def add (c : Catalog) (s : Storylet) : Except ContentFault Catalog :=
  match s.fault? with
  | some fault => .error fault
  | none =>
    if new : c.index.lookup s.id = none then .ok (c.append s new)
    else .error (.duplicateStorylet s.id)

/-- The catalog of some content, if it breaks no rule. The storylets are looked at in the order of
their ids. -/
def build (storylets : List Storylet) (npcs : List Npc) : Except ContentFault Catalog := do
  let catalog ← (sortBy (fun s t => s.id ≤ t.id) storylets).foldlM add empty
  match Npc.faultIn? [] npcs with
  | some fault => throw fault
  | none => return { catalog with npcs }

/-- The storylet with an id. -/
def get? (c : Catalog) (id : StoryletId) : Option Storylet :=
  (c.index.lookup id).bind fun i => c.storylets[i]?

/-- The name of a character. -/
def npcName? (c : Catalog) (id : NpcId) : Option String :=
  (c.npcs.find? fun n => n.id == id).map Npc.name

/-! ## Lemmas -/

section

variable (storylets : List Storylet) (npcs : List Npc)
  (nodup : (storylets.map Storylet.id).Nodup)

@[simp] theorem storylets_of : (of storylets npcs nodup).storylets = storylets := rfl

@[simp] theorem npcs_of : (of storylets npcs nodup).npcs = npcs := rfl

end

section

variable (c : Catalog)

theorem nodup_ids : (c.storylets.map Storylet.id).Nodup := c.indexed.nodup

theorem get?_eq_some_iff {id : StoryletId} {s : Storylet} :
    c.get? id = some s ↔ s ∈ c.storylets ∧ s.id = id :=
  c.indexed.bind_eq_some_iff id s

theorem get?_eq_find? (id : StoryletId) :
    c.get? id = c.storylets.find? fun s => s.id == id :=
  c.indexed.bind_eq_find? id

end

end Catalog

end LifeStory
