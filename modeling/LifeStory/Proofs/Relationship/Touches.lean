import Mathlib.Data.List.Nodup
import LifeStory.Storylet.Basic

/-!
# Touching relationships

What a list of changes makes of a graph, said in one step: those met for the first time are appended
with zeros, and then each relationship takes the changes that name its character (`absorb`), one
after the other. So the changes of one character never reach another, and an axis that no change is
on stays as it was (`Spared`).

    (g.touch d.npc name d.axis d.amount).records =
      (g.ensure d.npc name).records.map (absorb d)                           (records_touch)
    Spared deltas r (absorbAll deltas r)                                     (spared_absorbAll)
    (g.touches name deltas).records =
      (g.records ++ met.map fun npc => .zero npc (name npc)).map (absorbAll deltas)
                                                                             (exists_met)
    (g.touch d.npc called d.axis d.amount).npcs = g.npcs ++ g.newcomer d.npc (npcs_touch)
-/

namespace LifeStory

namespace Relationship

/-- The relationship after a change, which it takes if it is named. -/
def absorb (d : RelationshipDelta) (r : Relationship) : Relationship :=
  if r.npc == d.npc then r.applyDelta d.axis d.amount else r

/-- The relationship after some changes. -/
def absorbAll (deltas : List RelationshipDelta) (r : Relationship) : Relationship :=
  deltas.foldl (fun r d => absorb d r) r

/-- A value on an axis after an amount was added. -/
def added (axis : Axis) (value amount : Float32) : Float32 :=
  if (value + amount).isNaN then value
  else Precision.hold axis.least axis.greatest (value + amount)

/-- The same relationship before and after some changes: an axis differs only if one of them is on
it and names the character. -/
structure Spared (deltas : List RelationshipDelta) (before after : Relationship) : Prop where
  npc : after.npc = before.npc
  name : after.name = before.name
  get : ∀ axis, (∀ d ∈ deltas, d.npc = before.npc → d.axis ≠ axis) →
    after.get axis = before.get axis

/-! ## One relationship -/

@[simp] theorem npc_absorb (d : RelationshipDelta) (r : Relationship) : (absorb d r).npc = r.npc := by
  unfold absorb
  split
  · exact npc_applyDelta ..
  · rfl

@[simp] theorem name_absorb (d : RelationshipDelta) (r : Relationship) :
    (absorb d r).name = r.name := by
  unfold absorb
  split
  · exact name_applyDelta ..
  · rfl

theorem absorb_of_ne {d : RelationshipDelta} {r : Relationship} (h : r.npc ≠ d.npc) :
    absorb d r = r := by
  unfold absorb
  rw [if_neg (by simpa using h)]

theorem get_applyDelta (r : Relationship) (axis other : Axis) (amount : Float32) :
    (r.applyDelta axis amount).get other =
      if other = axis then added axis (r.get axis) amount else r.get other := by
  unfold applyDelta added
  dsimp only
  split
  · split
    · next heq => rw [heq]
    · rfl
  · rw [get_set]

theorem spared_absorb (d : RelationshipDelta) (r : Relationship) : Spared [d] r (absorb d r) where
  npc := npc_absorb d r
  name := name_absorb d r
  get := by
    intro axis h
    by_cases hnpc : r.npc = d.npc
    · have haxis : d.axis ≠ axis := h d List.mem_cons_self hnpc.symm
      unfold absorb
      rw [if_pos (by simpa using hnpc), get_applyDelta, if_neg haxis.symm]
    · rw [absorb_of_ne hnpc]

theorem Spared.refl (r : Relationship) : Spared [] r r := ⟨rfl, rfl, fun _ _ => rfl⟩

theorem Spared.trans {l m : List RelationshipDelta} {q r s : Relationship} (h : Spared l q r)
    (h' : Spared m r s) : Spared (l ++ m) q s where
  npc := h'.npc.trans h.npc
  name := h'.name.trans h.name
  get := by
    intro axis hboth
    obtain ⟨hl, hm⟩ := List.forall_mem_append.1 hboth
    rw [← h.npc] at hm
    rw [h'.get axis hm, h.get axis hl]

theorem spared_absorbAll (deltas : List RelationshipDelta) (r : Relationship) :
    Spared deltas r (absorbAll deltas r) := by
  induction deltas generalizing r with
  | nil => exact Spared.refl r
  | cons d rest ih => exact (spared_absorb d r).trans (ih (absorb d r))

end Relationship

namespace RelationshipGraph

open Relationship

/-- The graph after some changes, where `name` calls those who are met for the first time. -/
def touches (g : RelationshipGraph) (name : NpcId → String) (deltas : List RelationshipDelta) :
    RelationshipGraph :=
  deltas.foldl (fun g d => g.touch d.npc (name d.npc) d.axis d.amount) g

/-- The character, if the graph does not know it yet. -/
def newcomer (g : RelationshipGraph) (npc : NpcId) : List NpcId :=
  if g.contains npc then [] else [npc]

/-- Those whom the graph knows, in first-touch order. -/
def npcs (g : RelationshipGraph) : List NpcId := g.records.map Relationship.npc

/-! ## Graphs -/

variable (g : RelationshipGraph) (name : NpcId → String)

theorem records_touch (d : RelationshipDelta) (called : String) :
    (g.touch d.npc called d.axis d.amount).records =
      (g.ensure d.npc called).records.map (absorb d) := records_modify ..

theorem mem_newcomer (npc other : NpcId) :
    other ∈ g.newcomer npc ↔ g.contains other = false ∧ other = npc := by
  unfold newcomer
  split
  · next hknown =>
    constructor
    · intro h
      cases h
    · rintro ⟨hnew, rfl⟩
      rw [hknown] at hnew
      cases hnew
  · next hnew =>
    rw [List.mem_singleton]
    constructor
    · rintro rfl
      exact ⟨Bool.eq_false_iff.2 hnew, rfl⟩
    · exact And.right

theorem records_ensure (npc : NpcId) :
    (g.ensure npc (name npc)).records =
      g.records ++ (g.newcomer npc).map fun npc => zero npc (name npc) := by
  unfold newcomer
  split
  · next hknown => rw [ensure_of_known hknown, List.map_nil, List.append_nil]
  · next hnew =>
    rw [ensure_of_new (Bool.eq_false_iff.2 hnew)]
    rfl

/-! ## Characters -/

theorem mem_npcs_iff (npc : NpcId) : npc ∈ g.npcs ↔ g.contains npc = true := by
  rw [contains_iff]
  exact List.mem_map

theorem npcs_ensure (npc : NpcId) (called : String) :
    (g.ensure npc called).npcs = g.npcs ++ g.newcomer npc := by
  unfold npcs
  rw [records_ensure g (fun _ => called), List.map_append, List.map_map]
  exact congrArg _ (List.map_id' _)

/-- A change adds whom it names to the end, unless the graph knows them. -/
theorem npcs_touch (d : RelationshipDelta) (called : String) :
    (g.touch d.npc called d.axis d.amount).npcs = g.npcs ++ g.newcomer d.npc := by
  rw [← npcs_ensure g d.npc called]
  unfold npcs
  rw [records_touch, List.map_map]
  exact List.map_congr_left fun r _ => npc_absorb d r

/-- There is never a second relationship with the same character. -/
theorem nodup_npcs : g.npcs.Nodup := g.indexed.nodup

/-! ## Runs of changes -/

theorem contains_touch (d : RelationshipDelta) (called : String) (npc : NpcId) :
    (g.touch d.npc called d.axis d.amount).contains npc = true ↔
      npc = d.npc ∨ g.contains npc = true := by
  rw [← mem_npcs_iff, npcs_touch, List.mem_append, mem_newcomer, mem_npcs_iff]
  cases g.contains npc with
  | true => simp
  | false => simp

/-- After some changes the graph is the one before with those that are met, each relationship with
the changes that name it. -/
theorem exists_met (deltas : List RelationshipDelta) :
    ∃ met : List NpcId, met.Nodup ∧
      (∀ npc, npc ∈ met ↔ g.contains npc = false ∧ npc ∈ deltas.map RelationshipDelta.npc) ∧
      (g.touches name deltas).records =
        (g.records ++ met.map fun npc => zero npc (name npc)).map (absorbAll deltas) := by
  induction deltas generalizing g with
  | nil =>
    refine ⟨[], List.nodup_nil, fun npc => by simp, ?_⟩
    show g.records = (g.records ++ []).map fun r => r
    rw [List.append_nil, List.map_id']
  | cons d rest ih =>
    obtain ⟨met, hnodup, hmem, hrecords⟩ := ih (g.touch d.npc (name d.npc) d.axis d.amount)
    have hunknown : ∀ npc, (g.touch d.npc (name d.npc) d.axis d.amount).contains npc = false ↔
        npc ≠ d.npc ∧ g.contains npc = false := by
      intro npc
      rw [← Bool.not_eq_true, contains_touch, not_or, Bool.not_eq_true]
    have hother : ∀ npc ∈ met, npc ≠ d.npc :=
      fun npc hnpc => ((hunknown npc).1 ((hmem npc).1 hnpc).1).1
    -- the change that comes first passes by those who are met later
    have hlater : (met.map fun npc => zero npc (name npc)).map (absorb d) =
        met.map fun npc => zero npc (name npc) := by
      rw [List.map_map]
      exact List.map_congr_left fun npc hnpc => absorb_of_ne (hother npc hnpc)
    refine ⟨g.newcomer d.npc ++ met, ?_, ?_, ?_⟩
    · unfold newcomer
      split
      · exact hnodup
      · exact List.nodup_cons.2 ⟨fun h => hother _ h rfl, hnodup⟩
    · intro npc
      rw [List.mem_append, mem_newcomer, hmem, hunknown, List.map_cons, List.mem_cons]
      by_cases hnpc : npc = d.npc
      · simp [hnpc]
      · simp [hnpc]
    · show ((g.touch d.npc (name d.npc) d.axis d.amount).touches name rest).records = _
      rw [hrecords, records_touch, records_ensure, ← hlater, ← List.map_append, List.map_map,
        List.append_assoc, ← List.map_append]
      rfl

end RelationshipGraph

end LifeStory
