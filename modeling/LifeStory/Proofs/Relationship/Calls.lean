import Mathlib.Data.List.Induction
import LifeStory.Proofs.Relationship.Touches

/-!
# Graphs made by calls

A graph is made of the empty one by calls that bring a character to it (`ensure`) or change an axis
of one (`applyDelta`). Their order decides everything (`Tells`): the characters stand in the order in
which they were first named, each by the name of that first call, and a value is the sum of the
amounts for this axis of this character, held in range after each. The index and the relationships
stay in step all the while, so a look-up is a search (`Represents`).

    (g.perform c).records = (g.ensure c.npc c.called).records.map f, where f keeps npc and name
                                                                             (exists_records_perform)
    (g.touch npc name axis amount).axisValue other a =
      if other = npc ∧ a = axis then added axis (g.axisValue npc axis) amount
      else g.axisValue other a                                               (axisValue_touch)
    Tells calls g → Tells (calls ++ [c]) (g.perform c)                       (Tells.perform)
    ChangesOnly npc axis g (g.applyDelta npc axis amount)                    (changesOnly_applyDelta)
    Represents calls (ofCalls calls), and a change is of one value only      (represents_ofCalls)
-/

namespace LifeStory

/-- A call that may change a graph. -/
inductive GraphCall where
  | ensure (npc : NpcId) (name : String)
  | applyDelta (npc : NpcId) (axis : Axis) (amount : Float32)

namespace GraphCall

/-- The character that is named. -/
def npc : GraphCall → NpcId
  | ensure npc _ => npc
  | applyDelta npc _ _ => npc

/-- What the character is called, if the call is the first to name them. -/
def called : GraphCall → String
  | ensure _ name => name
  | applyDelta npc _ _ => npc

/-- What is added to an axis of a character, if anything is. -/
def amount? (c : GraphCall) (npc : NpcId) (axis : Axis) : Option Float32 :=
  match c with
  | ensure _ _ => none
  | applyDelta named changed amount =>
    if npc = named ∧ axis = changed then some amount else none

end GraphCall

namespace Relationship

theorem get_zero (npc : NpcId) (name : String) (axis : Axis) : (zero npc name).get axis = 0 := by
  cases axis <;> rfl

end Relationship

namespace RelationshipGraph

open Relationship

def perform (g : RelationshipGraph) : GraphCall → RelationshipGraph
  | .ensure npc name => g.ensure npc name
  | .applyDelta npc axis amount => g.applyDelta npc axis amount

/-- What some calls make of the empty graph. -/
def ofCalls (calls : List GraphCall) : RelationshipGraph := calls.foldl perform empty

variable (g : RelationshipGraph)

/-! ## Values -/

theorem get?_modify (npc other : NpcId) {f : Relationship → Relationship}
    (keeps : ∀ r, (f r).npc = r.npc) :
    (g.modify npc f keeps).get? other =
      if other = npc then (g.get? npc).map f else g.get? other := by
  have hkeeps : ((fun r : Relationship => r.npc == other) ∘
      fun r => if r.npc == npc then f r else r) = fun r => r.npc == other := by
    funext r
    show ((if r.npc == npc then f r else r).npc == other) = _
    split
    · rw [keeps]
    · rfl
  rw [get?_eq_find?, records_modify, List.find?_map, hkeeps, ← get?_eq_find?]
  split
  · next heq =>
    subst heq
    cases hr : g.get? other with
    | none => rfl
    | some r =>
      obtain ⟨-, hnpc⟩ := (g.get?_eq_some_iff other r).1 hr
      simp [hnpc]
  · next hne =>
    cases hr : g.get? other with
    | none => rfl
    | some r =>
      obtain ⟨-, hnpc⟩ := (g.get?_eq_some_iff other r).1 hr
      simp [hnpc, hne]

/-- Someone met counts as zero, as someone who was never met. -/
theorem axisValue_ensure (npc other : NpcId) (name : String) (axis : Axis) :
    (g.ensure npc name).axisValue other axis = g.axisValue other axis := by
  cases hknown : g.contains npc with
  | true => rw [ensure_of_known hknown]
  | false =>
    have hget : (g.ensure npc name).get? other =
        (g.get? other).or ([zero npc name].find? fun r => r.npc == other) := by
      rw [get?_eq_find?, get?_eq_find?, ensure_of_new hknown]
      exact List.find?_append
    unfold axisValue
    rw [hget]
    cases g.get? other with
    | some r => rfl
    | none =>
      rw [Option.none_or]
      cases hnew : [zero npc name].find? fun r => r.npc == other with
      | none => rfl
      | some r =>
        rw [List.mem_singleton.1 (List.mem_of_find?_eq_some hnew)]
        exact get_zero ..

theorem axisValue_touch (npc other : NpcId) (name : String) (axis a : Axis) (amount : Float32) :
    (g.touch npc name axis amount).axisValue other a =
      if other = npc ∧ a = axis then added axis (g.axisValue npc axis) amount
      else g.axisValue other a := by
  rw [← g.axisValue_ensure npc npc name axis, ← g.axisValue_ensure npc other name a]
  obtain ⟨r, hr⟩ := (contains_iff_get? ..).1 (g.contains_ensure npc name)
  unfold touch axisValue
  rw [get?_modify]
  by_cases hnpc : other = npc
  · subst hnpc
    rw [if_pos rfl, hr]
    show (r.applyDelta axis amount).get a = _
    rw [get_applyDelta]
    simp
  · rw [if_neg hnpc, if_neg fun h => hnpc h.1]

theorem axisValue_perform (c : GraphCall) (npc : NpcId) (axis : Axis) :
    (g.perform c).axisValue npc axis =
      (c.amount? npc axis).toList.foldl (added axis) (g.axisValue npc axis) := by
  cases c with
  | ensure named name => exact g.axisValue_ensure named npc name axis
  | applyDelta named changed amount =>
    refine (g.axisValue_touch named npc named changed axis amount).trans ?_
    unfold GraphCall.amount?
    dsimp only
    by_cases h : npc = named ∧ axis = changed
    · obtain ⟨rfl, rfl⟩ := h
      rw [if_pos ⟨rfl, rfl⟩, if_pos ⟨rfl, rfl⟩]
      rfl
    · rw [if_neg h, if_neg h]
      rfl

/-! ## Characters -/

/-- A call brings the character that it names, and leaves the others as they are called. -/
theorem exists_records_perform (c : GraphCall) :
    ∃ f : Relationship → Relationship, (∀ r, (f r).npc = r.npc ∧ (f r).name = r.name) ∧
      (g.perform c).records = (g.ensure c.npc c.called).records.map f := by
  cases c with
  | ensure npc name => exact ⟨id, fun r => ⟨rfl, rfl⟩, (List.map_id _).symm⟩
  | applyDelta npc axis amount =>
    exact ⟨absorb ⟨npc, axis, amount⟩, fun r => ⟨npc_absorb _ r, name_absorb _ r⟩,
      g.records_touch ⟨npc, axis, amount⟩ npc⟩

theorem npcs_perform (c : GraphCall) : (g.perform c).npcs = g.npcs ++ g.newcomer c.npc := by
  cases c with
  | ensure npc name => exact g.npcs_ensure npc name
  | applyDelta npc axis amount => exact g.npcs_touch ⟨npc, axis, amount⟩ npc

/-- Everyone was there before under the same name, or is the one who is met. -/
theorem mem_records_perform {c : GraphCall} {r : Relationship} (h : r ∈ (g.perform c).records) :
    (∃ before ∈ g.records, before.npc = r.npc ∧ before.name = r.name) ∨
      g.contains c.npc = false ∧ c.npc = r.npc ∧ c.called = r.name := by
  obtain ⟨f, hf, hrecords⟩ := g.exists_records_perform c
  rw [hrecords, g.records_ensure (fun _ => c.called)] at h
  obtain ⟨before, hbefore, rfl⟩ := List.mem_map.1 h
  obtain ⟨hnpc, hname⟩ := hf before
  obtain hknown | hnew := List.mem_append.1 hbefore
  · exact .inl ⟨before, hknown, hnpc.symm, hname.symm⟩
  · obtain ⟨npc, hmem, rfl⟩ := List.mem_map.1 hnew
    obtain ⟨hunknown, rfl⟩ := (g.mem_newcomer ..).1 hmem
    exact .inr ⟨hunknown, hnpc.symm, hname.symm⟩

/-! ## Runs of calls -/

theorem eraseDups_concat (npcs : List NpcId) (npc : NpcId) :
    (npcs ++ [npc]).eraseDups = npcs.eraseDups ++ if npc ∈ npcs then [] else [npc] := by
  rw [List.eraseDups_append]
  unfold List.removeAll
  split
  · next h => simp [h]
  · next h => simp [h, List.eraseDups_cons]

/-- What a graph has of the calls that made it. -/
structure Tells (calls : List GraphCall) (g : RelationshipGraph) : Prop where
  /-- The characters come in the order in which they were first named. -/
  npcs : g.npcs = (calls.map GraphCall.npc).eraseDups
  /-- Each is called as the first call says that names them. -/
  name : ∀ r ∈ g.records,
    (calls.find? fun c => c.npc == r.npc).map GraphCall.called = some r.name
  /-- A value is made of the amounts that are meant for it, one after the other. -/
  value : ∀ npc axis, g.axisValue npc axis =
    (calls.filterMap fun c => c.amount? npc axis).foldl (added axis) 0

theorem tells_empty : Tells [] empty where
  npcs := rfl
  name := nofun
  value _ _ := rfl

variable {g} {calls : List GraphCall}

theorem Tells.contains_iff (h : Tells calls g) (npc : NpcId) :
    g.contains npc = true ↔ npc ∈ calls.map GraphCall.npc := by
  rw [← mem_npcs_iff, h.npcs, List.mem_eraseDups]

theorem Tells.newcomer (h : Tells calls g) (npc : NpcId) :
    g.newcomer npc = if npc ∈ calls.map GraphCall.npc then [] else [npc] := by
  unfold RelationshipGraph.newcomer
  simp only [h.contains_iff]

theorem Tells.perform (h : Tells calls g) (c : GraphCall) :
    Tells (calls ++ [c]) (g.perform c) where
  npcs := by
    rw [npcs_perform, h.npcs, h.newcomer, List.map_append, List.map_singleton, eraseDups_concat]
  name := by
    intro r hr
    rw [List.find?_append]
    obtain ⟨before, hbefore, hnpc, hname⟩ | ⟨hnew, hnpc, hname⟩ := g.mem_records_perform hr
    · have hcalled := h.name before hbefore
      rw [hnpc, hname] at hcalled
      obtain ⟨first, hfirst, -⟩ := Option.map_eq_some_iff.1 hcalled
      rw [hfirst] at hcalled ⊢
      exact hcalled
    · have hnone : (calls.find? fun c => c.npc == r.npc) = none := by
        rw [List.find?_eq_none]
        intro other hother heq
        rw [← hnpc, beq_iff_eq] at heq
        rw [(h.contains_iff _).2 (heq ▸ List.mem_map_of_mem hother)] at hnew
        cases hnew
      rw [hnone, List.find?_singleton, hnpc]
      simp [hname]
  value := by
    intro npc axis
    rw [axisValue_perform, h.value, List.filterMap_append, List.foldl_append]
    rfl

theorem tells_ofCalls (calls : List GraphCall) : Tells calls (ofCalls calls) := by
  induction calls using List.reverseRecOn with
  | nil => exact tells_empty
  | append_singleton calls c ih =>
    have hlast : ofCalls (calls ++ [c]) = (ofCalls calls).perform c := List.foldl_concat ..
    rw [hlast]
    exact ih.perform c

/-! ## One change -/

/-- Of two graphs the second has another value on one axis of one character, if anything. -/
structure ChangesOnly (npc : NpcId) (axis : Axis) (before after : RelationshipGraph) : Prop where
  /-- Someone new comes last. -/
  npcs : after.npcs = before.npcs ++ before.newcomer npc
  index : ∀ other i, before.index.lookup other = some i → after.index.lookup other = some i
  records : ∀ (i : Nat) (r : Relationship), before.records[i]? = some r →
    ∃ s : Relationship, after.records[i]? = some s ∧ s.npc = r.npc ∧ s.name = r.name ∧
      (∀ a, a ≠ axis → s.get a = r.get a) ∧ (r.npc ≠ npc → s = r)
  axisValue : ∀ other a, ¬(other = npc ∧ a = axis) →
    after.axisValue other a = before.axisValue other a

theorem changesOnly_applyDelta (g : RelationshipGraph) (npc : NpcId) (axis : Axis)
    (amount : Float32) : ChangesOnly npc axis g (g.applyDelta npc axis amount) where
  npcs := g.npcs_touch ⟨npc, axis, amount⟩ npc
  index := by
    intro other i hi
    rw [g.indexed] at hi
    rw [(g.applyDelta npc axis amount).indexed]
    have hnpcs : (g.applyDelta npc axis amount).records.map Relationship.npc = _ :=
      g.npcs_touch ⟨npc, axis, amount⟩ npc
    rw [hnpcs]
    exact (List.getElem?_append_left (List.getElem?_eq_some_iff.1 hi).1).trans hi
  records := by
    intro i r hr
    have hafter : (g.applyDelta npc axis amount).records[i]? =
        some (absorb ⟨npc, axis, amount⟩ r) := by
      have hrecords : (g.applyDelta npc axis amount).records = _ :=
        g.records_touch ⟨npc, axis, amount⟩ npc
      rw [hrecords, g.records_ensure (fun _ => npc), List.getElem?_map,
        List.getElem?_append_left (List.getElem?_eq_some_iff.1 hr).1, hr]
      rfl
    have hspared := spared_absorb ⟨npc, axis, amount⟩ r
    refine ⟨_, hafter, hspared.npc, hspared.name, ?_, fun hnpc => absorb_of_ne hnpc⟩
    intro a ha
    refine hspared.get a ?_
    intro d hd _
    rw [List.mem_singleton.1 hd]
    exact ha.symm
  axisValue := by
    intro other a hother
    exact (g.axisValue_touch npc other npc axis a amount).trans (if_neg hother)

/-- The graph that some calls make, with its index. -/
structure Represents (calls : List GraphCall) (g : RelationshipGraph) : Prop extends
    Tells calls g where
  /-- Nobody has two relationships. -/
  nodup : g.npcs.Nodup
  /-- The index has the place of each relationship, and nothing else. -/
  index : ∀ npc i,
    g.index.lookup npc = some i ↔ ∃ r, g.records[i]? = some r ∧ r.npc = npc
  get? : ∀ npc, g.get? npc = g.records.find? fun r => r.npc == npc
  contains : ∀ npc, g.contains npc = g.records.any fun r => r.npc == npc
  axisValue : ∀ npc axis, g.axisValue npc axis =
    ((g.records.find? fun r => r.npc == npc).map fun r => r.get axis).getD 0

/-- However a graph was made, its index finds what a search of the relationships finds, and a change
reaches the one value that it names. -/
theorem represents_ofCalls (calls : List GraphCall) :
    Represents calls (ofCalls calls) ∧
    ∀ npc axis amount,
      ChangesOnly npc axis (ofCalls calls) ((ofCalls calls).applyDelta npc axis amount) := by
  refine ⟨⟨tells_ofCalls calls, ?_, ?_, ?_, ?_, ?_⟩, (ofCalls calls).changesOnly_applyDelta⟩
  · exact (ofCalls calls).nodup_npcs
  · exact (ofCalls calls).indexOf?_eq_some_iff
  · exact (ofCalls calls).get?_eq_find?
  · intro npc
    rw [Bool.eq_iff_iff, contains_iff, List.any_eq_true]
    simp only [beq_iff_eq]
  · intro npc axis
    rw [← get?_eq_find?]
    unfold RelationshipGraph.axisValue
    cases (ofCalls calls).get? npc <;> rfl

/-- Mira is called by her id, since she was touched before she was named. -/
example :
    let g := ofCalls [.applyDelta "mira" .trust 2, .ensure "theo" "Theo", .ensure "mira" "Mira",
      .applyDelta "mira" .trust (-3)]
    g.records.map Relationship.name = ["mira", "Theo"] ∧ g.index.lookup "theo" = some 1 ∧
      (g.axisValue "mira" .trust == -1) = true := by
  decide +kernel

end RelationshipGraph

end LifeStory
