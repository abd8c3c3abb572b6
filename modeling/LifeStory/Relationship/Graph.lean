import LifeStory.Index
import LifeStory.Relationship.Basic
import LifeStory.Sorting

/-!
# The relationship graph

The relationships of a life in the order in which the characters were first touched, one per
character, and an index of the places where they stand. A character who was never touched counts as
zero on every axis.

The index is kept in step with the relationships (`Indexes`), so what is looked up through it is what
a search of the relationships finds.

    g.get? npc = some r ↔ r ∈ g.records ∧ r.npc = npc                        (get?_eq_some_iff)
    g.get? npc = g.records.find? fun r => r.npc == npc                       (get?_eq_find?)
    (g.ensure npc name).contains npc = true                                  (contains_ensure)
    (g.modify npc f keeps).records =
      g.records.map fun r => if r.npc == npc then f r else r                 (records_modify)
-/

namespace LifeStory

/-- A change that keeps the characters keeps their places. -/
theorem Relationship.map_npc_modify {f : Relationship → Relationship}
    (keeps : ∀ r, (f r).npc = r.npc) (records : List Relationship) (i : Nat) :
    (records.modify i f).map npc = records.map npc := by
  apply List.ext_getElem?
  intro j
  rw [List.getElem?_map, List.getElem?_modify, List.getElem?_map]
  cases records[j]? with
  | none => rfl
  | some r =>
    show some (if i = j then f r else r).npc = some r.npc
    split
    · rw [keeps]
    · rfl

/-- The relationships of a life, in first-touch order, and where each stands. -/
structure RelationshipGraph where
  records : List Relationship
  index : List (NpcId × Nat)
  indexed : Indexes index (records.map Relationship.npc)

namespace RelationshipGraph

def empty : RelationshipGraph := ⟨[], [], .nil⟩

/-- The position of a character's relationship. -/
def indexOf? (g : RelationshipGraph) (npc : NpcId) : Option Nat := g.index.lookup npc

def get? (g : RelationshipGraph) (npc : NpcId) : Option Relationship :=
  (g.indexOf? npc).bind fun i => g.records[i]?

def contains (g : RelationshipGraph) (npc : NpcId) : Bool := (g.indexOf? npc).isSome

/-- The graph with a relationship with someone new. -/
def append (g : RelationshipGraph) (r : Relationship) (new : g.contains r.npc = false) :
    RelationshipGraph where
  records := g.records ++ [r]
  index := (r.npc, g.records.length) :: g.index
  indexed := by
    have h := g.indexed.concat (Option.isNone_iff_eq_none.1 (Option.isSome_eq_false_iff.1 new))
    rwa [List.length_map, ← List.map_singleton, ← List.map_append] at h

/-- The graph with a relationship for a character, of zeros and with that name if it is new. -/
def ensure (g : RelationshipGraph) (npc : NpcId) (name : String) : RelationshipGraph :=
  if known : g.contains npc = true then g
  else g.append (.zero npc name) (Bool.eq_false_iff.2 known)

/-- The graph with the relationship of one character changed. -/
def modify (g : RelationshipGraph) (npc : NpcId) (f : Relationship → Relationship)
    (keeps : ∀ r, (f r).npc = r.npc) : RelationshipGraph :=
  match g.indexOf? npc with
  | some i =>
    { g with
      records := g.records.modify i f
      indexed := by
        rw [Relationship.map_npc_modify keeps]
        exact g.indexed }
  | none => g

/-- Adds to an axis of a character, who is named on first touch. -/
def touch (g : RelationshipGraph) (npc : NpcId) (name : String) (axis : Axis)
    (amount : Float32) : RelationshipGraph :=
  (g.ensure npc name).modify npc (fun r => r.applyDelta axis amount)
    fun r => r.npc_applyDelta axis amount

/-- Adds to an axis of a character, who is called by the id on first touch. -/
def applyDelta (g : RelationshipGraph) (npc : NpcId) (axis : Axis) (amount : Float32) :
    RelationshipGraph :=
  g.touch npc npc axis amount

/-- The value on an axis; zero for a character who was never touched. -/
def axisValue (g : RelationshipGraph) (npc : NpcId) (axis : Axis) : Float32 :=
  match g.get? npc with
  | some r => r.get axis
  | none => 0

/-- Does a rank key come before or stand beside another? Greater keys come first, and what is no
number before every number. -/
def rankedBefore (x y : Float32) : Bool := x.isNaN || y ≤ x

/-- The relationships by affection plus trust, greatest first; equal ones in first-touch order. -/
def ranked (g : RelationshipGraph) : List Relationship :=
  sortBy (fun r s => rankedBefore r.rankKey s.rankKey) g.records

/-- The first relationships of the ranking. -/
def top (g : RelationshipGraph) (n : Nat) : List Relationship := g.ranked.take n

/-- Are two graphs the same, as far as their numbers compare equal? -/
def same (g h : RelationshipGraph) : Bool :=
  g.records.length == h.records.length &&
    (g.records.zip h.records).all fun (r, s) =>
      r.npc == s.npc && r.name == s.name && Axis.all.all fun a => r.get a == s.get a

/-! ## Lemmas -/

@[ext] theorem ext_records {g h : RelationshipGraph} (records : g.records = h.records)
    (index : g.index = h.index) : g = h := by
  cases g; cases h; cases records; cases index; rfl

section

variable (g : RelationshipGraph) (npc : NpcId)

theorem get?_eq_some_iff (r : Relationship) :
    g.get? npc = some r ↔ r ∈ g.records ∧ r.npc = npc :=
  g.indexed.bind_eq_some_iff npc r

theorem contains_iff : g.contains npc = true ↔ ∃ r ∈ g.records, r.npc = npc := by
  rw [← List.mem_map]
  exact g.indexed.isSome_lookup npc

theorem contains_iff_get? : g.contains npc = true ↔ ∃ r, g.get? npc = some r := by
  rw [contains_iff]
  exact exists_congr fun r => (g.get?_eq_some_iff npc r).symm

theorem get?_eq_find? : g.get? npc = g.records.find? fun r => r.npc == npc :=
  g.indexed.bind_eq_find? npc

theorem indexOf?_eq_some_iff (i : Nat) :
    g.indexOf? npc = some i ↔ ∃ r, g.records[i]? = some r ∧ r.npc = npc := by
  unfold indexOf?
  rw [g.indexed npc i, List.getElem?_map, Option.map_eq_some_iff]

theorem ensure_of_known {g : RelationshipGraph} {npc : NpcId} (h : g.contains npc = true)
    (name : String) : g.ensure npc name = g := dif_pos h

theorem ensure_of_new {g : RelationshipGraph} {npc : NpcId} (h : g.contains npc = false)
    (name : String) : g.ensure npc name = g.append (.zero npc name) h :=
  dif_neg (Bool.eq_false_iff.1 h)

theorem contains_ensure (name : String) : (g.ensure npc name).contains npc = true := by
  cases h : g.contains npc with
  | true => rwa [ensure_of_known h]
  | false =>
    rw [contains_iff, ensure_of_new h]
    exact ⟨.zero npc name, List.mem_append_right _ List.mem_cons_self, rfl⟩

variable {f : Relationship → Relationship} (keeps : ∀ r, (f r).npc = r.npc)

@[simp] theorem index_modify : (g.modify npc f keeps).index = g.index := by
  unfold modify
  split <;> rfl

theorem records_modify :
    (g.modify npc f keeps).records = g.records.map fun r => if r.npc == npc then f r else r := by
  apply List.ext_getElem?
  intro j
  rw [List.getElem?_map]
  -- the place in the index is that of the only relationship with the character
  have hplace : ∀ i r, g.records[j]? = some r → g.indexOf? npc = some i →
      (i = j ↔ r.npc = npc) := by
    intro i r hr hi
    rw [← Option.some_inj, ← hi, indexOf?_eq_some_iff, hr]
    simp
  unfold modify
  split
  · next i hi =>
    rw [List.getElem?_modify]
    cases hr : g.records[j]? with
    | none => rfl
    | some r =>
      show some (if i = j then f r else r) = some (if r.npc == npc then f r else r)
      simp only [hplace i r hr hi, beq_iff_eq]
  · next hnew =>
    cases hr : g.records[j]? with
    | none => rfl
    | some r =>
      have hnpc : r.npc ≠ npc := by
        intro heq
        have hi := (g.indexOf?_eq_some_iff npc j).2 ⟨r, hr, heq⟩
        rw [hnew] at hi
        cases hi
      show some r = some (if r.npc == npc then f r else r)
      rw [if_neg (by simpa using hnpc)]

end

end RelationshipGraph

end LifeStory
