import LifeStory.Proofs.Catalog.Accepted

/-!
# Catalogs do not depend on the order of content

A catalog that is built has the storylets it was given, in strict order of their ids, and what it
looks up is what it was given: an id finds the storylet that has it, or the name of the character,
and nothing where no item has it. So content in another order makes a catalog that looks the same.

    build storylets npcs = .ok c → Canonical storylets npcs c                   (canonical_of_build)
    Canonical storylets npcs c → Canonical storylets' npcs' c' →
      storylets'.Perm storylets → npcs'.Perm npcs → Alike c c'                     (Canonical.alike)
-/

namespace LifeStory

namespace Catalog

variable {storylets storylets' : List Storylet} {npcs npcs' : List Npc} {c c' : Catalog}

/-- The catalog has the content, in the order of the ids, and finds each item by its id. -/
structure Canonical (storylets : List Storylet) (npcs : List Npc) (c : Catalog) : Prop where
  perm : c.storylets.Perm storylets
  increasing : c.storylets.Pairwise fun s t => s.id < t.id
  get?_eq_some_iff : ∀ id s, c.get? id = some s ↔ s ∈ storylets ∧ s.id = id
  get?_eq_none_iff : ∀ id, c.get? id = none ↔ ∀ s ∈ storylets, s.id ≠ id
  npcName?_eq_some_iff : ∀ id name, c.npcName? id = some name ↔ ⟨id, name⟩ ∈ npcs
  npcName?_eq_none_iff : ∀ id, c.npcName? id = none ↔ ∀ n ∈ npcs, n.id ≠ id

/-- The catalogs have the same storylets and call every character by the same name. -/
structure Alike (c c' : Catalog) : Prop where
  storylets : c'.storylets = c.storylets
  npcName? : ∀ id, c'.npcName? id = c.npcName? id

theorem Alike.get? (h : Alike c c') (id : StoryletId) : c'.get? id = c.get? id := by
  rw [c'.get?_eq_find?, c.get?_eq_find?, h.storylets]

/-! ## Look-ups -/

theorem get?_eq_none_iff (c : Catalog) (id : StoryletId) :
    c.get? id = none ↔ ∀ s ∈ c.storylets, s.id ≠ id := by
  rw [get?_eq_find?]
  simp

theorem npcName?_eq_some_iff (nodup : (c.npcs.map Npc.id).Nodup) (id : NpcId) (name : String) :
    c.npcName? id = some name ↔ ⟨id, name⟩ ∈ c.npcs := by
  unfold npcName?
  rw [Option.map_eq_some_iff]
  constructor
  · rintro ⟨n, hn, rfl⟩
    obtain ⟨hmem, rfl⟩ := (find?_key_eq_some_iff nodup).1 hn
    exact hmem
  · intro hmem
    exact ⟨⟨id, name⟩, (find?_key_eq_some_iff nodup).2 ⟨hmem, rfl⟩, rfl⟩

theorem npcName?_eq_none_iff (c : Catalog) (id : NpcId) :
    c.npcName? id = none ↔ ∀ n ∈ c.npcs, n.id ≠ id := by
  unfold npcName?
  simp

/-! ## Canonical catalogs -/

theorem canonical_of_build (h : build storylets npcs = .ok c) : Canonical storylets npcs c := by
  have haccepted : c.Accepted := ⟨storylets, npcs, h⟩
  obtain ⟨hlawful, hc⟩ := build_eq_ok_iff.1 h
  have hperm : c.storylets.Perm storylets := by
    rw [hc, storylets_of]
    exact sortBy_perm ..
  have hnpcs : c.npcs = npcs := by rw [hc, npcs_of]
  constructor
  case perm => exact hperm
  case increasing => exact haccepted.pairwise_ids_lt
  case get?_eq_some_iff =>
    intro id s
    rw [c.get?_eq_some_iff, hperm.mem_iff]
  case get?_eq_none_iff =>
    intro id
    rw [c.get?_eq_none_iff]
    constructor
    · intro hnone s hs
      exact hnone s (hperm.mem_iff.2 hs)
    · intro hnone s hs
      exact hnone s (hperm.mem_iff.1 hs)
  case npcName?_eq_some_iff =>
    intro id name
    rw [npcName?_eq_some_iff haccepted.lawful.nodup_npcs, hnpcs]
  case npcName?_eq_none_iff =>
    intro id
    rw [npcName?_eq_none_iff, hnpcs]

/-- Content in another order makes a catalog that looks the same. -/
theorem Canonical.alike (h : Canonical storylets npcs c) (h' : Canonical storylets' npcs' c')
    (hs : storylets'.Perm storylets) (hn : npcs'.Perm npcs) : Alike c c' where
  storylets := by
    have hperm : c'.storylets.Perm c.storylets := (h'.perm.trans hs).trans h.perm.symm
    refine List.Perm.eq_of_pairwise ?_ h'.increasing h.increasing hperm
    intro s t _ _ hst hts
    exact absurd hts (String.lt_asymm hst)
  npcName? id := by
    apply Option.ext
    intro name
    rw [h'.npcName?_eq_some_iff, h.npcName?_eq_some_iff, hn.mem_iff]

end Catalog

end LifeStory
