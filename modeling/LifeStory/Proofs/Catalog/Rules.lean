import Mathlib.Data.List.Nodup
import LifeStory.Catalog.Basic
import LifeStory.Proofs.Steps

/-!
# The rules of content

A catalog is built of content that breaks no rule: each storylet, choice and character is right by
itself (`Lawful`), and no id is given twice. The checks look at one item after the other and report
the first fault; that there is none says exactly that all rules are obeyed.

    c.fault? storylet earlier = none ↔ c.Lawful ∧ c.id ∉ earlier          (Choice.fault?_eq_none_iff)
    s.fault? = none ↔ s.Lawful                                          (Storylet.fault?_eq_none_iff)
    c.add s = .ok c' ↔ s.Lawful ∧ no storylet of c has its id ∧ c' is c with s     (add_eq_ok_iff)
    build storylets npcs = .ok c ↔
      Lawful storylets npcs ∧ c = .of (storylets in the order of their ids) npcs  (build_eq_ok_iff)
-/

namespace LifeStory

/-- A check that looks at the items of a list one after the other, with the keys of those before,
finds no fault exactly if each item is right and has a key of its own. -/
theorem forall_and_nodup_iff {α κ φ : Type} {check : List κ → List α → Option φ} {ok : α → Prop}
    {key : α → κ} (nil : ∀ earlier, check earlier [] = none)
    (cons : ∀ earlier a l, check earlier (a :: l) = none ↔
      ok a ∧ key a ∉ earlier ∧ check (key a :: earlier) l = none)
    (earlier : List κ) (l : List α) :
    check earlier l = none ↔
      (∀ a ∈ l, ok a) ∧ (l.map key).Nodup ∧ ∀ a ∈ l, key a ∉ earlier := by
  induction l generalizing earlier with
  | nil => exact iff_of_true (nil earlier) ⟨by simp, List.nodup_nil, by simp⟩
  | cons a l ih =>
    rw [cons, ih, List.map_cons, List.nodup_cons, List.forall_mem_cons, List.forall_mem_cons]
    constructor
    · rintro ⟨hok, hnew, hoks, hnodup, hfresh⟩
      refine ⟨⟨hok, hoks⟩, ⟨?_, hnodup⟩, hnew, ?_⟩
      · intro hmem
        obtain ⟨b, hb, hkey⟩ := List.mem_map.1 hmem
        exact hfresh b hb (hkey ▸ List.mem_cons_self)
      · intro b hb hmem
        exact hfresh b hb (List.mem_cons_of_mem _ hmem)
    · rintro ⟨⟨hok, hoks⟩, ⟨hother, hnodup⟩, hnew, hfresh⟩
      refine ⟨hok, hnew, hoks, hnodup, ?_⟩
      intro b hb hmem
      rcases List.mem_cons.1 hmem with hkey | hmem
      · exact hother (List.mem_map.2 ⟨b, hb, hkey⟩)
      · exact hfresh b hb hmem

/-! ## Choices -/

namespace Choice

/-- The choice is right by itself. -/
structure Lawful (c : Choice) : Prop where
  id : c.id ≠ ""
  heat : c.heat.isFinite = true
  jitter : ∀ d ∈ c.stats, 0 ≤ d.jitter
  amount : ∀ d ∈ c.relationships, d.amount.isFinite = true

theorem fault?_eq_none_iff (c : Choice) (storylet : StoryletId) (earlier : List ChoiceId) :
    c.fault? storylet earlier = none ↔ c.Lawful ∧ c.id ∉ earlier := by
  unfold fault?
  constructor
  · intro h
    split_ifs at h with hid hearlier hheat hjitter hamount
    refine ⟨⟨hid, by simpa using hheat, ?_, by simpa using hamount⟩, hearlier⟩
    intro d hd
    rw [Bool.not_eq_true, List.any_eq_false] at hjitter
    have hnot := hjitter d hd
    rwa [decide_eq_true_eq, Int32.not_lt] at hnot
  · rintro ⟨h, hearlier⟩
    have hheat : ¬(!c.heat.isFinite) = true := by simp [h.heat]
    have hjitter : ¬(c.stats.any fun d => d.jitter < 0) = true := by
      rw [Bool.not_eq_true, List.any_eq_false]
      intro d hd
      rw [decide_eq_true_eq, Int32.not_lt]
      exact h.jitter d hd
    have hamount : ¬(c.relationships.any fun d => !d.amount.isFinite) = true := by
      simpa using h.amount
    rw [if_neg h.id, if_neg hearlier, if_neg hheat, if_neg hjitter, if_neg hamount]

theorem faultIn?_eq_none_iff (storylet : StoryletId) (earlier : List ChoiceId)
    (l : List Choice) :
    faultIn? storylet earlier l = none ↔
      (∀ c ∈ l, c.Lawful) ∧ (l.map Choice.id).Nodup ∧ ∀ c ∈ l, c.id ∉ earlier := by
  apply forall_and_nodup_iff (fun _ => rfl)
  intro earlier c l
  rw [← and_assoc, ← c.fault?_eq_none_iff storylet, faultIn?]
  cases c.fault? storylet earlier with
  | none => simp
  | some fault => simp

end Choice

/-! ## Storylets -/

namespace Storylet

/-- The storylet is right by itself. -/
structure Lawful (s : Storylet) : Prop where
  id : s.id ≠ ""
  choices : s.choices ≠ []
  isFinite_weight : s.weight.isFinite = true
  weight_pos : 0 < s.weight
  intensity : s.intensity ≤ 3
  duration : s.durationHours ≠ some 0
  choice : ∀ c ∈ s.choices, c.Lawful
  nodup_choices : (s.choices.map Choice.id).Nodup

theorem fault?_eq_none_iff (s : Storylet) : s.fault? = none ↔ s.Lawful := by
  unfold fault?
  constructor
  · intro h
    split_ifs at h with hid hchoices hweight hintensity hduration
    obtain ⟨hchoice, hnodup, -⟩ := (Choice.faultIn?_eq_none_iff ..).1 h
    exact ⟨hid, by simpa using hchoices, hweight.1, hweight.2, UInt8.not_lt.1 hintensity, hduration,
      hchoice, hnodup⟩
  · intro h
    have hchoices : ¬s.choices.isEmpty = true := by simp [h.choices]
    have hintensity : ¬greatestIntensity < s.intensity := UInt8.not_lt.2 h.intensity
    rw [if_neg h.id, if_neg hchoices, if_neg (not_not.2 ⟨h.isFinite_weight, h.weight_pos⟩),
      if_neg hintensity, if_neg h.duration, Choice.faultIn?_eq_none_iff]
    exact ⟨h.choice, h.nodup_choices, by simp⟩

end Storylet

/-! ## Characters -/

namespace Npc

theorem faultIn?_eq_none_iff (earlier : List NpcId) (l : List Npc) :
    faultIn? earlier l = none ↔
      (∀ n ∈ l, n.id ≠ "") ∧ (l.map Npc.id).Nodup ∧ ∀ n ∈ l, n.id ∉ earlier := by
  apply forall_and_nodup_iff (fun _ => rfl)
  intro earlier n l
  rw [faultIn?]
  split_ifs with hid hearlier
  · simp [hid]
  · simp [hearlier]
  · simp [hid, hearlier]

end Npc

/-! ## Catalogs -/

namespace Catalog

/-- Content that breaks no rule. -/
structure Lawful (storylets : List Storylet) (npcs : List Npc) : Prop where
  storylet : ∀ s ∈ storylets, s.Lawful
  nodup_storylets : (storylets.map Storylet.id).Nodup
  npc : ∀ n ∈ npcs, n.id ≠ ""
  nodup_npcs : (npcs.map Npc.id).Nodup

variable {storylets storylets' : List Storylet} {npcs npcs' : List Npc}

/-- The rules do not look at the order. -/
theorem Lawful.of_perm (h : Lawful storylets npcs) (hs : storylets'.Perm storylets)
    (hn : npcs'.Perm npcs) : Lawful storylets' npcs' where
  storylet s hmem := h.storylet s (hs.mem_iff.1 hmem)
  nodup_storylets := ((hs.map Storylet.id).nodup_iff).2 h.nodup_storylets
  npc n hmem := h.npc n (hn.mem_iff.1 hmem)
  nodup_npcs := ((hn.map Npc.id).nodup_iff).2 h.nodup_npcs

theorem Lawful.nodup_sorted (h : Lawful storylets npcs) :
    ((sortBy (fun s t => s.id ≤ t.id) storylets).map Storylet.id).Nodup :=
  (((sortBy_perm _ _).map Storylet.id).nodup_iff).2 h.nodup_storylets

/-! ## Building -/

theorem lookup_eq_none_iff (c : Catalog) (id : StoryletId) :
    c.index.lookup id = none ↔ id ∉ c.storylets.map Storylet.id :=
  c.indexed.lookup_eq_none_iff id

theorem add_eq_ok_iff {c c' : Catalog} {s : Storylet} :
    c.add s = .ok c' ↔ s.Lawful ∧ ∃ new : c.index.lookup s.id = none, c' = c.append s new := by
  rw [← s.fault?_eq_none_iff]
  unfold add
  cases hfault : s.fault? with
  | some fault => simp
  | none =>
    by_cases new : c.index.lookup s.id = none
    · simp [new, eq_comm]
    · simp [new]

section Adding

variable {earlier : List Storylet} {s : Storylet} (nodup : (earlier.map Storylet.id).Nodup)

theorem append_of (nodup' : ((earlier ++ [s]).map Storylet.id).Nodup)
    (new : (of earlier npcs nodup).index.lookup s.id = none) :
    (of earlier npcs nodup).append s new = of (earlier ++ [s]) npcs nodup' := by
  have hindex : places ((earlier ++ [s]).map Storylet.id) =
      (s.id, earlier.length) :: places (earlier.map Storylet.id) := by
    rw [List.map_append, List.map_singleton, places_concat, List.length_map]
  unfold of append
  congr 1
  exact hindex.symm

/-- An id is new to a catalog if the ids are still distinct with it. -/
theorem lookup_of_eq_none_iff :
    (of earlier npcs nodup).index.lookup s.id = none ↔
      ((earlier ++ [s]).map Storylet.id).Nodup := by
  rw [lookup_eq_none_iff, List.map_append, List.map_singleton, ← List.concat_eq_append]
  constructor
  · intro hnew
    exact nodup.concat hnew
  · intro nodup' hmem
    rw [List.concat_eq_append] at nodup'
    exact (List.nodup_append.1 nodup').2.2 _ hmem _ List.mem_cons_self rfl

theorem add_of_eq_ok_iff {c : Catalog} :
    (of earlier npcs nodup).add s = .ok c ↔
      s.Lawful ∧
        ∃ nodup' : ((earlier ++ [s]).map Storylet.id).Nodup, c = of (earlier ++ [s]) npcs nodup' := by
  rw [add_eq_ok_iff]
  refine and_congr_right fun _ => ?_
  constructor
  · rintro ⟨new, rfl⟩
    have nodup' := (lookup_of_eq_none_iff nodup).1 new
    exact ⟨nodup', append_of nodup nodup' new⟩
  · rintro ⟨nodup', rfl⟩
    have new : (of earlier npcs nodup).index.lookup s.id = none :=
      (lookup_of_eq_none_iff nodup).2 nodup'
    exact ⟨new, (append_of nodup nodup' new).symm⟩

end Adding

/-- Storylets are added one after the other to those that are there. -/
theorem foldlM_add_eq_ok_iff {earlier l : List Storylet}
    (nodup : (earlier.map Storylet.id).Nodup) {c : Catalog} :
    l.foldlM add (of earlier npcs nodup) = .ok c ↔
      (∀ s ∈ l, s.Lawful) ∧
        ∃ nodup' : ((earlier ++ l).map Storylet.id).Nodup, c = of (earlier ++ l) npcs nodup' := by
  induction l generalizing earlier with
  | nil =>
    rw [List.foldlM_nil]
    simp only [List.append_nil, List.not_mem_nil, false_implies, implies_true, true_and]
    constructor
    · rintro ⟨⟩
      exact ⟨nodup, rfl⟩
    · rintro ⟨-, rfl⟩
      rfl
  | cons s l ih =>
    have hassoc : earlier ++ s :: l = earlier ++ [s] ++ l := by simp
    rw [List.foldlM_cons, List.forall_mem_cons]
    constructor
    · intro h
      obtain ⟨next, hadd, h⟩ := exists_of_bind_eq_ok h
      obtain ⟨hs, nodup', rfl⟩ := (add_of_eq_ok_iff nodup).1 hadd
      obtain ⟨hl, nodup'', rfl⟩ := (ih nodup').1 h
      exact ⟨⟨hs, hl⟩, hassoc ▸ nodup'', by simp only [hassoc]⟩
    · rintro ⟨⟨hs, hl⟩, nodup'', rfl⟩
      have hall : ((earlier ++ [s] ++ l).map Storylet.id).Nodup := hassoc ▸ nodup''
      have nodup' : ((earlier ++ [s]).map Storylet.id).Nodup := by
        rw [List.map_append] at hall
        exact (List.nodup_append.1 hall).1
      rw [(add_of_eq_ok_iff nodup).2 ⟨hs, nodup', rfl⟩]
      exact (ih nodup').2 ⟨hl, hall, by simp only [hassoc]⟩

/-- The catalog that content makes if it breaks no rule. -/
theorem build_eq_ok_iff {c : Catalog} :
    build storylets npcs = .ok c ↔
      ∃ h : Lawful storylets npcs,
        c = of (sortBy (fun s t => s.id ≤ t.id) storylets) npcs h.nodup_sorted := by
  have hperm := sortBy_perm (fun s t : Storylet => s.id ≤ t.id) storylets
  have hfold (c : Catalog) :
      (sortBy (fun s t => s.id ≤ t.id) storylets).foldlM add empty = .ok c ↔
        (∀ s ∈ sortBy (fun s t => s.id ≤ t.id) storylets, s.Lawful) ∧
          ∃ nodup, c = of (sortBy (fun s t => s.id ≤ t.id) storylets) [] nodup :=
    @foldlM_add_eq_ok_iff [] [] _ List.nodup_nil c
  unfold build
  constructor
  · intro h
    obtain ⟨catalog, hsorted, h⟩ := exists_of_bind_eq_ok h
    cases hnpcs : Npc.faultIn? [] npcs with
    | some fault =>
      rw [hnpcs] at h
      cases h
    | none =>
      rw [hnpcs] at h
      cases h
      obtain ⟨hlawful, hnodup, rfl⟩ := (hfold catalog).1 hsorted
      obtain ⟨hnpc, hnodup', -⟩ := (Npc.faultIn?_eq_none_iff ..).1 hnpcs
      have h : Lawful (sortBy (fun s t => s.id ≤ t.id) storylets) npcs :=
        ⟨hlawful, hnodup, hnpc, hnodup'⟩
      exact ⟨h.of_perm hperm.symm (.refl _), rfl⟩
  · rintro ⟨h, rfl⟩
    have hsorted := h.of_perm hperm (.refl _)
    have hstorylets : (sortBy (fun s t => s.id ≤ t.id) storylets).foldlM add empty =
        .ok (of _ [] hsorted.nodup_storylets) :=
      (hfold _).2 ⟨hsorted.storylet, hsorted.nodup_storylets, rfl⟩
    have hnpcs : Npc.faultIn? [] npcs = none :=
      (Npc.faultIn?_eq_none_iff ..).2 ⟨h.npc, h.nodup_npcs, by simp⟩
    rw [hstorylets, hnpcs]
    rfl

end Catalog

end LifeStory
