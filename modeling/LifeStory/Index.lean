/-!
# Indexes

An index holds the place of every key of a list, so that an item can be looked up without a search.
It is built up with the list: whoever is put last is noted with the length of the list before.

    Indexes index keys → keys.Nodup                                          (Indexes.nodup)
    Indexes index (l.map key) →
      ((index.lookup k).bind (l[·]?) = some a ↔ a ∈ l ∧ key a = k)           (Indexes.bind_eq_some_iff)
    Indexes index (l.map key) →
      (index.lookup k).bind (l[·]?) = l.find? fun a => key a == k            (Indexes.bind_eq_find?)
-/

namespace LifeStory

variable {κ : Type} [BEq κ]

/-- The index has the place of every key of the list, and of nothing else. So no key is there twice. -/
def Indexes (index : List (κ × Nat)) (keys : List κ) : Prop :=
  ∀ k i, index.lookup k = some i ↔ keys[i]? = some k

namespace Indexes

variable {index : List (κ × Nat)} {keys : List κ}

theorem nil : Indexes ([] : List (κ × Nat)) [] := fun _ _ => by simp

/-- A new key is put last. -/
theorem concat [LawfulBEq κ] (h : Indexes index keys) {new : κ} (absent : index.lookup new = none) :
    Indexes ((new, keys.length) :: index) (keys ++ [new]) := by
  intro k i
  rw [List.lookup_cons]
  by_cases hk : k = new
  · subst hk
    rw [beq_self_eq_true]
    show some keys.length = some i ↔ _
    constructor
    · rintro ⟨⟩
      exact List.getElem?_concat_length
    · intro hi
      obtain hlt | heq | hgt := Nat.lt_trichotomy i keys.length
      · rw [List.getElem?_append_left hlt, ← h k i, absent] at hi
        cases hi
      · rw [heq]
      · rw [List.getElem?_eq_none (by simp; omega)] at hi
        cases hi
  · rw [beq_false_of_ne hk]
    show index.lookup k = some i ↔ _
    rw [h k i]
    constructor
    · intro hi
      rw [List.getElem?_append_left (List.getElem?_eq_some_iff.1 hi).1, hi]
    · intro hi
      by_cases hlt : i < keys.length
      · rwa [List.getElem?_append_left hlt] at hi
      · rw [List.getElem?_append_right (Nat.le_of_not_lt hlt)] at hi
        exact absurd (List.mem_singleton.1 (List.mem_of_getElem? hi)) hk

theorem nodup (h : Indexes index keys) : keys.Nodup := by
  rw [List.nodup_iff_pairwise_ne, List.pairwise_iff_getElem]
  intro i j hi hj hij heq
  have hfirst := (h keys[i] i).2 (List.getElem?_eq_getElem hi)
  have hsecond := (h keys[i] j).2 (heq ▸ List.getElem?_eq_getElem hj)
  rw [hfirst, Option.some_inj] at hsecond
  omega

theorem isSome_lookup (h : Indexes index keys) (k : κ) :
    (index.lookup k).isSome = true ↔ k ∈ keys := by
  rw [Option.isSome_iff_exists, List.mem_iff_getElem?]
  exact exists_congr (h k)

theorem lookup_eq_none_iff (h : Indexes index keys) (k : κ) :
    index.lookup k = none ↔ k ∉ keys := by
  rw [← h.isSome_lookup, Option.not_isSome_iff_eq_none]

/-! ## Looking up -/

variable {α : Type} {key : α → κ} {l : List α}

theorem bind_eq_some_iff (h : Indexes index (l.map key)) (k : κ) (a : α) :
    ((index.lookup k).bind fun i => l[i]?) = some a ↔ a ∈ l ∧ key a = k := by
  rw [Option.bind_eq_some_iff, List.mem_iff_getElem?]
  constructor
  · rintro ⟨i, hi, ha⟩
    have hk := (h k i).1 hi
    rw [List.getElem?_map, ha] at hk
    exact ⟨⟨i, ha⟩, Option.some_inj.1 hk⟩
  · rintro ⟨⟨i, ha⟩, rfl⟩
    refine ⟨i, (h (key a) i).2 ?_, ha⟩
    rw [List.getElem?_map, ha]
    rfl

theorem bind_eq_find? [LawfulBEq κ] (h : Indexes index (l.map key)) (k : κ) :
    ((index.lookup k).bind fun i => l[i]?) = l.find? fun a => key a == k := by
  cases hfind : l.find? fun a => key a == k with
  | none =>
    rw [Option.eq_none_iff_forall_ne_some]
    intro a ha
    obtain ⟨hmem, hk⟩ := (h.bind_eq_some_iff k a).1 ha
    exact List.find?_eq_none.1 hfind a hmem (beq_iff_eq.2 hk)
  | some a =>
    rw [h.bind_eq_some_iff]
    have hk := List.find?_some (p := fun a => key a == k) hfind
    exact ⟨List.mem_of_find?_eq_some hfind, beq_iff_eq.1 hk⟩

end Indexes

/-! ## Places -/

/-- The keys of a list with their places, last first. -/
def places (keys : List κ) : List (κ × Nat) := keys.zipIdx.reverse

omit [BEq κ] in
theorem places_concat (keys : List κ) (new : κ) :
    places (keys ++ [new]) = (new, keys.length) :: places keys := by
  unfold places
  rw [List.zipIdx_append, List.reverse_append]
  simp

theorem indexes_places [LawfulBEq κ] {keys : List κ} (nodup : keys.Nodup) : Indexes (places keys) keys := by
  generalize hn : keys.length = n
  induction n generalizing keys with
  | zero =>
    obtain rfl := List.length_eq_zero_iff.1 hn
    exact .nil
  | succ n ih =>
    obtain ⟨init, last, rfl⟩ : ∃ init last, keys = init ++ [last] :=
      ⟨_, _, (List.dropLast_concat_getLast (List.ne_nil_of_length_eq_add_one hn)).symm⟩
    obtain ⟨hinit, -, hnew⟩ := List.nodup_append.1 nodup
    have h := ih hinit (by simpa using hn)
    rw [places_concat]
    refine h.concat ((h.lookup_eq_none_iff last).2 ?_)
    intro hmem
    exact hnew last hmem last List.mem_cons_self rfl

end LifeStory
