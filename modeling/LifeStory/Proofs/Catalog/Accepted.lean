import LifeStory.Proofs.Catalog.Rules

/-!
# Accepted catalogs

A catalog is accepted if it was built of some content, the empty catalog among them. Its content
breaks no rule and its storylets stand in the order of their ids, which are different, so an id
names one storylet of it.

    (l.map key).Nodup → ((l.find? fun a => key a == k) = some a ↔ a ∈ l ∧ key a = k)
                                                                      (find?_key_eq_some_iff)
    c.Accepted → Lawful c.storylets c.npcs                            (Accepted.lawful)
    c.Accepted → c.storylets.Pairwise (·.id < ·.id)                   (Accepted.pairwise_ids_lt)
-/

namespace LifeStory

/-- Where no key is there twice, looking for a key finds the item that has it. -/
theorem find?_key_eq_some_iff {α κ : Type} [BEq κ] [LawfulBEq κ] {key : α → κ} {l : List α}
    (nodup : (l.map key).Nodup) {k : κ} {a : α} :
    (l.find? fun a => key a == k) = some a ↔ a ∈ l ∧ key a = k := by
  constructor
  · intro h
    exact ⟨List.mem_of_find?_eq_some h, by simpa using List.find?_some h⟩
  · rintro ⟨hmem, rfl⟩
    obtain ⟨b, hb⟩ : ∃ b, (l.find? fun b => key b == key a) = some b := by
      apply Option.isSome_iff_exists.1
      rw [List.find?_isSome]
      exact ⟨a, hmem, by simp⟩
    have hkey : key b = key a := by simpa using List.find?_some hb
    rw [hb, List.inj_on_of_nodup_map nodup (List.mem_of_find?_eq_some hb) hmem hkey]

namespace Storylet

/-- The choice that an id finds has that id. -/
theorem id_of_choice?_eq_some {s : Storylet} {id : ChoiceId} {c : Choice}
    (h : s.choice? id = some c) : c.id = id := by
  unfold choice? at h
  simpa using List.find?_some h

theorem exists_choice? {s : Storylet} {id : ChoiceId} (h : id ∈ s.choices.map Choice.id) :
    ∃ c, s.choice? id = some c := by
  obtain ⟨c, hc, rfl⟩ := List.mem_map.1 h
  apply Option.isSome_iff_exists.1
  unfold choice?
  rw [List.find?_isSome]
  exact ⟨c, hc, by simp⟩

/-- The choices that ids of the storylet find have these ids. -/
theorem map_id_filterMap_choice? {s : Storylet} {ids : List ChoiceId}
    (h : ∀ id ∈ ids, id ∈ s.choices.map Choice.id) :
    (ids.filterMap s.choice?).map Choice.id = ids := by
  induction ids with
  | nil => rfl
  | cons id ids ih =>
    obtain ⟨hid, hids⟩ := List.forall_mem_cons.1 h
    obtain ⟨c, hc⟩ := exists_choice? hid
    rw [List.filterMap_cons_some hc, List.map_cons, ih hids, id_of_choice?_eq_some hc]

end Storylet

namespace Catalog

/-- Was the catalog built of some content? -/
def Accepted (c : Catalog) : Prop := ∃ storylets npcs, build storylets npcs = .ok c

/-! ## Lemmas -/

theorem accepted_empty : Catalog.empty.Accepted := ⟨[], [], rfl⟩

theorem id_of_get?_eq_some {c : Catalog} {id : StoryletId} {s : Storylet}
    (h : c.get? id = some s) : s.id = id :=
  (c.get?_eq_some_iff.1 h).2

theorem get?_of_mem {c : Catalog} {s : Storylet} (hs : s ∈ c.storylets) : c.get? s.id = some s :=
  c.get?_eq_some_iff.2 ⟨hs, rfl⟩

namespace Accepted

variable {c : Catalog}

theorem lawful (h : c.Accepted) : Lawful c.storylets c.npcs := by
  obtain ⟨storylets, npcs, hbuild⟩ := h
  obtain ⟨hlawful, rfl⟩ := build_eq_ok_iff.1 hbuild
  exact hlawful.of_perm (sortBy_perm ..) (.refl _)

/-- The storylets of an accepted catalog stand in the order of their ids. -/
theorem pairwise_ids (h : c.Accepted) : c.storylets.Pairwise fun s t => s.id ≤ t.id := by
  obtain ⟨storylets, npcs, hbuild⟩ := h
  obtain ⟨-, rfl⟩ := build_eq_ok_iff.1 hbuild
  have hsorted : (sortBy (fun s t : Storylet => s.id ≤ t.id) storylets).Pairwise
      fun s t => decide (s.id ≤ t.id) = true := by
    apply pairwise_sortBy
    · intro s t
      simpa using String.le_total s.id t.id
    · intro s t u hst htu
      simp only [decide_eq_true_eq] at hst htu ⊢
      exact String.le_trans hst htu
  simpa only [storylets_of, decide_eq_true_eq] using hsorted

/-- No two of them have the same id, so the order is strict. -/
theorem pairwise_ids_lt (h : c.Accepted) : c.storylets.Pairwise fun s t => s.id < t.id := by
  have hne : c.storylets.Pairwise fun s t => s.id ≠ t.id := List.pairwise_map.1 c.nodup_ids
  refine (h.pairwise_ids.and hne).imp ?_
  rintro s t ⟨hle, hne⟩
  exact String.not_le.1 fun hge => hne (String.le_antisymm hle hge)

theorem nodup_choices (h : c.Accepted) {s : Storylet} (hs : s ∈ c.storylets) :
    (s.choices.map Choice.id).Nodup :=
  (h.lawful.storylet s hs).nodup_choices

theorem jitter_nonneg (h : c.Accepted) {s : Storylet} (hs : s ∈ c.storylets) {choice : Choice}
    (hc : choice ∈ s.choices) {d : StatDelta} (hd : d ∈ choice.stats) : 0 ≤ d.jitter :=
  ((h.lawful.storylet s hs).choice choice hc).jitter d hd

end Accepted

end Catalog

end LifeStory
