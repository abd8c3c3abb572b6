import Mathlib.Data.Finset.Card
import Mathlib.Data.Finset.Dedup
import LifeStory.Proofs.Session.Tale

/-!
# How soon a storylet recurs

The director keeps the storylets that finished last, and opens none of them. So those that it keeps
differ from each other and from the one that is open, and a storylet that opens again did so only
after as many others have finished as the director keeps.

    Told catalog config l shown → (l.history n).recent.Nodup                    (nodup_recent)
    Told catalog config l (some id) → id ∉ (l.history n).recent                 (notMem_recent)
    Told catalog config (later ++ .opened id now :: (between ++ x :: earlier)) shown →
      x finishes id → id ∉ finished between → n ≤ (finished between).toFinset.card
                                                                                (le_card_of_opened)
-/

namespace LifeStory

namespace Told

variable {catalog : Catalog} {config : Config} {l : Tale} {shown : Option StoryletId}

/-- The storylet that is open is not among those that finished last. -/
theorem notMem_recent {id : StoryletId} (h : Told catalog config l (some id)) :
    id ∉ (l.history config.historyLength.toNat).recent := by
  obtain ⟨t, -, rfl, _, free⟩ := h.free_of_shown
  exact free.recent

/-- What finishes was open, and so it is new among those that finished last. -/
theorem nodup_recent (h : Told catalog config l shown) :
    (l.history config.historyLength.toNat).recent.Nodup := by
  have push : ∀ {h : StoryHistory} {id : StoryletId}, id ∉ h.recent → h.recent.Nodup →
      (h.window.push id).items.reverse.Nodup := by
    intro h id hid hnodup
    unfold StoryHistory.recent at hid hnodup
    rw [List.mem_reverse] at hid
    rw [List.nodup_reverse] at hnodup ⊢
    rw [Window.items_push]
    exact (List.take_sublist _ _).nodup (List.nodup_cons.2 ⟨hid, hnodup⟩)
  induction h with
  | nil => exact .nil
  | opened _ _ _ ih => exact ih
  | resolved before _ ih => exact push before.notMem_recent ih
  | lapsed before _ ih => exact push before.notMem_recent ih

/-- Between a finish of a storylet and its next opening, as many others finish as are kept. -/
theorem le_card_of_opened {later between earlier : Tale} {x : Happening} {id : StoryletId}
    {now : Tick}
    (h : Told catalog config (later ++ .opened id now :: (between ++ x :: earlier)) shown)
    (finishes : x.finished? = some id) (others : id ∉ Tale.finished between) :
    config.historyLength.toNat ≤ (Tale.finished between).toFinset.card := by
  obtain ⟨before, t, -, rfl, free⟩ := h.free_of_opened
  have hfinished : Tale.finished (between ++ x :: earlier) =
      Tale.finished between ++ t.id :: Tale.finished earlier := by
    unfold Tale.finished
    rw [List.filterMap_append, List.filterMap_cons_some finishes]
  have hnodup : ((Tale.finished (between ++ x :: earlier)).take
      config.historyLength.toNat).Nodup := by
    rw [← List.nodup_reverse, ← Tale.recent_history]
    exact before.nodup_recent
  have hrecent := free.recent
  rw [Tale.recent_history, List.mem_reverse] at hrecent
  rw [hfinished] at hnodup hrecent
  generalize config.historyLength.toNat = n at hnodup hrecent ⊢
  -- were there room for one more, the storylet itself would still be kept
  have hle : n ≤ (Tale.finished between).length := by
    by_contra hlt
    rw [List.take_append, List.mem_append, not_or] at hrecent
    obtain ⟨k, hk⟩ := Nat.exists_eq_add_one_of_ne_zero
      (show n - (Tale.finished between).length ≠ 0 by omega)
    rw [hk, List.take_succ_cons] at hrecent
    exact hrecent.2 List.mem_cons_self
  rw [List.take_append_of_le_length hle] at hnodup
  have hsub : ((Tale.finished between).take n).toFinset ⊆ (Tale.finished between).toFinset := by
    intro a ha
    rw [List.mem_toFinset] at ha ⊢
    exact List.mem_of_mem_take ha
  calc n = ((Tale.finished between).take n).length := by rw [List.length_take, Nat.min_eq_left hle]
    _ = ((Tale.finished between).take n).toFinset.card := (List.toFinset_card_of_nodup hnodup).symm
    _ ≤ (Tale.finished between).toFinset.card := Finset.card_le_card hsub

end Told

namespace Session

/-- The director keeps exactly the storylets that finished last, as many as the configuration says,
oldest first. They differ from each other and from the one that is open. A storylet that finished
and opens again does so only after at least as many others, all different, have finished. -/
theorem recent_of_tale {seed : UInt64} {player : Player} {catalog : Catalog} {config : Config}
    {s : Session} (accepted : catalog.Accepted)
    (started : start seed player catalog config = .ok s) (calls : List Call) :
    (s.run calls).director.history.recent =
      ((Tale.finished (s.tale calls)).take config.historyLength.toNat).reverse ∧
    (s.run calls).director.history.recent.Nodup ∧
    (∀ e, (s.run calls).director.active = some e →
      e.storylet ∉ (s.run calls).director.history.recent) ∧
    ∀ later between earlier x id now,
      s.tale calls = later ++ .opened id now :: (between ++ x :: earlier) →
      x.finished? = some id → id ∉ Tale.finished between →
      config.historyLength.toNat ≤ (Tale.finished between).toFinset.card := by
  obtain ⟨htold, hhistory⟩ := told_tale accepted started calls
  refine ⟨?_, ?_, ?_, ?_⟩
  · rw [hhistory, Tale.recent_history]
  · rw [hhistory]
    exact htold.nodup_recent
  · intro e active
    rw [active] at htold
    rw [hhistory]
    exact htold.notMem_recent
  · intro later between earlier x id now htale finishes others
    rw [htale] at htold
    exact htold.le_card_of_opened finishes others

/-- At home one storylet is kept: the tooth, between the chores that were done and those that come
up again. -/
theorem recent_of_tale_homeGame :
    (homeGame.run homeCalls).director.history.recent = ["lost_tooth"] ∧
    1 ≤ (Tale.finished [.resolved "lost_tooth" 73, .opened "lost_tooth" 73]).toFinset.card := by
  obtain ⟨hrecent, -, -, hspacing⟩ := recent_of_tale accepted_homeCatalog start_homeGame homeCalls
  rw [tale_homeGame] at hrecent hspacing
  exact ⟨hrecent, hspacing [] _ _ (.resolved "chores" 72) "chores" 97 rfl rfl (by decide)⟩

end Session

end LifeStory
