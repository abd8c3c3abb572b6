import LifeStory.Proofs.Session.Replay
import LifeStory.Proofs.Session.Tale

/-!
# What happens once

A storylet that is marked to happen once is chosen at most once in a life, and once it was chosen it
is never open again. Only a choice counts: the director looks for a resolution, and resolutions are
the choices in the journal. An event that lapses leaves the storylet as free as one without the mark.

    s.Reachable → (s.director.history.wasResolved id = true ↔ 0 < s.uses id)    (wasResolved_iff_uses)
    s.uses id ≤ (s.run calls).uses id                                           (uses_le_uses_run)
    t.once = true → s.director.active = some e → e.storylet = t.id → s.uses t.id = 0
                                                                                (uses_of_active)
-/

namespace LifeStory

/-- Is it the entry of a choice of the storylet? -/
def JournalEntry.chooses (id : StoryletId) : JournalEntry → Bool
  | step _ => false
  | choose storylet .. => storylet == id

/-- The mark adds one gate to those of the same storylet without it. -/
theorem Director.admits_of_once {d : Director} {t : Storylet} (once : t.once = true)
    (situation : Situation) :
    d.admits t situation = true ↔
      d.history.wasResolved t.id = false ∧
      d.admits { t with once := false } situation = true := by
  rw [admits_iff, admits_iff]
  constructor
  · rintro ⟨mature, unresolved, rest⟩
    exact ⟨unresolved once, mature, nofun, rest⟩
  · rintro ⟨unresolved, mature, -, rest⟩
    exact ⟨mature, fun _ => unresolved, rest⟩

namespace Session

/-- The number of choices of a storylet in the journal. -/
def uses (s : Session) (id : StoryletId) : Nat :=
  s.journal.entries.countP (JournalEntry.chooses id)

theorem uses_stepped (s : Session) (ticks : UInt64) (id : StoryletId) :
    (s.stepped ticks).uses id = s.uses id := by
  unfold uses
  rw [entries_stepped, List.countP_append]
  rfl

theorem uses_chosen (s : Session) (t : Storylet) (c : Choice) (ticks : UInt64) (id : StoryletId) :
    (s.chosen t c ticks).uses id = s.uses id + if t.id = id then 1 else 0 := by
  unfold uses
  rw [entries_chosen, List.countP_append, List.countP_singleton]
  unfold JournalEntry.chooses
  simp only [beq_iff_eq]

theorem wasResolved_iff_uses {s : Session} (h : s.Reachable) (id : StoryletId) :
    s.director.history.wasResolved id = true ↔ 0 < s.uses id := by
  unfold uses
  rw [wasResolved_iff_mem h, List.countP_pos_iff]
  constructor
  · rintro ⟨choice, ticks, hm⟩
    exact ⟨_, hm, beq_self_eq_true id⟩
  · rintro ⟨entry, hm, he⟩
    cases entry with
    | step => cases he
    | choose storylet choice ticks =>
      obtain rfl : storylet = id := beq_iff_eq.1 he
      exact ⟨choice, ticks, hm⟩

/-- The journal loses no entry. -/
theorem uses_le_uses_run {s : Session} (h : s.Reachable) (calls : List Call) (id : StoryletId) :
    s.uses id ≤ (s.run calls).uses id := by
  obtain ⟨entries, hlog, -, -⟩ := performAll_take h calls
  have hentries : (s.run calls).journal.entries = s.journal.entries ++ entries := by
    show (s.run calls).log.reverse = s.log.reverse ++ entries
    rw [hlog, List.reverse_append, List.reverse_reverse]
  unfold uses
  rw [hentries, List.countP_append]
  exact Nat.le_add_right _ _

/-- While a storylet that happens once is open, it was not chosen yet. -/
theorem Reachable.uses_of_active {s : Session} (h : s.Reachable) {t : Storylet}
    (mem : t ∈ s.catalog.storylets) (once : t.once = true) {e : ActiveEvent}
    (active : s.director.active = some e) (storylet : e.storylet = t.id) : s.uses t.id = 0 := by
  obtain ⟨u, hu, hid, _, free⟩ := h.free_of_active active
  have hut : u = t := by
    have hget := Catalog.get?_of_mem hu
    rw [hid, storylet, Catalog.get?_of_mem mem] at hget
    exact (Option.some.inj hget).symm
  subst hut
  have hn := free.once once
  by_contra hpos
  rw [(wasResolved_iff_uses h u.id).2 (by omega)] at hn
  cases hn

/-- A choice is the first one of its storylet, if that happens once. -/
theorem Reachable.uses_le_one {s : Session} (h : s.Reachable) {t : Storylet}
    (mem : t ∈ s.catalog.storylets) (once : t.once = true) : s.uses t.id ≤ 1 := by
  induction h using Reachable.induct with
  | start =>
    show List.countP _ [] ≤ 1
    exact Nat.zero_le 1
  | stepped s n _ _ ih =>
    rw [(continues_stepped s n).catalog] at mem
    rw [uses_stepped]
    exact ih mem
  | chosen s e u c n hs _ ih offers =>
    rw [(continues_chosen s u c n).catalog] at mem
    rw [uses_chosen]
    by_cases hid : u.id = t.id
    · have hzero := hs.uses_of_active mem once offers.active (offers.storylet.trans hid)
      rw [if_pos hid]
      omega
    · rw [if_neg hid]
      exact ih mem

/-- A storylet that happens once is chosen at most once; from then on it is never open again,
whatever is done; and it counts as used by a choice only, so before that the director admits it
where it would admit it without the mark. -/
theorem once_at_most {s : Session} (h : s.Reachable) {t : Storylet}
    (mem : t ∈ s.catalog.storylets) (once : t.once = true) :
    s.uses t.id ≤ 1 ∧
    (s.uses t.id = 1 → ∀ calls e, (s.run calls).director.active = some e → e.storylet ≠ t.id) ∧
    ∀ situation, s.director.admits t situation = true ↔
      s.uses t.id = 0 ∧ s.director.admits { t with once := false } situation = true := by
  refine ⟨h.uses_le_one mem once, ?_, ?_⟩
  · intro hone calls e active storylet
    have hmem : t ∈ (s.run calls).catalog.storylets := by
      rw [(continues_run s calls).catalog]
      exact mem
    have hzero := (h.run calls).uses_of_active hmem once active storylet
    have hle := uses_le_uses_run h calls t.id
    omega
  · intro situation
    have hunresolved : s.director.history.wasResolved t.id = false ↔ s.uses t.id = 0 := by
      rw [← Bool.not_eq_true, wasResolved_iff_uses h]
      omega
    rw [Director.admits_of_once once, hunresolved]

/-- At home the tooth lapses, opens again and is chosen, and then it is gone. -/
theorem once_at_most_homeGame :
    (homeGame.run homeCalls).uses "lost_tooth" = 1 ∧
    ∀ calls e, ((homeGame.run homeCalls).run calls).director.active = some e →
      e.storylet ≠ "lost_tooth" := by
  have hr : homeGame.Reachable := .start accepted_homeCatalog start_homeGame
  have hmem : lostTooth ∈ (homeGame.run homeCalls).catalog.storylets := by
    rw [(continues_run homeGame homeCalls).catalog,
      show homeGame.catalog = homeCatalog from (continues_pass ..).catalog]
    exact List.mem_cons_of_mem _ List.mem_cons_self
  have huses : (homeGame.run homeCalls).uses "lost_tooth" = 1 := by decide +kernel
  exact ⟨huses, (once_at_most (hr.run homeCalls) hmem rfl).2.1 huses⟩

end Session

end LifeStory
