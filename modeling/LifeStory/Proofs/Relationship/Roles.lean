import LifeStory.Proofs.Precision.TotalOrder
import LifeStory.Relationship.Basic

/-!
# Hostile roles

A role is hostile exactly if there is much resentment or little trust, whatever the other axes are
(`isNegative_role_iff`): the hostile rungs of the ladder are tried first, and the rung of rivals is
below those of enemies and of the conflicted. An axis that is no number is past no threshold. So
someone hostile stays hostile while resentment grows or trust falls.

    r.role.isNegative = true ↔ 4 ≤ r.resentment ∨ r.trust ≤ -5               (isNegative_role_iff)
    both directions, and what follows for other values of the axes           (negative_role)
-/

namespace LifeStory.Relationship

theorem isNegative_roleOf_iff (affection trust attraction familiarity resentment : Float32) :
    (roleOf affection trust attraction familiarity resentment).isNegative = true ↔
      4 ≤ resentment ∨ trust ≤ -5 := by
  have hseven : 7 ≤ resentment → 4 ≤ resentment := Precision.le_trans (by decide)
  unfold roleOf
  split
  · next h => exact iff_of_true rfl (.inl (hseven h.1))
  split
  · next h => exact iff_of_true rfl (.inl (hseven h))
  split
  · next h => exact iff_of_true rfl (.inl h)
  split
  · next h => exact iff_of_true rfl (.inr h)
  -- no rung that is left is hostile
  · next hresentment htrust =>
    refine iff_of_false ?_ (not_or.2 ⟨hresentment, htrust⟩)
    split_ifs <;> exact Bool.false_ne_true

theorem isNegative_role_iff (r : Relationship) :
    r.role.isNegative = true ↔ 4 ≤ r.resentment ∨ r.trust ≤ -5 := isNegative_roleOf_iff ..

/-- A role is hostile exactly past one of two thresholds. Past them no affection, attraction or
familiarity makes it friendly, romantic or neutral; and more resentment or less trust, with the other
axes as they were, never makes a hostile role another. -/
theorem negative_role (r : Relationship) :
    (r.role.isNegative = true ↔ 4 ≤ r.resentment ∨ r.trust ≤ -5) ∧
    (4 ≤ r.resentment ∨ r.trust ≤ -5 → ∀ affection attraction familiarity : Float32,
      ({ r with affection, attraction, familiarity } : Relationship).role ∉
        [.friend, .closeFriend, .crush, .partner, .acquaintance, .stranger]) ∧
    (r.role.isNegative = true → ∀ resentment, r.resentment ≤ resentment →
      (r.set .resentment resentment).role.isNegative = true) ∧
    (r.role.isNegative = true → ∀ trust, trust ≤ r.trust →
      (r.set .trust trust).role.isNegative = true) := by
  refine ⟨r.isNegative_role_iff, ?_, ?_, ?_⟩
  · intro h affection attraction familiarity
    have hnegative := (isNegative_role_iff { r with affection, attraction, familiarity }).2 h
    intro hmem
    have hnone : ∀ role ∈ [Role.friend, .closeFriend, .crush, .partner, .acquaintance, .stranger],
        role.isNegative = false := by decide
    rw [hnone _ hmem] at hnegative
    cases hnegative
  · intro h resentment hmore
    rw [isNegative_role_iff] at h ⊢
    exact h.imp_left fun h => Precision.le_trans h hmore
  · intro h trust hless
    rw [isNegative_role_iff] at h ⊢
    exact h.imp_right fun h => Precision.le_trans hless h

/-- Someone loved and resented at once. -/
def rivalSister : Relationship := ⟨"sis", "Sis", 9, 6, 0, 8, 4.5⟩

/-- No affection mends it, be it without bound or no number at all; without bound resentment and
distrust keep it hostile. -/
theorem negative_role_rivalSister :
    rivalSister.role = .rival ∧ 4 ≤ rivalSister.resentment ∧ ¬rivalSister.trust ≤ -5 ∧
    rivalSister.resentment ≤ 1 / 0 ∧ (rivalSister.set .resentment (1 / 0)).role.isNegative = true ∧
    -1 / 0 ≤ rivalSister.trust ∧ (rivalSister.set .trust (-1 / 0)).role.isNegative = true ∧
    ({ rivalSister with affection := 1 / 0, attraction := 0 / 0, familiarity := 10 } :
      Relationship).role ∉ [.friend, .closeFriend, .crush, .partner, .acquaintance, .stranger] := by
  obtain ⟨hnegative, hmend, hresentment, htrust⟩ := negative_role rivalSister
  have hfour : 4 ≤ rivalSister.resentment := by decide
  have hmore : rivalSister.resentment ≤ 1 / 0 := by decide
  have hless : -1 / 0 ≤ rivalSister.trust := by decide
  have h := hnegative.2 (.inl hfour)
  exact ⟨by decide, hfour, by decide, hmore, hresentment h _ hmore, hless, htrust h _ hless,
    hmend (.inl hfour) _ _ _⟩

end LifeStory.Relationship
