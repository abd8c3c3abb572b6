/-!
# Stable sorting

`sortBy` arranges a list by a comparison. Items that stand beside each other in the order keep
their places relative to each other, because an item is put before the first one that it does not
come after.

    (sortBy le l).Perm l                                              (sortBy_perm)
    le total and transitive → (sortBy le l).Pairwise (le · ·)         (pairwise_sortBy)
    (sortBy le l).Pairwise fun a b => le b a → [a, b].Sublist l       (stable_sortBy)
    l.Pairwise (le · ·) → sortBy le l = l                             (sortBy_of_pairwise)
-/

namespace LifeStory

variable {α : Type}

/-- Puts an item before the first one that it does not come after. -/
def insertBy (le : α → α → Bool) (a : α) : List α → List α
  | [] => [a]
  | b :: l => if le a b then a :: b :: l else b :: insertBy le a l

/-- The items in order. -/
def sortBy (le : α → α → Bool) : List α → List α
  | [] => []
  | a :: l => insertBy le a (sortBy le l)

/-! ## Lemmas -/

theorem insertBy_perm (le : α → α → Bool) (a : α) (l : List α) :
    (insertBy le a l).Perm (a :: l) := by
  fun_induction insertBy le a l with
  | case1 => exact .refl _
  | case2 => exact .refl _
  | case3 b l _ ih => exact (ih.cons b).trans (.swap ..)

theorem sortBy_perm (le : α → α → Bool) (l : List α) : (sortBy le l).Perm l := by
  induction l with
  | nil => exact .refl _
  | cons a l ih => exact (insertBy_perm ..).trans (ih.cons a)

theorem pairwise_insertBy {le : α → α → Bool} (total : ∀ a b, le a b ∨ le b a)
    (trans : ∀ {a b c}, le a b → le b c → le a c) (a : α) {l : List α}
    (h : l.Pairwise (le · ·)) : (insertBy le a l).Pairwise (le · ·) := by
  fun_induction insertBy le a l with
  | case1 => exact List.pairwise_singleton ..
  | case2 b l hab =>
    refine List.pairwise_cons.2 ⟨fun c hc => ?_, h⟩
    rcases List.mem_cons.1 hc with rfl | hc
    · exact hab
    · exact trans hab ((List.pairwise_cons.1 h).1 c hc)
  | case3 b l hab ih =>
    refine List.pairwise_cons.2 ⟨fun c hc => ?_, ih (List.pairwise_cons.1 h).2⟩
    rcases List.mem_cons.1 ((insertBy_perm ..).mem_iff.1 hc) with rfl | hc
    · exact (total c b).resolve_left hab
    · exact (List.pairwise_cons.1 h).1 c hc

theorem pairwise_sortBy {le : α → α → Bool} (total : ∀ a b, le a b ∨ le b a)
    (trans : ∀ {a b c}, le a b → le b c → le a c) (l : List α) :
    (sortBy le l).Pairwise (le · ·) := by
  induction l with
  | nil => exact .nil
  | cons a l ih => exact pairwise_insertBy total trans a ih

theorem stable_insertBy {le : α → α → Bool} (a : α) {l sorted : List α}
    (mem : ∀ b ∈ sorted, b ∈ l)
    (h : sorted.Pairwise fun b c => le c b → [b, c].Sublist l) :
    (insertBy le a sorted).Pairwise fun b c => le c b → [b, c].Sublist (a :: l) := by
  fun_induction insertBy le a sorted with
  | case1 => exact List.pairwise_singleton ..
  | case2 b sorted hab =>
    refine List.pairwise_cons.2 ⟨fun c hc _ => ?_, h.imp fun hbc hle => (hbc hle).cons a⟩
    exact (List.singleton_sublist.2 (mem c hc)).cons_cons a
  | case3 b sorted hab ih =>
    obtain ⟨hb, hsorted⟩ := List.pairwise_cons.1 h
    have hmem : ∀ c ∈ sorted, c ∈ l := fun c hc => mem c (List.mem_cons_of_mem b hc)
    refine List.pairwise_cons.2 ⟨fun c hc hle => ?_, ih hmem hsorted⟩
    obtain rfl | hc := List.mem_cons.1 ((insertBy_perm ..).mem_iff.1 hc)
    · exact absurd hle hab
    · exact (hb c hc hle).cons a

/-- Of two items that stand beside each other in the order, the one that was first stays first. -/
theorem stable_sortBy (le : α → α → Bool) (l : List α) :
    (sortBy le l).Pairwise fun a b => le b a → [a, b].Sublist l := by
  induction l with
  | nil => exact .nil
  | cons a l ih => exact stable_insertBy a (fun b hb => (sortBy_perm le l).mem_iff.1 hb) ih

theorem sortBy_of_pairwise {le : α → α → Bool} {l : List α} (h : l.Pairwise (le · ·)) :
    sortBy le l = l := by
  induction l with
  | nil => rfl
  | cons a l ih =>
    obtain ⟨ha, hl⟩ := List.pairwise_cons.1 h
    show insertBy le a (sortBy le l) = a :: l
    rw [ih hl]
    cases l with
    | nil => rfl
    | cons b l => exact if_pos (ha b List.mem_cons_self)

end LifeStory
