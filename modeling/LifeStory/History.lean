import LifeStory.Window
import LifeStory.Calendar.Clock

/-!
# What has been told

The storylets that finished. Each is resolved by a choice or expires without one. The last few
of both kinds are not selected again for a while; of the resolved ones the tick of the latest
resolution is kept for good.

    (h.recordResolved i t).lastResolvedAt? j = if j = i then some t else h.lastResolvedAt? j
                                                                   (lastResolvedAt?_recordResolved)
-/

namespace LifeStory

/-- Names a storylet of a catalog. -/
abbrev StoryletId := String

/-- The storylets that finished. -/
structure StoryHistory where
  /-- Those that finished last, newest first. -/
  window : Window StoryletId
  /-- The tick of the latest resolution of each storylet that was resolved, newest first. -/
  resolutions : List (StoryletId × Tick)
  resolvedCount : Nat

/-- Taking the entries of one key out of a list leaves those of another. -/
theorem lookup_filter_ne {α β : Type} [BEq α] [LawfulBEq α] (l : List (α × β)) {i j : α}
    (h : j ≠ i) : (l.filter fun r => r.1 != i).lookup j = l.lookup j := by
  induction l with
  | nil => rfl
  | cons r l ih =>
    obtain ⟨k, t⟩ := r
    by_cases hk : k = i
    · subst hk
      simp [List.lookup_cons, ih, beq_eq_false_iff_ne.2 h]
    · simp [List.lookup_cons, ih, hk]

namespace StoryHistory

/-- The bytes that an id takes: a text by its place, length and capacity. -/
def itemBytes : Nat := 24

def empty (capacity : Nat) : StoryHistory := ⟨.empty capacity, [], 0⟩

/-- A choice was made. -/
def recordResolved (h : StoryHistory) (id : StoryletId) (tick : Tick) : StoryHistory where
  window := h.window.push id
  resolutions := (id, tick) :: h.resolutions.filter fun r => r.1 != id
  resolvedCount := h.resolvedCount + 1

/-- The event closed without a choice. -/
def recordExpired (h : StoryHistory) (id : StoryletId) : StoryHistory :=
  { h with window := h.window.push id }

/-- Did the storylet finish among the last? -/
def isRecent (h : StoryHistory) (id : StoryletId) : Bool := h.window.items.contains id

/-- The tick of the latest resolution. -/
def lastResolvedAt? (h : StoryHistory) (id : StoryletId) : Option Tick := h.resolutions.lookup id

def wasResolved (h : StoryHistory) (id : StoryletId) : Bool := (h.lastResolvedAt? id).isSome

/-- The storylets that finished last, oldest first. -/
def recent (h : StoryHistory) : List StoryletId := h.window.items.reverse

/-! ## Lemmas -/

theorem lastResolvedAt?_recordResolved (h : StoryHistory) (i j : StoryletId) (t : Tick) :
    (h.recordResolved i t).lastResolvedAt? j = if j = i then some t else h.lastResolvedAt? j := by
  unfold lastResolvedAt? recordResolved
  by_cases hj : j = i
  · simp [hj]
  · simp [List.lookup_cons, hj, beq_eq_false_iff_ne.2 hj, lookup_filter_ne _ hj]

@[simp] theorem lastResolvedAt?_recordExpired (h : StoryHistory) (i j : StoryletId) :
    (h.recordExpired i).lastResolvedAt? j = h.lastResolvedAt? j := rfl

end StoryHistory

end LifeStory
