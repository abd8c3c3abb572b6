/-!
# Bounded windows

A window keeps the newest of the items that were put into it, newest first, up to its capacity.
A window of capacity zero keeps nothing. Room for a full window is set aside when it is made, which
is only possible if no more bytes are asked for than an object can have (`Roomy`).

    (w.push a).items = (a :: w.items).take w.capacity        (items_push)
    w.items = l.take w.capacity →
      (w.push a).items = (a :: l).take w.capacity            (items_push_of_take)
    w.capacity = 0 → w.push a = w                            (push_of_zero)
-/

namespace LifeStory

/-- The newest items of a sequence, newest first. -/
structure Window (α : Type) where
  capacity : Nat
  items : List α
  length_le : items.length ≤ capacity

namespace Window

variable {α : Type}

def empty (capacity : Nat) : Window α := ⟨capacity, [], Nat.zero_le _⟩

/-- The greatest number of bytes in an object. -/
def greatestObject : Nat := 0x7FFFFFFFFFFFFFFF

/-- Can a window of items of that many bytes be made? -/
def Roomy (itemBytes capacity : Nat) : Prop := capacity * itemBytes ≤ greatestObject

instance (itemBytes capacity : Nat) : Decidable (Roomy itemBytes capacity) :=
  inferInstanceAs (Decidable (capacity * itemBytes ≤ greatestObject))

/-- The items that stay when another is put in: where the window is full, the oldest falls out. -/
def kept (w : Window α) : List α :=
  if w.items.length = w.capacity then w.items.dropLast else w.items

theorem length_kept_lt {w : Window α} (h : w.capacity ≠ 0) : w.kept.length < w.capacity := by
  have hle := w.length_le
  unfold kept
  split
  · rw [List.length_dropLast]
    omega
  · omega

/-- Puts an item in. A window of capacity zero stays as it is. -/
def push (w : Window α) (a : α) : Window α :=
  if room : w.capacity = 0 then w else ⟨w.capacity, a :: w.kept, length_kept_lt room⟩

/-! ## Lemmas -/

@[simp] theorem items_empty (capacity : Nat) : (empty capacity : Window α).items = [] := rfl

@[simp] theorem capacity_push (w : Window α) (a : α) : (w.push a).capacity = w.capacity := by
  unfold push
  split <;> rfl

theorem kept_eq_take (w : Window α) : w.kept = w.items.take (w.capacity - 1) := by
  have hle := w.length_le
  unfold kept
  split
  · next full => rw [List.dropLast_eq_take, full]
  · exact (List.take_of_length_le (by omega)).symm

theorem items_push (w : Window α) (a : α) :
    (w.push a).items = (a :: w.items).take w.capacity := by
  unfold push
  split
  · next hzero =>
    have hempty : w.items = [] := List.length_eq_zero_iff.1 (Nat.le_zero.1 (hzero ▸ w.length_le))
    rw [hzero, List.take_zero, hempty]
  · next hroom =>
    rw [List.take_cons (Nat.pos_of_ne_zero hroom)]
    exact congrArg (a :: ·) w.kept_eq_take

@[ext] theorem ext_items {v w : Window α} (hc : v.capacity = w.capacity)
    (hi : v.items = w.items) : v = w := by
  cases v; cases w; cases hc; cases hi; rfl

/-- A window with the newest items of a sequence has those of the sequence with one item more. -/
theorem items_push_of_take {w : Window α} {l : List α} (h : w.items = l.take w.capacity) (a : α) :
    (w.push a).items = (a :: l).take w.capacity := by
  rw [items_push, h]
  cases w.capacity with
  | zero => rfl
  | succ n =>
    rw [List.take_succ_cons, List.take_succ_cons, List.take_take, Nat.min_eq_left (Nat.le_succ n)]

theorem items_push_of_pos {w : Window α} (h : 0 < w.capacity) (a : α) :
    (w.push a).items = a :: w.items.take (w.capacity - 1) := by
  rw [items_push, List.take_cons h]

theorem push_of_zero {w : Window α} (h : w.capacity = 0) (a : α) : w.push a = w := dif_pos h

end Window

end LifeStory
