import LifeStory.Random.Stream

/-!
# What drawing keeps

However much is drawn from a stream, it stays the stream of its seed and key, and a draw counts
once, however many words it takes. `After n s t` says this of a stream `t` that is left of `s`
after `n` draws. What is drawn lies in the range that it is drawn from, whatever the words are.

    After m s t → After n t u → After (m + n) s u                        (After.trans)
    After 1 s s.unit.2                                                   (after_unit)
    low < high → After 1 s (s.between low high).2                        (after_between)
    After n s (s.skip n)                                                 (after_skip)
    Drew n s (s.skip n)                                                  (drew_skip)
    0 < size → (s.below size).1 < size                                   (below_lt)
    low ≤ high → low ≤ (s.between low high).1 ≤ high                     (mem_between)
-/

namespace LifeStory.Random.Stream

/-- `t` is what is left of `s` after `n` draws. -/
structure After (n : Nat) (s t : Stream) : Prop where
  seed : t.seed = s.seed
  key : t.key = s.key
  draws : t.draws = s.draws + n

/-- The stream after some numbers in `[0, 1)` were drawn from it. -/
def skip (s : Stream) : Nat → Stream
  | 0 => s
  | n + 1 => (s.skip n).unit.2

/-- `t` is the stream after `n` numbers in `[0, 1)` were drawn from `s`, which it counts. -/
structure Drew (n : Nat) (s t : Stream) : Prop where
  skip : t = s.skip n
  draws : t.draws = s.draws + n

/-! ## Lemmas -/

theorem After.refl (s : Stream) : After 0 s s := ⟨rfl, rfl, rfl⟩

theorem After.trans {m n : Nat} {s t u : Stream} (h : After m s t) (h' : After n t u) :
    After (m + n) s u := by
  refine ⟨h'.seed.trans h.seed, h'.key.trans h.key, ?_⟩
  rw [h'.draws, h.draws, Nat.add_assoc]

theorem after_drawn (s : Stream) : After 1 s s.drawn := ⟨rfl, rfl, rfl⟩

/-- A word alone is no draw. -/
theorem after_nextWord (s : Stream) : After 0 s s.nextWord.2 := ⟨rfl, rfl, rfl⟩

theorem after_unit (s : Stream) : After 1 s s.unit.2 := ⟨rfl, rfl, rfl⟩

theorem after_belowWithin (size words : Nat) : ∀ s, After 0 s (belowWithin size s words).2 := by
  induction words with
  | zero => exact After.refl
  | succ words ih =>
    intro s
    unfold belowWithin
    show After 0 s (if _ then _ else _ : Nat × Stream).2
    split
    · exact after_nextWord s
    · exact (after_nextWord s).trans (ih _)

theorem after_between (s : Stream) {low high : Int32} (h : low < high) :
    After 1 s (s.between low high).2 := by
  unfold between
  rw [if_neg (by rwa [Int32.not_le])]
  show After 1 s (if _ then _ else _ : Int32 × Stream).2
  split
  · exact (after_drawn s).trans (after_belowWithin ..)
  · exact (after_drawn s).trans (after_nextWord _)

theorem after_skip (s : Stream) (n : Nat) : After n s (s.skip n) := by
  induction n with
  | zero => exact After.refl s
  | succ n ih => exact ih.trans (after_unit _)

theorem drew_skip (s : Stream) (n : Nat) : Drew n s (s.skip n) := ⟨rfl, (after_skip s n).draws⟩

/-! ## Ranges -/

/-- The upper half of a word times the size is below the size; an unlucky stream gives zero. -/
theorem belowWithin_lt {size : Nat} (h : 0 < size) (words : Nat) :
    ∀ s, (belowWithin size s words).1 < size := by
  induction words with
  | zero => exact fun _ => h
  | succ words ih =>
    intro s
    unfold belowWithin
    show (if _ then _ else _ : Nat × Stream).1 < size
    split
    · have hword := s.nextWord.1.toNat_lt
      show s.nextWord.1.toNat * size / 0x100000000 < size
      rw [Nat.div_lt_iff_lt_mul (by decide), Nat.mul_comm size]
      exact Nat.mul_lt_mul_of_pos_right hword h
    · exact ih _

theorem below_lt {size : Nat} (h : 0 < size) (s : Stream) : (s.below size).1 < size :=
  belowWithin_lt h period s

theorem mem_between (s : Stream) {low high : Int32} (h : low ≤ high) :
    low ≤ (s.between low high).1 ∧ (s.between low high).1 ≤ high := by
  have hlow := low.le_toInt
  have hhigh := high.toInt_lt
  rw [Int32.le_iff_toInt_le] at h
  rw [Int32.le_iff_toInt_le, Int32.le_iff_toInt_le]
  unfold between
  split
  · exact ⟨Int.le_refl _, h⟩
  · dsimp only
    split
    · have hdraw : (s.drawn.below (high.toInt - low.toInt + 1).toNat).1 <
          (high.toInt - low.toInt + 1).toNat := below_lt (by omega) s.drawn
      generalize (s.drawn.below (high.toInt - low.toInt + 1).toNat).1 = n at hdraw
      rw [Int32.toInt_ofInt_of_le (by omega) (by omega)]
      omega
    · -- a range of all words, so that every word lies in it
      have hword := s.drawn.nextWord.1.toInt32.le_toInt
      have hword' := s.drawn.nextWord.1.toInt32.toInt_lt
      dsimp only
      omega

end LifeStory.Random.Stream
