import LifeStory.Proofs.Director.Resolution
import LifeStory.Proofs.Stats.Order

/-!
# Difficulty and jitter

What is drawn for the changes of a choice depends neither on the difficulty nor on the attributes, so
the draws can be made first and the changes applied afterwards (`foldl_applyStat`). Then a resolution
is a list of shifts, a change and its jitter each, and everything about the order of outcomes is one
induction over two lists of shifts of the same changes (`shiftAll_le`): at the harder difficulty, or
with the lesser jitters, no attribute ends higher.

    deltas.foldl (applyStat difficulty) (l, stream) =
      (l.shiftAll difficulty (drawShifts deltas stream).1, (drawShifts deltas stream).2)
                                                                        (foldl_applyStat)
    d.Harder e → xs, ys of the same changes, jitter by jitter xs at most ys → l ≤ m →
      l.shiftAll d xs ≤ m.shiftAll e ys                                 (shiftAll_le)
    the outcomes of one choice are ordered by the difficulty alone      (resolve_ordered)
    an outcome lies between those of the extreme jitters                (resolve_within_jitter)
-/

namespace LifeStory

open LifeStory.Random (Stream)

/-- A change of an attribute, and what jitter adds to it. -/
structure Shift where
  change : StatDelta
  jitter : Int32

namespace Shift

/-- The greatest loss that the jitter of a change allows. -/
def lowest (change : StatDelta) : Shift := ⟨change, -change.jitter⟩

/-- The greatest gain that the jitter of a change allows. -/
def highest (change : StatDelta) : Shift := ⟨change, change.jitter⟩

/-- The same change with at most the same jitter. -/
structure Below (x y : Shift) : Prop where
  change : x.change = y.change
  jitter : x.jitter ≤ y.jitter

theorem Below.refl (x : Shift) : Below x x := ⟨rfl, Int32.le_refl _⟩

end Shift

namespace StatLedger

/-- Applies a change with a jitter that is known, scaled by the difficulty. -/
def shift (difficulty : Difficulty) (l : StatLedger) (x : Shift) : StatLedger :=
  l.applyDelta x.change.stat (difficulty.scale (Word.satAdd x.change.amount x.jitter))

/-- Applies some changes with jitters that are known. -/
def shiftAll (l : StatLedger) (difficulty : Difficulty) (shifts : List Shift) : StatLedger :=
  shifts.foldl (shift difficulty) l

variable {d e : Difficulty} {l m : StatLedger}

theorem shift_le (h : d.Harder e) {x y : Shift} (hxy : x.Below y) (hl : l ≤ m) :
    l.shift d x ≤ m.shift e y := by
  unfold shift
  rw [← hxy.change]
  exact applyDelta_le hl _ (h.scale_le (Word.satAdd_le_satAdd (Int32.le_refl _) hxy.jitter))

theorem shiftAll_le (h : d.Harder e) {xs ys : List Shift} (hxy : List.Forall₂ Shift.Below xs ys)
    (hl : l ≤ m) : l.shiftAll d xs ≤ m.shiftAll e ys := by
  induction hxy generalizing l m with
  | nil => exact hl
  | cons hxy _ ih => exact ih (shift_le h hxy hl)

theorem shiftAll_le_of_harder (h : d.Harder e) (l : StatLedger) (xs : List Shift) :
    l.shiftAll d xs ≤ l.shiftAll e xs :=
  shiftAll_le h (List.forall₂_same.2 fun x _ => Shift.Below.refl x) (le_refl l)

theorem shiftAll_le_of_below {xs ys : List Shift} (h : List.Forall₂ Shift.Below xs ys)
    (d : Difficulty) (l : StatLedger) : l.shiftAll d xs ≤ l.shiftAll d ys :=
  shiftAll_le (Difficulty.Harder.refl d) h (le_refl l)

end StatLedger

namespace Director

/-! ## Drawing first -/

/-- Some changes, each with a draw of its jitter, and the stream that is left. -/
def drawShifts : List StatDelta → Stream → List Shift × Stream
  | [], stream => ([], stream)
  | change :: rest, stream =>
    let (jitter, stream) := drawJitter change stream
    let (shifts, stream) := drawShifts rest stream
    (⟨change, jitter⟩ :: shifts, stream)

theorem foldl_applyStat (difficulty : Difficulty) (deltas : List StatDelta) (l : StatLedger)
    (stream : Stream) :
    deltas.foldl (applyStat difficulty) (l, stream) =
      (l.shiftAll difficulty (drawShifts deltas stream).1, (drawShifts deltas stream).2) := by
  induction deltas generalizing l stream with
  | nil => rfl
  | cons change rest ih => exact ih _ _

theorem drawJitter_of_still {change : StatDelta} (h : ¬0 < change.jitter) (stream : Stream) :
    drawJitter change stream = (0, stream) := if_neg h

/-- A draw lies within the jitter. -/
theorem drawJitter_within {change : StatDelta} (h : 0 ≤ change.jitter) (stream : Stream) :
    -change.jitter ≤ (drawJitter change stream).1 ∧
      (drawJitter change stream).1 ≤ change.jitter := by
  have hnonneg : 0 ≤ change.jitter.toInt := Int32.le_iff_toInt_le.1 h
  have hnonpos : -change.jitter ≤ 0 := by
    rw [Int32.le_iff_toInt_le, Word.toInt_neg_of_nonneg h, Int32.toInt_zero]
    omega
  unfold drawJitter
  split
  · exact stream.mem_between (Int32.le_trans hnonpos h)
  · exact ⟨hnonpos, h⟩

theorem drawShifts_within {deltas : List StatDelta} (h : ∀ change ∈ deltas, 0 ≤ change.jitter)
    (stream : Stream) :
    List.Forall₂ Shift.Below (deltas.map Shift.lowest) (drawShifts deltas stream).1 ∧
      List.Forall₂ Shift.Below (drawShifts deltas stream).1 (deltas.map Shift.highest) := by
  induction deltas generalizing stream with
  | nil => exact ⟨.nil, .nil⟩
  | cons change rest ih =>
    obtain ⟨hchange, hrest⟩ := List.forall_mem_cons.1 h
    obtain ⟨hlow, hhigh⟩ := drawJitter_within hchange stream
    obtain ⟨hlowest, hhighest⟩ := ih hrest (drawJitter change stream).2
    exact ⟨.cons ⟨rfl, hlow⟩ hlowest, .cons ⟨rfl, hhigh⟩ hhighest⟩

theorem drawShifts_of_still {deltas : List StatDelta} (h : ∀ change ∈ deltas, ¬0 < change.jitter)
    (stream : Stream) :
    drawShifts deltas stream = (deltas.map fun change => ⟨change, 0⟩, stream) := by
  induction deltas with
  | nil => rfl
  | cons change rest ih =>
    obtain ⟨hchange, hrest⟩ := List.forall_mem_cons.1 h
    unfold drawShifts
    rw [drawJitter_of_still hchange]
    dsimp only
    rw [ih hrest]
    rfl

/-! ## Outcomes -/

/-- The difficulty reaches the attributes alone. -/
theorem applyChoice_eq (catalog : Catalog) (config : Config) (difficulty : Difficulty) (now : Tick)
    (t : Storylet) (c : Choice) (world : World) (stream : Stream) :
    applyChoice catalog config difficulty now t c world stream =
      let drawn := drawShifts c.stats stream
      let after := (applyChoice catalog config .balanced now t c world stream).1
      ({ after with stats := world.stats.shiftAll difficulty drawn.1 }, drawn.2) := by
  unfold applyChoice
  rw [foldl_applyStat]

/-- What is made of a choice differs between difficulties in the attributes alone, and none of them
is higher with a harder one. -/
theorem resolve_ordered (d : Director) (catalog : Catalog) (storylet : StoryletId)
    (choice : ChoiceId) (config : Config) (now : Tick) (world : World) (stream : Stream) :
    (∃ fault, ∀ difficulty,
      d.resolve catalog storylet choice config difficulty now world stream = .error fault) ∨
    ∃ (director : Director) (after : World) (left : Stream) (stats : Difficulty → StatLedger),
      (∀ difficulty, d.resolve catalog storylet choice config difficulty now world stream =
        .ok (director, { after with stats := stats difficulty }, left)) ∧
      ∀ k, (stats .harsh).read k ≤ (stats .balanced).read k ∧
        (stats .balanced).read k ≤ (stats .relaxed).read k := by
  simp only [resolve_eq]
  cases d.find catalog storylet choice with
  | error fault => exact .inl ⟨fault, fun _ => rfl⟩
  | ok found =>
    obtain ⟨e, t, c⟩ := found
    -- the three difficulties share one list of shifts
    refine .inr ⟨⟨none, d.history.recordResolved e.storylet now⟩,
      (applyChoice catalog config .balanced now t c world stream).1, (drawShifts c.stats stream).2,
      fun difficulty => world.stats.shiftAll difficulty (drawShifts c.stats stream).1,
      fun difficulty => ?_, fun k => ⟨?_, ?_⟩⟩
    · dsimp only [Except.map]
      rw [applyChoice_eq]
    · exact StatLedger.shiftAll_le_of_harder Difficulty.harder_balanced _ _ k
    · exact StatLedger.shiftAll_le_of_harder Difficulty.harder_relaxed _ _ k

/-- With an accepted catalog every attribute ends between the values that the lowest and the highest
jitters give, and where there is no jitter the outcome is the same for all streams. -/
theorem resolve_within_jitter {d : Director} {catalog : Catalog} (accepted : catalog.Accepted)
    {storylet : StoryletId} {choice : ChoiceId} {config : Config} {difficulty : Difficulty}
    {now : Tick} {world : World} {stream : Stream} {director : Director} {after : World}
    {left : Stream}
    (resolved : d.resolve catalog storylet choice config difficulty now world stream =
      .ok (director, after, left)) :
    ∃ e t c, d.Found catalog storylet choice e t c ∧
      (∀ k,
        (world.stats.shiftAll difficulty (c.stats.map Shift.lowest)).read k ≤ after.stats.read k ∧
        after.stats.read k ≤
          (world.stats.shiftAll difficulty (c.stats.map Shift.highest)).read k) ∧
      ((∀ change ∈ c.stats, ¬0 < change.jitter) → ∀ other,
        d.resolve catalog storylet choice config difficulty now world other =
          .ok (director, after, other)) := by
  simp only [resolve_eq] at resolved ⊢
  cases hfind : d.find catalog storylet choice with
  | error fault =>
    rw [hfind] at resolved
    cases resolved
  | ok found =>
    obtain ⟨e, t, c⟩ := found
    have hfound := find_eq_ok_iff.1 hfind
    rw [hfind] at resolved
    dsimp only [Except.map] at resolved
    rw [applyChoice_eq] at resolved
    cases resolved
    -- a negative jitter would be no envelope: its lowest shift would lie above its highest
    have hjitter : ∀ change ∈ c.stats, 0 ≤ change.jitter := fun _ =>
      accepted.jitter_nonneg (catalog.get?_eq_some_iff.1 hfound.get?).1
        (List.mem_of_find?_eq_some hfound.choice?)
    obtain ⟨hlowest, hhighest⟩ := drawShifts_within hjitter stream
    refine ⟨e, t, c, hfound, fun k => ⟨?_, ?_⟩, fun hstill other => ?_⟩
    · exact StatLedger.shiftAll_le_of_below hlowest difficulty world.stats k
    · exact StatLedger.shiftAll_le_of_below hhighest difficulty world.stats k
    · dsimp only [Except.map]
      rw [applyChoice_eq, drawShifts_of_still hstill, drawShifts_of_still hstill]
      rfl

/-- Changes the mood twice, each time with jitter. -/
def toss : Choice where
  id := "toss"
  label := "Toss it"
  stats := [⟨.mood, 4, 6⟩, ⟨.mood, -3, 2⟩]

def walkOn : Choice where
  id := "walk_on"
  label := "Walk on"
  stats := [⟨.mood, -1, 0⟩]

def coinToss : Storylet where
  id := "coin_toss"
  title := "Coin Toss"
  choices := [toss, walkOn]

def coinCatalog : Catalog := .of [coinToss] [] (by decide)

def coinDirector : Director := ⟨some ⟨"coin_toss", ["toss", "walk_on"], 0, 72⟩, .empty 4⟩

def coinWorld : World := ⟨.resting, .empty, .initial, .empty 4⟩

theorem accepted_coinCatalog : coinCatalog.Accepted := ⟨[coinToss], [], rfl⟩

theorem resolve_within_jitter_coinToss :
    (∃ director after left,
      coinDirector.resolve coinCatalog "coin_toss" "toss" {} .harsh 5 coinWorld (.ofSeed 7) =
        .ok (director, after, left) ∧ -11 ≤ after.stats.mood ∧ after.stats.mood ≤ 8) ∧
    ∃ director after,
      coinDirector.resolve coinCatalog "coin_toss" "walk_on" {} .harsh 5 coinWorld (.ofSeed 7) =
        .ok (director, after, .ofSeed 7) ∧
      coinDirector.resolve coinCatalog "coin_toss" "walk_on" {} .harsh 5 coinWorld (.ofSeed 8) =
        .ok (director, after, .ofSeed 8) := by
  constructor
  · obtain ⟨director, after, left, h⟩ : ∃ director after left,
        coinDirector.resolve coinCatalog "coin_toss" "toss" {} .harsh 5 coinWorld (.ofSeed 7) =
          .ok (director, after, left) := ⟨_, _, _, resolve_of_found rfl rfl rfl⟩
    obtain ⟨e, t, c, found, hbetween, -⟩ := resolve_within_jitter accepted_coinCatalog h
    obtain rfl : coinToss = t := Option.some.inj found.get?
    obtain rfl : toss = c := Option.some.inj found.choice?
    obtain ⟨hlowest, hhighest⟩ := hbetween .mood
    refine ⟨director, after, left, h, Int32.le_trans ?_ hlowest, Int32.le_trans hhighest ?_⟩
    · decide +kernel
    · decide +kernel
  · have h : coinDirector.resolve coinCatalog "coin_toss" "walk_on" {} .harsh 5 coinWorld
        (.ofSeed 7) = .ok (_, _, .ofSeed 7) := rfl
    obtain ⟨e, t, c, found, -, hstill⟩ := resolve_within_jitter accepted_coinCatalog h
    obtain rfl : coinToss = t := Option.some.inj found.get?
    obtain rfl : walkOn = c := Option.some.inj found.choice?
    exact ⟨_, _, h, hstill (by decide) (.ofSeed 8)⟩

end Director

end LifeStory
