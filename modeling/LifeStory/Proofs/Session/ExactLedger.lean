import LifeStory.Proofs.Random.Draws
import LifeStory.Proofs.Session.Ledger
import LifeStory.Proofs.Stats.Exact

/-!
# Exact arithmetic in a session

What a call does to the attributes, with every operation checked that does not saturate by design:
a jitter is drawn between a jitter and its negation, added, and scaled by the difficulty; then the
attributes drift over the days that pass. In a reachable session the checks are all met.

    s.between? low high = some (s.between low high)                      (between?_eq)
    applyStat? difficulty before d = some (applyStat difficulty before d)  (applyStat?_eq)
    s.Reachable → s.call c = (.ok (), t) → s.ledgerAfter? c = some t.world.stats
                                                                         (ledgerAfter?_eq)
-/

namespace LifeStory

open LifeStory.Random (Stream)

/-! ## Jitter -/

namespace Random.Stream

/-- An integer from a range, where the sum that gives it is checked. -/
def between? (low high : Int32) (s : Stream) : Option (Int32 × Stream) :=
  if high ≤ low then some (low, s)
  else
    let size := (high.toInt - low.toInt + 1).toNat
    if size < 0x100000000 then
      let (n, s) := s.drawn.below size
      (Word.ofInt? (low.toInt + n)).map fun v => (v, s)
    else
      let (w, s) := s.drawn.nextWord
      some (w.toInt32, s)

theorem between?_eq (s : Stream) (low high : Int32) :
    s.between? low high = some (s.between low high) := by
  have hlow := low.le_toInt
  have hhigh := high.toInt_lt
  unfold between? between
  split
  · rfl
  · next hrange =>
    rw [Int32.le_iff_toInt_le] at hrange
    dsimp only
    split
    · have hdraw : (s.drawn.below (high.toInt - low.toInt + 1).toNat).1 <
          (high.toInt - low.toInt + 1).toNat := below_lt (by omega) s.drawn
      generalize s.drawn.below (high.toInt - low.toInt + 1).toNat = drawn at hdraw
      have hsum : Word.ofInt? (low.toInt + drawn.1) = some (Int32.ofInt (low.toInt + drawn.1)) :=
        Word.ofInt?_eq_some_iff.2 (Int32.toInt_ofInt_of_le (by omega) (by omega))
      rw [hsum]
      rfl
    · rfl

end Random.Stream

namespace Director

/-- Draws the jitter of a change, each operation checked. -/
def drawJitter? (d : StatDelta) (stream : Stream) : Option (Int32 × Stream) :=
  if 0 < d.jitter then (Word.neg? d.jitter).bind fun low => stream.between? low d.jitter
  else some (0, stream)

/-- Applies a change of an attribute, each operation checked that does not saturate. -/
def applyStat? (difficulty : Difficulty) (before : StatLedger × Stream) (d : StatDelta) :
    Option (StatLedger × Stream) := do
  let (jitter, stream) ← drawJitter? d before.2
  let amount ← difficulty.scale? (Word.satAdd d.amount jitter)
  return (before.1.applyDelta d.stat amount, stream)

/-- A jitter above zero is not the least word, so its negation is a word. -/
theorem drawJitter?_eq (d : StatDelta) (stream : Stream) :
    drawJitter? d stream = some (drawJitter d stream) := by
  unfold drawJitter? drawJitter
  split
  · next hpos =>
    rw [Int32.lt_iff_toInt_lt, Int32.toInt_zero] at hpos
    rw [Word.neg?_of_lt (by omega)]
    exact stream.between?_eq _ _
  · rfl

theorem applyStat?_eq (difficulty : Difficulty) (before : StatLedger × Stream) (d : StatDelta) :
    applyStat? difficulty before d = some (applyStat difficulty before d) := by
  unfold applyStat? applyStat
  rw [drawJitter?_eq]
  show (difficulty.scale? _).bind _ = _
  rw [difficulty.scale?_eq]
  rfl

theorem foldlM_applyStat? (difficulty : Difficulty) (deltas : List StatDelta)
    (before : StatLedger × Stream) :
    deltas.foldlM (applyStat? difficulty) before =
      some (deltas.foldl (applyStat difficulty) before) := by
  induction deltas generalizing before with
  | nil => rfl
  | cons d rest ih =>
    rw [List.foldlM_cons, applyStat?_eq]
    exact ih _

end Director

namespace Session

/-! ## Calls -/

/-- A ledger after some ticks, each operation checked that does not saturate. -/
def waited? (s : Session) (l : StatLedger) (ticks : UInt64) : Option StatLedger :=
  let days := (s.clock.advance ticks).daysSince s.clock
  if days = 0 then some l
  else l.drift? days s.config.moodRegressionPerDay s.config.energyRecoveryPerDay

/-- The ledger after a call that succeeds, each operation checked that does not saturate. -/
def ledgerAfter? (s : Session) : Call → Option StatLedger
  | .step ticks => s.waited? s.world.stats ticks.toUInt64
  | .choose storylet choice ticks => do
    let t ← s.catalog.get? storylet
    let c ← t.choice? choice
    let (stats, _) ← c.stats.foldlM (Director.applyStat? s.player.difficulty)
      (s.world.stats, s.stream)
    if ticks.toUInt64 = 0 then some stats else s.waited? stats ticks.toUInt64

/-- A moment `t` of the session `s` at which only the world differs ages as it is checked. -/
theorem waited?_eq {s t : Session} (h : t.world.stats.InRange) (config : t.config = s.config)
    (clock : t.clock = s.clock) (ticks : UInt64) :
    s.waited? t.world.stats ticks = some (t.advanced ticks).world.stats := by
  rw [stats_advanced, stats_elapse h, config, clock]
  unfold waited?
  dsimp only
  split
  · next hzero => rw [hzero, StatLedger.drift_zero h]
  · exact h.drift?_eq ..

theorem ledgerAfter?_eq {s : Session} (h : s.Reachable) {c : Call} {t : Session}
    (hcall : s.call c = (.ok (), t)) : s.ledgerAfter? c = some t.world.stats := by
  have ho := h.call_outcome c
  rw [hcall] at ho
  cases ho with
  | stepped n => exact waited?_eq (t := s.beginOperation) h.inRange rfl rfl n.toUInt64
  | chosen e t c n offers =>
    have hsettled : (s.beginOperation.settle t c).world.stats.InRange :=
      Director.inRange_applyChoice s.catalog s.config s.player.difficulty s.clock.tick t c
        (show s.beginOperation.world.stats.InRange from h.inRange) s.stream
    unfold ledgerAfter?
    dsimp only
    rw [offers.get?]
    show (t.choice? c.id).bind _ = _
    rw [offers.choice?]
    show (c.stats.foldlM (Director.applyStat? s.player.difficulty)
      (s.world.stats, s.stream)).bind _ = _
    rw [Director.foldlM_applyStat?]
    show (if _ then _ else s.waited? (s.beginOperation.settle t c).world.stats _) =
      some ((s.beginOperation.settle t c).follow n.toUInt64).world.stats
    unfold follow
    split
    · rfl
    · exact waited?_eq hsettled rfl rfl n.toUInt64

/-- Attributes stay in their ranges and their arithmetic is exact: in a reachable session every
attribute is in range, the mood from -10 to 10 and the others from 0 to 100, and a call that succeeds
comes to the same ledger if every operation is checked that does not saturate by design. So does a
new ledger under any changes. -/
theorem stats_exact {s : Session} (h : s.Reachable) :
    (s.world.stats.InRange ∧ s.world.stats.Within) ∧
    (∀ c t, s.call c = (.ok (), t) → s.ledgerAfter? c = some t.world.stats) ∧
    ∀ changes : List StatLedger.Change,
      ((StatLedger.resting.changed changes).InRange ∧
        (StatLedger.resting.changed changes).Within) ∧
      StatLedger.resting.changed? changes = some (StatLedger.resting.changed changes) := by
  refine ⟨⟨h.inRange, h.inRange.within⟩, fun c t hcall => ledgerAfter?_eq h hcall,
    fun changes => ?_⟩
  have hchanged := StatLedger.inRange_resting.changed changes
  exact ⟨⟨hchanged, hchanged.within⟩, StatLedger.inRange_resting.changed?_eq changes⟩

/-- The knee game: a jittered loss that is scaled, and a ledger under changes that saturate. -/
theorem stats_exact_kneeGame :
    kneeGame.ledgerAfter? (.choose scrapedKnee.id getUp.id 30) =
      some (kneeGame.chosen scrapedKnee getUp 30).world.stats ∧
    StatLedger.resting.changed? [.delta .mood (-0x80000000), .days 0xFFFFFFFFFFFFFFFF 0x7FFFFFFF 1,
      .day (-0x80000000) 5] = some StatLedger.resting := by
  obtain ⟨-, hcall, hchanges⟩ := stats_exact reachable_kneeGame
  have hchosen := choose_of_offers offers_kneeGame (n := 30) (by decide) (looksAfter_kneeGame 30)
  refine ⟨hcall _ _ hchosen, ?_⟩
  rw [(hchanges _).2]
  decide

end Session

end LifeStory
