import LifeStory.Session.Replay
import LifeStory.Proofs.Director.Moves

/-!
# What a session does

An operation that succeeds is a chain of moves, and each move changes a part of the session only.
`stepped` and `chosen` are the sessions that the two operations leave behind; an operation that is
refused leaves the session, unless the active event is not of the catalog (`ChooseOutcome.broken`).
An operation crashes exactly where the director is to look at an hour that cannot be read, and
leaves what was done up to there.

    s.advance n = (s.elapse n).look (s.director.lapsing (s.clock.advance n).tick)    (advance_eq)
    0 ≤ n → (s.clock.advance n.toUInt64).HourFits →
      s.step n = (.ok (), s.stepped n.toUInt64)                                (step_of_fits)
    s.Offers e t c → 0 ≤ n → s.LooksAfter n.toUInt64 →
      s.choose t.id c.id n = (.ok (), s.chosen t c n.toUInt64)                 (choose_of_offers)
    s.ChooseOutcome storylet choice n (s.choose storylet choice n)             (choose_outcome)
    0 ≤ n → signTicks n.toUInt64 = .ok n                                       (signTicks_toUInt64)
-/

namespace LifeStory

open LifeStory.Random (Stream)

theorem Clock.advance_zero (c : Clock) : c.advance 0 = c := by
  have h : Word.satAdd c.tick 0 = c.tick := by
    apply Word.toInt_inj.1
    show Word.toInt (Word.clamp (Word.toInt c.tick + 0) : UInt64) = _
    rw [Int.add_zero]
    exact Word.toInt_clamp_of_mem (Word.least_le_toInt c.tick) (Word.toInt_le_greatest c.tick)
  unfold Clock.advance
  rw [h]

namespace Session

/-! ## Moves -/

/-- The session after a choice of a storylet took effect, before time passes. -/
def settle (s : Session) (t : Storylet) (c : Choice) : Session :=
  let (world, stream) := Director.applyChoice s.catalog s.config s.player.difficulty s.clock.tick
    t c s.world s.stream
  { s with
    director := ⟨none, s.director.history.recordResolved t.id s.clock.tick⟩
    world, stream }

/-- The session after some ticks, before the director looks. -/
def elapse (s : Session) (ticks : UInt64) : Session :=
  ({ s with clock := s.clock.advance ticks }.spendDays
    ((s.clock.advance ticks).daysSince s.clock)).expire.1

/-- The session after some ticks, once the director looked. -/
def advanced (s : Session) (ticks : UInt64) : Session :=
  (s.elapse ticks).pass (s.director.lapsing (s.clock.advance ticks).tick)

/-- Lets time pass, if there is any. -/
def follow (s : Session) (ticks : UInt64) : Session := if ticks = 0 then s else s.advanced ticks

/-- If time passes, the director can look after it. -/
def LooksAfter (s : Session) (ticks : UInt64) : Prop :=
  ticks ≠ 0 → (s.clock.advance ticks).HourFits

/-- The session after some ticks were let pass. -/
def stepped (s : Session) (ticks : UInt64) : Session :=
  (s.beginOperation.advanced ticks).record (.step ticks)

/-- The session after a choice was made, and some ticks passed. -/
def chosen (s : Session) (t : Storylet) (c : Choice) (ticks : UInt64) : Session :=
  ((s.beginOperation.settle t c).follow ticks).record (.choose t.id c.id ticks)

/-- The active event `e` offers the choice `c` of the storylet `t`, and the catalog has both. -/
structure Offers (s : Session) (e : ActiveEvent) (t : Storylet) (c : Choice) : Prop where
  active : s.director.active = some e
  storylet : e.storylet = t.id
  choice : c.id ∈ e.offered
  get? : s.catalog.get? t.id = some t
  choice? : t.choice? c.id = some c

/-! ## What the moves keep

The moves before a pass do not touch the configuration, the catalog, the player, the stream or the
log, and a pass touches only the active event and the stream. -/

section Frame

variable (s : Session) (ticks : UInt64)

@[simp] theorem catalog_beginOperation : s.beginOperation.catalog = s.catalog := rfl

@[simp] theorem director_beginOperation : s.beginOperation.director = s.director := rfl

theorem spendDays_eq (days : UInt64) :
    s.spendDays days = { s with world := { s.world with
      pressure := s.world.pressure.decayHeat days s.config.heatDecayPerDay
      stats := (s.spendDays days).world.stats } } := by
  unfold spendDays
  split
  · next h =>
    unfold Pressure.decayHeat
    rw [if_pos h]
  · rfl

@[simp] theorem config_elapse : (s.elapse ticks).config = s.config := by
  unfold elapse
  rw [spendDays_eq]
  rfl

@[simp] theorem catalog_elapse : (s.elapse ticks).catalog = s.catalog := by
  unfold elapse
  rw [spendDays_eq]
  rfl

@[simp] theorem player_elapse : (s.elapse ticks).player = s.player := by
  unfold elapse
  rw [spendDays_eq]
  rfl

@[simp] theorem clock_elapse : (s.elapse ticks).clock = s.clock.advance ticks := by
  unfold elapse
  rw [spendDays_eq]
  rfl

@[simp] theorem stream_elapse : (s.elapse ticks).stream = s.stream := by
  unfold elapse
  rw [spendDays_eq]
  rfl

@[simp] theorem log_elapse : (s.elapse ticks).log = s.log := by
  unfold elapse
  rw [spendDays_eq]
  rfl

@[simp] theorem relationships_elapse :
    (s.elapse ticks).world.relationships = s.world.relationships := by
  unfold elapse
  rw [spendDays_eq]
  rfl

@[simp] theorem pressure_elapse :
    (s.elapse ticks).world.pressure = s.world.pressure.decayHeat
      ((s.clock.advance ticks).daysSince s.clock) s.config.heatDecayPerDay := by
  unfold elapse
  rw [spendDays_eq]
  rfl

theorem director_elapse :
    (s.elapse ticks).director =
      (s.director.expire s.catalog s.world.memories (s.clock.advance ticks).tick).1 := by
  unfold elapse
  rw [spendDays_eq]
  rfl

theorem memories_elapse :
    (s.elapse ticks).world.memories =
      (s.director.expire s.catalog s.world.memories (s.clock.advance ticks).tick).2.1 := by
  unfold elapse
  rw [spendDays_eq]
  rfl

/-- Some ticks leave the director as it is, or its event lapses. -/
theorem director_elapse_cases :
    (s.director.lapsing (s.clock.advance ticks).tick = none ∧
      (s.elapse ticks).director = s.director) ∨
    ∃ e, s.director.active = some e ∧
      s.director.lapsing (s.clock.advance ticks).tick = some e.storylet ∧
      (s.elapse ticks).director = ⟨none, s.director.history.recordExpired e.storylet⟩ := by
  rw [director_elapse]
  have ho := s.director.expire_outcome s.catalog s.world.memories (s.clock.advance ticks).tick
  generalize s.director.expire s.catalog s.world.memories (s.clock.advance ticks).tick = after
    at ho
  cases ho with
  | standing lapsing => exact .inl ⟨lapsing, rfl⟩
  | lapsed e active lapsing => exact .inr ⟨e, active, lapsing, rfl⟩

/-- The event that is open after some ticks was open before. -/
theorem active_elapse {s : Session} {ticks : UInt64} {e : ActiveEvent}
    (h : (s.elapse ticks).director.active = some e) : s.director.active = some e := by
  obtain ⟨-, hd⟩ | ⟨e', -, -, hd⟩ := s.director_elapse_cases ticks
  · rw [hd] at h
    exact h
  · rw [hd] at h
    cases h

/-- An event that is not open any more after some ticks lapsed. -/
theorem lapsing_of_elapse {s : Session} {ticks : UInt64} {e : ActiveEvent}
    (he : s.director.active = some e) (h : (s.elapse ticks).director.active = none) :
    s.director.lapsing (s.clock.advance ticks).tick = some e.storylet := by
  obtain ⟨-, hd⟩ | ⟨e', active, lapsing, -⟩ := s.director_elapse_cases ticks
  · rw [hd, he] at h
    cases h
  · rw [he] at active
    cases active
    exact lapsing

theorem after_settle (s : Session) (t : Storylet) (c : Choice) :
    Stream.After (Director.jitters c) s.stream (s.settle t c).stream :=
  Director.after_applyChoice s.catalog s.config s.player.difficulty s.clock.tick t c s.world s.stream

/-- What a pass does to the director and the stream, and nothing else changes. -/
theorem exists_pass_outcome (s : Session) (lapsed : Option StoryletId) :
    ∃ after, s.director.PassOutcome s.catalog (s.situation lapsed) s.config s.stream after ∧
      s.pass lapsed = { s with director := after.1, stream := after.2 } :=
  ⟨_, s.director.pass_outcome s.catalog (s.situation lapsed) s.config s.stream, rfl⟩

/-- A pass leaves an open event alone, and draws nothing then. -/
theorem pass_of_active {s : Session} {e : ActiveEvent} (h : s.director.active = some e)
    (lapsed : Option StoryletId) : s.pass lapsed = s := by
  obtain ⟨after, ho, hp⟩ := s.exists_pass_outcome lapsed
  rw [hp]
  cases ho with
  | busy => rfl
  | barren => rfl
  | declined idle =>
    rw [h] at idle
    cases idle
  | opened c idle =>
    rw [h] at idle
    cases idle

@[simp] theorem history_pass (s : Session) (lapsed : Option StoryletId) :
    (s.pass lapsed).director.history = s.director.history :=
  Director.history_pass

@[simp] theorem clock_pass (s : Session) (lapsed : Option StoryletId) :
    (s.pass lapsed).clock = s.clock := rfl

/-- Time passes in two parts: the world ages and the active event may close, then the director
looks once. -/
theorem advance_eq :
    s.advance ticks =
      (s.elapse ticks).look (s.director.lapsing (s.clock.advance ticks).tick) := by
  have hl : ({ s with clock := s.clock.advance ticks }.spendDays
      ((s.clock.advance ticks).daysSince s.clock)).expire.2 =
      s.director.lapsing (s.clock.advance ticks).tick := by
    rw [spendDays_eq]
    exact Director.expire_lapsed ..
  rw [← hl]
  rfl

theorem advance_of_fits {s : Session} {ticks : UInt64} (h : (s.clock.advance ticks).HourFits) :
    s.advance ticks = (.ok (), s.advanced ticks) := by
  rw [advance_eq]
  exact if_pos ((clock_elapse s ticks).symm ▸ h)

theorem advance_of_not_fits {s : Session} {ticks : UInt64}
    (h : ¬(s.clock.advance ticks).HourFits) :
    s.advance ticks = (.error (.crashed .hourOverflow), s.elapse ticks) := by
  rw [advance_eq]
  exact if_neg ((clock_elapse s ticks).symm ▸ h)

theorem clock_advanced : (s.advanced ticks).clock = s.clock.advance ticks := clock_elapse ..

theorem clock_stepped : (s.stepped ticks).clock = s.clock.advance ticks :=
  clock_advanced s.beginOperation ticks

theorem clock_chosen (s : Session) (t : Storylet) (c : Choice) (ticks : UInt64) :
    (s.chosen t c ticks).clock = s.clock.advance ticks := by
  show ((s.beginOperation.settle t c).follow ticks).clock = _
  unfold follow
  split
  · next h =>
    rw [h, Clock.advance_zero]
    rfl
  · exact clock_advanced (s.beginOperation.settle t c) ticks

theorem log_stepped : (s.stepped ticks).log = .step ticks :: s.log := by
  show _ :: (s.beginOperation.elapse ticks).log = _
  rw [log_elapse]
  rfl

theorem log_chosen (s : Session) (t : Storylet) (c : Choice) (ticks : UInt64) :
    (s.chosen t c ticks).log = .choose t.id c.id ticks :: s.log := by
  show _ :: ((s.beginOperation.settle t c).follow ticks).log = _
  unfold follow
  split
  · rfl
  · show _ :: ((s.beginOperation.settle t c).elapse ticks).log = _
    rw [log_elapse]
    rfl

end Frame

/-! ## Operations -/

theorem checkTicks_of_neg {n : Int64} (h : n < 0) (argument : String) :
    checkTicks argument n = .error (.argument (.negativeTicks argument n)) := if_pos h

theorem checkTicks_of_nonneg {n : Int64} (h : 0 ≤ n) (argument : String) :
    checkTicks argument n = .ok n.toUInt64 := if_neg (Int64.not_lt.2 h)

theorem step_of_neg (s : Session) {n : Int64} (h : n < 0) :
    s.step n = (.error (.refused (.argument (.negativeTicks "ticks" n))), s) := by
  unfold step
  rw [checkTicks_of_neg h]

theorem step_of_fits {s : Session} {n : Int64} (nonneg : 0 ≤ n)
    (fits : (s.clock.advance n.toUInt64).HourFits) :
    s.step n = (.ok (), s.stepped n.toUInt64) := by
  unfold step
  rw [checkTicks_of_nonneg nonneg]
  dsimp only
  rw [advance_of_fits (s := s.beginOperation) fits]
  rfl

theorem step_of_not_fits {s : Session} {n : Int64} (nonneg : 0 ≤ n)
    (unread : ¬(s.clock.advance n.toUInt64).HourFits) :
    s.step n = (.error (.crashed .hourOverflow), s.beginOperation.elapse n.toUInt64) := by
  unfold step
  rw [checkTicks_of_nonneg nonneg]
  dsimp only
  rw [advance_of_not_fits (s := s.beginOperation) unread]
  rfl

/-- What an operation answers that lets time pass up to a reading of the clock. -/
def answerAt (c : Clock) : Except Failure Unit :=
  if c.HourFits then .ok () else .error (.crashed .hourOverflow)

/-- The ways in which a step ends. -/
inductive StepOutcome (s : Session) (n : Int64) : Except Failure Unit × Session → Prop
  | refused (neg : n < 0) :
      StepOutcome s n (.error (.refused (.argument (.negativeTicks "ticks" n))), s)
  | made (nonneg : 0 ≤ n) (fits : (s.clock.advance n.toUInt64).HourFits) :
      StepOutcome s n (.ok (), s.stepped n.toUInt64)
  | crashed (nonneg : 0 ≤ n) (unread : ¬(s.clock.advance n.toUInt64).HourFits) :
      StepOutcome s n (.error (.crashed .hourOverflow), s.beginOperation.elapse n.toUInt64)

theorem step_outcome (s : Session) (n : Int64) : s.StepOutcome n (s.step n) := by
  by_cases hn : n < 0
  · rw [step_of_neg s hn]
    exact .refused hn
  · have hn := Int64.not_lt.1 hn
    by_cases hf : (s.clock.advance n.toUInt64).HourFits
    · rw [step_of_fits hn hf]
      exact .made hn hf
    · rw [step_of_not_fits hn hf]
      exact .crashed hn hf

theorem choose_of_invalid {s : Session} {storylet : StoryletId} {choice : ChoiceId}
    {fault : GameError} (h : s.director.validate storylet choice = .error fault) (n : Int64) :
    s.choose storylet choice n = (.error (.refused fault), s) := by
  unfold choose
  rw [h]

theorem choose_of_neg {s : Session} {storylet : StoryletId} {choice : ChoiceId} {e : ActiveEvent}
    (h : s.director.validate storylet choice = .ok e) {n : Int64} (hn : n < 0) :
    s.choose storylet choice n =
      (.error (.refused (.argument (.negativeTicks "ticks_after" n))), s) := by
  unfold choose
  rw [h, checkTicks_of_neg hn]

/-- A choice that is offered takes effect, then time passes if there is any. -/
theorem choose_eq_of_offers {s : Session} {e : ActiveEvent} {t : Storylet} {c : Choice}
    (h : s.Offers e t c) {n : Int64} (nonneg : 0 ≤ n) :
    s.choose t.id c.id n = recorded (.choose t.id c.id n.toUInt64)
      (if n.toUInt64 = 0 then (.ok (), s.beginOperation.settle t c)
      else (s.beginOperation.settle t c).advance n.toUInt64) := by
  have hv : s.director.validate t.id c.id = .ok e :=
    Director.validate_eq_ok_iff.2 ⟨h.active, h.storylet, h.choice⟩
  unfold choose
  rw [hv, checkTicks_of_nonneg nonneg]
  dsimp only [director_beginOperation, catalog_beginOperation]
  rw [Director.resolve_of_found hv (by rw [h.storylet]; exact h.get?) h.choice?, h.storylet]
  rfl

/-- A choice that is offered is made. -/
theorem choose_of_offers {s : Session} {e : ActiveEvent} {t : Storylet} {c : Choice}
    (h : s.Offers e t c) {n : Int64} (nonneg : 0 ≤ n) (looks : s.LooksAfter n.toUInt64) :
    s.choose t.id c.id n = (.ok (), s.chosen t c n.toUInt64) := by
  rw [choose_eq_of_offers h nonneg]
  unfold chosen follow
  by_cases hzero : n.toUInt64 = 0
  · rw [if_pos hzero, if_pos hzero]
    rfl
  · have hfits : ((s.beginOperation.settle t c).clock.advance n.toUInt64).HourFits := looks hzero
    rw [if_neg hzero, if_neg hzero, advance_of_fits hfits]
    rfl

theorem choose_of_not_looks {s : Session} {e : ActiveEvent} {t : Storylet} {c : Choice}
    (h : s.Offers e t c) {n : Int64} (nonneg : 0 ≤ n) (blind : ¬s.LooksAfter n.toUInt64) :
    s.choose t.id c.id n = (.error (.crashed .hourOverflow),
      (s.beginOperation.settle t c).elapse n.toUInt64) := by
  obtain ⟨hticks, hover⟩ := Classical.not_imp.1 blind
  have hover : ¬((s.beginOperation.settle t c).clock.advance n.toUInt64).HourFits := hover
  rw [choose_eq_of_offers h nonneg, if_neg hticks, advance_of_not_fits hover]
  rfl

/-- The ways in which a choice ends. -/
inductive ChooseOutcome (s : Session) (storylet : StoryletId) (choice : ChoiceId) (n : Int64) :
    Except Failure Unit × Session → Prop
  | refused (fault : GameError) : ChooseOutcome s storylet choice n (.error (.refused fault), s)
  | broken (fault : GameError) (e : ActiveEvent) (active : s.director.active = some e)
      (offered : choice ∈ e.offered)
      (missing : ∀ t c, s.catalog.get? e.storylet = some t → t.choice? choice ≠ some c) :
      ChooseOutcome s storylet choice n (.error (.refused fault), s.beginOperation)
  | made (e : ActiveEvent) (t : Storylet) (c : Choice) (offers : s.Offers e t c)
      (storylet_eq : storylet = t.id) (choice_eq : choice = c.id) (nonneg : 0 ≤ n)
      (looks : s.LooksAfter n.toUInt64) :
      ChooseOutcome s storylet choice n (.ok (), s.chosen t c n.toUInt64)
  | crashed (e : ActiveEvent) (t : Storylet) (c : Choice) (offers : s.Offers e t c)
      (storylet_eq : storylet = t.id) (choice_eq : choice = c.id) (nonneg : 0 ≤ n)
      (blind : ¬s.LooksAfter n.toUInt64) :
      ChooseOutcome s storylet choice n (.error (.crashed .hourOverflow),
        (s.beginOperation.settle t c).elapse n.toUInt64)

theorem choose_outcome (s : Session) (storylet : StoryletId) (choice : ChoiceId) (n : Int64) :
    s.ChooseOutcome storylet choice n (s.choose storylet choice n) := by
  cases hv : s.director.validate storylet choice with
  | error fault =>
    rw [choose_of_invalid hv]
    exact .refused fault
  | ok e =>
    by_cases hn : n < 0
    · rw [choose_of_neg hv hn]
      exact .refused _
    · have hn := Int64.not_lt.1 hn
      obtain ⟨ha, rfl, ho⟩ := Director.validate_eq_ok_iff.1 hv
      by_cases hf : ∃ t c, s.catalog.get? e.storylet = some t ∧ t.choice? choice = some c
      · obtain ⟨t, c, ht, hc⟩ := hf
        obtain rfl := Storylet.id_of_choice?_eq_some hc
        have hid := (Catalog.id_of_get?_eq_some ht).symm
        have hoff : s.Offers e t c := ⟨ha, hid, ho, hid ▸ ht, hc⟩
        by_cases hlooks : s.LooksAfter n.toUInt64
        · rw [hid, choose_of_offers hoff hn hlooks]
          exact .made e t c hoff rfl rfl hn hlooks
        · rw [hid, choose_of_not_looks hoff hn hlooks]
          exact .crashed e t c hoff rfl rfl hn hlooks
      · have hm : ∀ t c, s.catalog.get? e.storylet = some t → t.choice? choice ≠ some c :=
          fun t c ht hc => hf ⟨t, c, ht, hc⟩
        obtain ⟨fault, hr⟩ := Director.resolve_of_missing hv hm
        unfold choose
        rw [hv, checkTicks_of_nonneg hn]
        dsimp only [director_beginOperation, catalog_beginOperation]
        rw [hr]
        exact .broken fault e ha ho hm

theorem signTicks_toUInt64 {n : Int64} (h : 0 ≤ n) : signTicks n.toUInt64 = .ok n := by
  unfold signTicks
  rw [if_pos, Int64.toInt64_toUInt64]
  rw [Int64.toNat_toUInt64_of_le h]
  have := n.toInt_lt
  have := Int64.le_iff_toInt_le.1 h
  unfold Int64.toNatClampNeg
  omega

end Session

end LifeStory
