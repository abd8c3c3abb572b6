import LifeStory.Proofs.Session.Tale

/-!
# Lapses

A step that ends before the window of the open event is over does not touch the event or what was
told (`Stands`). One that ends later, or with the window, closes it: its storylet is the last that
finished and is remembered by its title, nothing is resolved, and the pass that follows at once may
open another storylet, but not the same again (`Lapses`). That does not hang on the window of
recent storylets, which may have no room: the pass is told what has just lapsed. All but that pass
is done also by a step that crashes, as the hour at which the pass would look cannot be read.

    s.Reachable → the windows have the capacities of the configuration      (capacity_window,
                                                                            capacity_memories)
    (s.clock.advance n).tick < e.expiresAt →
      s.Stands (s.beginOperation.elapse n) ∧ s.Stands (s.stepped n)         (stands_elapse,
                                                                            stands_stepped)
    e.expiresAt ≤ (s.clock.advance n).tick →
      s.Lapses e t (s.beginOperation.elapse n) ∧ s.Lapses e t (s.stepped n) (lapses_elapse,
                                                                            lapses_stepped)
-/

namespace LifeStory

namespace Session

/-- Nothing was told between two sessions. -/
structure Stands (s after : Session) : Prop where
  director : after.director = s.director
  memories : after.world.memories = s.world.memories
  relationships : after.world.relationships = s.world.relationships
  karma : after.world.pressure.karma = s.world.pressure.karma
  stream : after.stream = s.stream

/-- The event `e` of the storylet `t` was open in the session, and closed without a choice. -/
structure Lapses (s : Session) (e : ActiveEvent) (t : Storylet) (after : Session) : Prop where
  gone : ∀ e', after.director.active = some e' → e'.storylet ≠ e.storylet
  recent : 0 < s.config.historyLength → after.director.history.window.items =
    e.storylet :: s.director.history.window.items.take (s.config.historyLength.toNat - 1)
  resolutions : after.director.history.resolutions = s.director.history.resolutions
  resolvedCount : after.director.history.resolvedCount = s.director.history.resolvedCount
  remembered : 0 < s.config.memoryCapacity → after.world.memories.items =
    ⟨after.clock.tick, s!"You let \"{t.title}\" pass."⟩ ::
      s.world.memories.items.take (s.config.memoryCapacity.toNat - 1)

/-! ## Capacities -/

theorem Reachable.capacity_window {s : Session} (h : s.Reachable) :
    s.director.history.window.capacity = s.config.historyLength.toNat := by
  obtain ⟨l, hl⟩ := h.exists_follows
  rw [hl.history]
  exact Tale.capacity_history ..

theorem capacity_memories_advanced (s : Session) (ticks : UInt64) :
    (s.advanced ticks).world.memories.capacity = s.world.memories.capacity := by
  show (s.elapse ticks).world.memories.capacity = _
  rw [memories_elapse]
  exact Director.capacity_expire ..

theorem capacity_memories_settle (s : Session) (t : Storylet) (c : Choice) :
    (s.settle t c).world.memories.capacity = s.world.memories.capacity :=
  Director.capacity_applyChoice ..

theorem Reachable.capacity_memories {s : Session} (h : s.Reachable) :
    s.world.memories.capacity = s.config.memoryCapacity.toNat := by
  induction h using Reachable.induct with
  | start => rfl
  | stepped s n _ _ ih =>
    rw [(continues_stepped s n).config, ← ih]
    exact capacity_memories_advanced s.beginOperation n
  | chosen s e t c n _ _ ih =>
    rw [(continues_chosen s t c n).config, ← ih]
    show ((s.beginOperation.settle t c).follow n).world.memories.capacity = _
    have hsettle := capacity_memories_settle s.beginOperation t c
    unfold follow
    split
    · exact hsettle
    · exact (capacity_memories_advanced _ n).trans hsettle

/-! ## Steps -/

/-- What has just lapsed does not open. -/
theorem ne_of_active_pass {s : Session} (idle : s.director.active = none) {id : StoryletId}
    {e : ActiveEvent} (active : (s.pass (some id)).director.active = some e) : e.storylet ≠ id := by
  obtain ⟨after, ho, hp⟩ := s.exists_pass_outcome (some id)
  rw [hp] at active
  cases ho with
  | busy => rw [idle] at active; cases active
  | barren => rw [idle] at active; cases active
  | declined => rw [idle] at active; cases active
  | opened c _ eligible =>
    -- of the gates only this one keeps it out for sure: the window of recent storylets may be empty
    obtain ⟨-, admits, -, -⟩ := (Director.mem_eligible_iff c).1 eligible
    obtain ⟨-, -, -, hlapsed, -⟩ := Director.admits_iff.1 admits
    cases active
    intro hid
    exact hlapsed (congrArg some hid.symm)

section Step

variable {s : Session} {e : ActiveEvent} (active : s.director.active = some e) {n : UInt64}

include active

theorem stands_elapse (early : (s.clock.advance n).tick < e.expiresAt) :
    s.Stands (s.beginOperation.elapse n) := by
  have hlapsing : s.director.lapsing (s.clock.advance n).tick = none := by
    rw [Director.lapsing_of_active active, if_neg (UInt64.not_le.2 early)]
  refine ⟨?_, ?_, relationships_elapse .., ?_, stream_elapse ..⟩
  · rw [director_elapse]
    exact congrArg Prod.fst (Director.expire_of_standing hlapsing ..)
  · rw [memories_elapse]
    exact congrArg (fun after => after.2.1) (Director.expire_of_standing hlapsing ..)
  · rw [pressure_elapse]
    exact Pressure.karma_decayHeat ..

/-- The director has nothing to do on what stands. -/
theorem stands_stepped (early : (s.clock.advance n).tick < e.expiresAt) :
    s.Stands (s.stepped n) := by
  have h := stands_elapse active early
  have hstepped : s.stepped n = (s.beginOperation.elapse n).record (.step n) := by
    rw [stepped_eq]
    exact pass_of_active (s := (s.beginOperation.elapse n).record (.step n))
      ((congrArg Director.active h.director).trans active) _
  rw [hstepped]
  exact ⟨h.director, h.memories, h.relationships, h.karma, h.stream⟩

section Due

variable (due : e.expiresAt ≤ (s.clock.advance n).tick)

include due

theorem director_elapse_of_due : (s.beginOperation.elapse n).director =
    ⟨none, s.director.history.recordExpired e.storylet⟩ := by
  rw [director_elapse]
  exact congrArg Prod.fst (Director.expire_of_due active due s.catalog s.world.memories)

theorem lapses_elapse (h : s.Reachable) {t : Storylet}
    (get? : s.catalog.get? e.storylet = some t) :
    s.Lapses e t (s.beginOperation.elapse n) := by
  have hdirector := director_elapse_of_due active due
  refine ⟨?_, ?_, ?_, ?_, ?_⟩
  · intro e' active'
    rw [hdirector] at active'
    cases active'
  · intro hroom
    rw [hdirector, ← h.capacity_window]
    apply Window.items_push_of_pos
    rw [h.capacity_window]
    exact UInt64.lt_iff_toNat_lt.1 hroom
  · rw [hdirector]
    rfl
  · rw [hdirector]
    rfl
  · intro hroom
    have hmemories : (s.beginOperation.elapse n).world.memories =
        MemoryLog.record s.world.memories (s.clock.advance n).tick
          s!"You let \"{t.title}\" pass." := by
      rw [memories_elapse]
      refine (congrArg (fun after => after.2.1)
        (Director.expire_of_due active due s.catalog s.world.memories)).trans ?_
      unfold Director.lapseText
      rw [get?]
      rfl
    rw [hmemories, clock_elapse, ← h.capacity_memories]
    apply Window.items_push_of_pos
    rw [h.capacity_memories]
    exact UInt64.lt_iff_toNat_lt.1 hroom

/-- The pass after it changes nothing of what has lapsed, and does not bring it back. -/
theorem lapses_stepped (h : s.Reachable) {t : Storylet}
    (get? : s.catalog.get? e.storylet = some t) : s.Lapses e t (s.stepped n) := by
  have hl := lapses_elapse active due h get?
  have hlapsing : s.director.lapsing (s.clock.advance n).tick = some e.storylet := by
    rw [Director.lapsing_of_active active, if_pos due]
  have hhistory : (s.stepped n).director.history =
      (s.beginOperation.elapse n).director.history := by
    rw [stepped_eq, history_pass]
    rfl
  refine ⟨?_, ?_, ?_, ?_, ?_⟩
  · intro e' active'
    rw [stepped_eq, clock_stepped, hlapsing] at active'
    have idle := congrArg Director.active (director_elapse_of_due active due)
    exact ne_of_active_pass idle active'
  · rw [hhistory]
    exact hl.recent
  · rw [hhistory]
    exact hl.resolutions
  · rw [hhistory]
    exact hl.resolvedCount
  · exact hl.remembered

end Due

end Step

/-- An open event stands until its window is over, and then it lapses, however long the step; also
where the step crashes, as it does at an hour that cannot be read. -/
theorem stands_or_lapses {s : Session} (h : s.Reachable) {e : ActiveEvent}
    (active : s.director.active = some e) {n : Int64} (nonneg : 0 ≤ n) :
    ∃ after, s.step n = (answerAt (s.clock.advance n.toUInt64), after) ∧
      after.clock.tick.toNat =
        min (s.clock.tick.toNat + n.toInt.toNat) 0xFFFFFFFFFFFFFFFF ∧
      (after.clock.tick < e.expiresAt → s.Stands after) ∧
      (e.expiresAt ≤ after.clock.tick →
        ∃ t, s.catalog.get? e.storylet = some t ∧ s.Lapses e t after) := by
  obtain ⟨t, mem, hid, -, -⟩ := h.activeFits e active
  have hget : s.catalog.get? e.storylet = some t := by
    rw [hid]
    exact Catalog.get?_of_mem mem
  have htick : (s.clock.advance n.toUInt64).tick.toNat =
      min (s.clock.tick.toNat + n.toInt.toNat) 0xFFFFFFFFFFFFFFFF := by
    rw [Clock.toNat_tick_advance, Int64.toNat_toUInt64_of_le nonneg]
    rfl
  unfold answerAt
  by_cases hfits : (s.clock.advance n.toUInt64).HourFits
  · rw [if_pos hfits]
    refine ⟨_, step_of_fits nonneg hfits, ?_⟩
    rw [clock_stepped]
    exact ⟨htick, stands_stepped active, fun due => ⟨t, hget, lapses_stepped active due h hget⟩⟩
  · rw [if_neg hfits]
    refine ⟨_, step_of_not_fits nonneg hfits, ?_⟩
    rw [clock_elapse]
    exact ⟨htick, stands_elapse active, fun due => ⟨t, hget, lapses_elapse active due h hget⟩⟩

/-- At home: an hour before its window is over the tooth still stands, and with the window it lapses,
and the chores come up in its place. -/
theorem stands_or_lapses_homeGame :
    (∃ after, homeGame.step 71 = (.ok (), after) ∧ homeGame.Stands after) ∧
    ∃ after, homeGame.step 72 = (.ok (), after) ∧
      homeGame.Lapses ⟨"lost_tooth", ["pillow"], 0, 72⟩ lostTooth after ∧
      after.director.active = some ⟨"chores", ["do_them"], 72, 144⟩ := by
  have hr : homeGame.Reachable := .start accepted_homeCatalog start_homeGame
  have active : homeGame.director.active = some ⟨"lost_tooth", ["pillow"], 0, 72⟩ := by
    decide +kernel
  have hcatalog : homeGame.catalog = homeCatalog := (continues_pass ..).catalog
  have hclock : homeGame.clock.tick.toNat = 0 := by decide +kernel
  constructor
  · obtain ⟨after, hstep, htick, hstands, -⟩ := stands_or_lapses hr active (n := 71) (by decide)
    rw [answerAt, if_pos (hourFits_homeGame _)] at hstep
    refine ⟨after, hstep, hstands ?_⟩
    rw [UInt64.lt_iff_toNat_lt, htick, hclock]
    decide
  · obtain ⟨after, hstep, htick, -, hlapses⟩ := stands_or_lapses hr active (n := 72) (by decide)
    rw [answerAt, if_pos (hourFits_homeGame _)] at hstep
    obtain ⟨t, hget, hlapse⟩ := hlapses (by
      rw [UInt64.le_iff_toNat_le, htick, hclock]
      decide)
    have hfound : homeGame.catalog.get? "lost_tooth" = some lostTooth := by
      rw [hcatalog]
      rfl
    obtain rfl : lostTooth = t := Option.some.inj (hfound.symm.trans hget)
    refine ⟨after, hstep, hlapse, ?_⟩
    have hopened : (homeGame.run [.step 72]).director.active =
        some ⟨"chores", ["do_them"], 72, 144⟩ := by
      decide +kernel
    have hcall : homeGame.call (.step 72) = (.ok (), after) := hstep
    rw [run_cons_of_some (after?_of_ok hcall)] at hopened
    exact hopened

end Session

end LifeStory
