import LifeStory.Proofs.Session.Tale

/-!
# Cooldowns

A storylet that was resolved does not open again before its cooldown is over, counted in exact
numbers, as long as the clock runs. At the last tick of the clock this fails: the tick at which a
cooldown is over is held inside the words, so it is never later than the last tick, where every
cooldown counts as over (`opened_in_cooldown`).

    t.Free h now ticksPerDay → h.lastResolvedAt? t.id = some r →
      r + t.cooldownDays * ticksPerDay ≤ now ∨ now = Clock.lastTick            (Free.cooldown_over)
-/

namespace LifeStory

/-- The tick at which the clock stands still. -/
def Clock.lastTick : Tick := 0xFFFFFFFFFFFFFFFF

/-- The cooldown of a storylet that nothing keeps back is over, or the clock stands still. -/
theorem Storylet.Free.cooldown_over {t : Storylet} {h : StoryHistory} {now r : Tick}
    {ticksPerDay : UInt64} (free : t.Free h now ticksPerDay)
    (resolved : h.lastResolvedAt? t.id = some r) :
    r.toNat + t.cooldownDays.toNat * ticksPerDay.toNat ≤ now.toNat ∨ now = Clock.lastTick := by
  have hle := UInt64.le_iff_toNat_le.1 (free.cooldown r resolved)
  rw [Word.toNat_satAdd, Word.toNat_satMul, UInt32.toNat_toUInt64] at hle
  by_cases hlast : now = Clock.lastTick
  · exact .inr hlast
  · have hne : now.toNat ≠ 0xFFFFFFFFFFFFFFFF := fun hnow => hlast (UInt64.toNat_inj.1 hnow)
    have hlt := now.toNat_lt
    generalize t.cooldownDays.toNat * ticksPerDay.toNat = cooldown at hle ⊢
    exact .inl (by omega)

namespace Session

/-- Whenever a storylet opens that was resolved before, its cooldown since the latest resolution is
over, in exact numbers, or the clock has reached its last tick. -/
theorem cooldown_over_of_opened {seed : UInt64} {player : Player} {catalog : Catalog}
    {config : Config} {s : Session} (accepted : catalog.Accepted)
    (started : start seed player catalog config = .ok s) (calls : List Call)
    {later earlier : Tale} {id : StoryletId} {now r : Tick}
    (opened : s.tale calls = later ++ .opened id now :: earlier)
    (resolved : earlier.resolvedAt? id = some r) :
    ∃ t, catalog.get? id = some t ∧
      (r.toNat + t.cooldownDays.toNat * config.ticksPerDay.toNat ≤ now.toNat ∨
        now = Clock.lastTick) := by
  obtain ⟨htold, -⟩ := told_tale accepted started calls
  rw [opened] at htold
  obtain ⟨-, t, mem, rfl, free⟩ := htold.free_of_opened
  refine ⟨t, Catalog.get?_of_mem mem, free.cooldown_over ?_⟩
  rw [Tale.lastResolvedAt?_history]
  exact resolved

/-- At home the chores come up again a day and an hour after they were done. -/
theorem cooldown_over_of_opened_homeGame :
    ∃ earlier : Tale, homeGame.tale homeCalls = .opened "chores" 97 :: earlier ∧
      earlier.resolvedAt? "chores" = some 72 ∧
      ∃ t, homeCatalog.get? "chores" = some t ∧
        (72 + t.cooldownDays.toNat * 24 ≤ 97 ∨ 97 = Clock.lastTick) :=
  ⟨_, tale_homeGame, rfl, cooldown_over_of_opened accepted_homeCatalog start_homeGame homeCalls
    (show homeGame.tale homeCalls = [] ++ .opened "chores" 97 :: _ from tale_homeGame) rfl⟩

/-! ## At the last tick -/

/-- Only chores, which may follow each other. -/
def choresCatalog : Catalog := .of [chores] [] (by decide)

def choresConfig : Config := { activationChance := 1, historyLength := 0 }

def choresGame : Session := (fresh 5 kneePlayer choresCatalog choresConfig).pass none

/-- Time passes in the greatest steps there are, and then one tick more. -/
def choresCalls : List Call :=
  [.choose "chores" "do_them" 0x7FFFFFFFFFFFFFFF, .choose "chores" "do_them" 0x7FFFFFFFFFFFFFFF,
    .choose "chores" "do_them" 1]

/-- Chores come up again one tick after they were done, although their cooldown is a day: the clock
has reached its last tick. -/
theorem opened_in_cooldown :
    choresCatalog.Accepted ∧ start 5 kneePlayer choresCatalog choresConfig = .ok choresGame ∧
    ∃ (r : Tick) (earlier : Tale),
      choresGame.tale choresCalls = .opened "chores" Clock.lastTick :: earlier ∧
      earlier.resolvedAt? "chores" = some r ∧ choresCatalog.get? "chores" = some chores ∧
      Clock.lastTick.toNat = r.toNat + 1 ∧
      Clock.lastTick.toNat <
        r.toNat + chores.cooldownDays.toNat * choresConfig.ticksPerDay.toNat := by
  have htale : choresGame.tale choresCalls =
      [.opened "chores" Clock.lastTick, .resolved "chores" 0xFFFFFFFFFFFFFFFE,
        .opened "chores" 0xFFFFFFFFFFFFFFFE, .resolved "chores" 0x7FFFFFFFFFFFFFFF,
        .opened "chores" 0x7FFFFFFFFFFFFFFF, .resolved "chores" 0, .opened "chores" 0] := by
    decide +kernel
  exact ⟨⟨[chores], [], rfl⟩, rfl, 0xFFFFFFFFFFFFFFFE, _, htale, rfl, rfl, by decide, by decide⟩

end Session

end LifeStory
