import LifeStory.Proofs.Calendar.Clock
import LifeStory.Proofs.Session.ActiveEvent

/-!
# The order of memories

Everything that is remembered is recorded at the tick of the clock, which never goes back. So the
memories that are kept are in the order of their ticks, and none is later than the clock
(`Chronological`): an event that lapses is recorded after the clock was advanced, a choice before.

    l.Chronological now → (l.record now text).Chronological now              (Chronological.record)
    s.Remembers → (s.advanced ticks).Remembers                                (Remembers.advanced)
    s.Reachable → s.Remembers                                                (Reachable.remembers)
-/

namespace LifeStory

namespace MemoryLog

/-- The memories come in the order of their ticks, newest first, and none is later than now. -/
structure Chronological (l : MemoryLog) (now : Tick) : Prop where
  descending : l.items.Pairwise fun newer older => older.tick ≤ newer.tick
  past : ∀ m ∈ l.items, m.tick ≤ now

theorem chronological_empty (capacity : Nat) (now : Tick) :
    Chronological (.empty capacity) now := ⟨.nil, fun _ h => nomatch h⟩

theorem Chronological.record {l : MemoryLog} {now : Tick} (h : l.Chronological now)
    (text : String) : (l.record now text).Chronological now := by
  have hkept : (l.record now text).items.Sublist (⟨now, text⟩ :: l.items) := by
    unfold MemoryLog.record
    rw [Window.items_push]
    exact List.take_sublist ..
  constructor
  · exact (List.pairwise_cons.2 ⟨h.past, h.descending⟩).sublist hkept
  · intro m hm
    obtain rfl | hm := List.mem_cons.1 (hkept.mem hm)
    · exact UInt64.le_refl now
    · exact h.past m hm

theorem Chronological.later {l : MemoryLog} {now later : Tick} (h : l.Chronological now)
    (le : now ≤ later) : l.Chronological later :=
  ⟨h.descending, fun m hm => UInt64.le_trans (h.past m hm) le⟩

end MemoryLog

/-! ## Writers -/

namespace Director

variable (catalog : Catalog) {now : Tick}

theorem chronological_expire (d : Director) {memories : MemoryLog}
    (h : memories.Chronological now) : (d.expire catalog memories now).2.1.Chronological now := by
  have ho := d.expire_outcome catalog memories now
  generalize d.expire catalog memories now = after at ho
  cases ho with
  | standing => exact h
  | lapsed => exact h.record _

theorem chronological_applyChoice {world : World} (h : world.memories.Chronological now)
    (config : Config) (difficulty : Difficulty) (s : Storylet) (c : Choice)
    (stream : Random.Stream) :
    (applyChoice catalog config difficulty now s c world stream).1.memories.Chronological now := by
  cases hc : c.memory with
  | none =>
    rw [memories_applyChoice_of_none hc]
    exact h
  | some text =>
    rw [memories_applyChoice_of_some hc]
    exact h.record text

end Director

/-! ## Sessions -/

namespace Session

/-- What the session remembers is in order, and not later than its clock. -/
def Remembers (s : Session) : Prop := s.world.memories.Chronological s.clock.tick

theorem Remembers.advanced {s : Session} (h : s.Remembers) (ticks : UInt64) :
    (s.advanced ticks).Remembers := by
  unfold Remembers
  rw [clock_advanced]
  show (s.elapse ticks).world.memories.Chronological _
  rw [memories_elapse]
  exact Director.chronological_expire _ _ (h.later (s.clock.tick_le_advance ticks))

theorem Remembers.settle {s : Session} (h : s.Remembers) (t : Storylet) (c : Choice) :
    (s.settle t c).Remembers :=
  Director.chronological_applyChoice s.catalog h s.config s.player.difficulty t c s.stream

theorem Reachable.remembers {s : Session} (h : s.Reachable) : s.Remembers :=
  h.of_moves (fun _ _ _ _ => MemoryLog.chronological_empty _ _) (fun _ h => h)
    (fun _ ticks h => h.advanced ticks) (fun _ t c h => h.settle t c) (fun _ _ h => h)

end Session

end LifeStory
