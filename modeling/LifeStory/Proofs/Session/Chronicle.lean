import Mathlib.Data.List.Induction
import LifeStory.Proofs.Session.Lapse
import LifeStory.Proofs.Session.Views

/-!
# What is kept of a chronicle

A log that was told a chronicle has its newest entries, as many as it has room for (`Holds`): where it
is full, each entry drives the oldest out. In a session the room is that of the configuration, and
the chronicle runs with the clock.

    (recordAll (.empty capacity) recorded).items =
      recorded.reverse.take capacity                                         (items_recordAll)
    (recordAll (.empty capacity) recorded).Holds capacity recorded           (holds_recordAll)
    both, with the order of the ticks of every reachable session             (keeps_newest)
-/

namespace LifeStory

namespace MemoryLog

/-- Records some memories, one after the other. -/
def recordAll (l : MemoryLog) (recorded : List Memory) : MemoryLog :=
  recorded.foldl (fun l m => l.record m.tick m.text) l

/-- The log has the newest of some memories, all that it has room for, and tells the newest of those,
newest first. Both are what a sequence ends with, so the number says which. -/
structure Holds (l : MemoryLog) (capacity : Nat) (recorded : List Memory) : Prop where
  items : l.items.reverse <:+ recorded
  length_items : l.items.length = min capacity recorded.length
  recent : ∀ n, (l.recent n).reverse <:+ l.items.reverse
  length_recent : ∀ n, (l.recent n).length = min n l.items.length

theorem recordAll_concat (l : MemoryLog) (recorded : List Memory) (m : Memory) :
    l.recordAll (recorded ++ [m]) = (l.recordAll recorded).push m := List.foldl_concat ..

theorem capacity_recordAll (l : MemoryLog) (recorded : List Memory) :
    (l.recordAll recorded).capacity = l.capacity := by
  induction recorded using List.reverseRecOn with
  | nil => rfl
  | append_singleton recorded m ih => rw [recordAll_concat, Window.capacity_push, ih]

theorem items_recordAll (capacity : Nat) (recorded : List Memory) :
    (recordAll (.empty capacity) recorded).items = recorded.reverse.take capacity := by
  induction recorded using List.reverseRecOn with
  | nil => exact List.take_nil.symm
  | append_singleton recorded m ih =>
    have hcapacity : (recordAll (.empty capacity) recorded).capacity = capacity :=
      capacity_recordAll ..
    rw [recordAll_concat, Window.items_push_of_take (by rw [ih, hcapacity]), hcapacity,
      List.reverse_concat]

theorem holds_recordAll (capacity : Nat) (recorded : List Memory) :
    (recordAll (.empty capacity) recorded).Holds capacity recorded where
  items := by
    rw [items_recordAll, ← List.reverse_prefix, List.reverse_reverse]
    exact List.take_prefix ..
  length_items := by rw [items_recordAll, List.length_take, List.length_reverse]
  recent n := List.reverse_suffix.2 (List.take_prefix ..)
  length_recent n := List.length_take

end MemoryLog

namespace Session

/-- A log holds the newest of what it was told. That of a session has the room that the configuration
gives it; its memories are in the order of their ticks, and none is from the future. -/
theorem keeps_newest :
    (∀ capacity recorded,
      (MemoryLog.recordAll (.empty capacity) recorded).Holds capacity recorded) ∧
    ∀ s : Session, s.Reachable →
      s.world.memories.capacity = s.config.memoryCapacity.toNat ∧
      (s.world.memories.items.reverse.Pairwise fun older newer => older.tick ≤ newer.tick) ∧
      ∀ m ∈ s.world.memories.items, m.tick ≤ s.clock.tick := by
  refine ⟨MemoryLog.holds_recordAll, ?_⟩
  intro s h
  have hremembers := h.remembers
  exact ⟨h.capacity_memories, List.pairwise_reverse.2 hremembers.descending, hremembers.past⟩

/-- Only two memories are kept. -/
def diaryConfig : Config := { picnicConfig with memoryCapacity := 2 }

def diaryGame : Session := (fresh 7 kneePlayer picnicCatalog diaryConfig).pass none

theorem start_diaryGame : start 7 kneePlayer picnicCatalog diaryConfig = .ok diaryGame := rfl

/-- What is remembered of three picnics, the second of which is let pass. -/
def diary : List Memory :=
  [⟨0, "You shared the lemonade."⟩, ⟨73, "You let \"Picnic\" pass."⟩,
    ⟨74, "You shared the lemonade."⟩]

/-- The first picnic is forgotten. -/
theorem keeps_newest_diaryGame :
    let s := diaryGame.run
      [.choose "picnic" "share" 1, .step 72, .step 1, .choose "picnic" "share" 0]
    s.world.memories.items = (MemoryLog.recordAll (.empty 2) diary).items ∧
    s.world.memories.items.length = 2 ∧
    (s.world.memories.items.reverse.Pairwise fun older newer => older.tick ≤ newer.tick) ∧
    ∀ m ∈ s.world.memories.items, m.tick ≤ 74 := by
  intro s
  have hgame : diaryGame.Reachable := .start ⟨[picnic], [], rfl⟩ start_diaryGame
  obtain ⟨hholds, hsessions⟩ := keeps_newest
  obtain ⟨-, hordered, hpast⟩ := hsessions s (hgame.run _)
  have hitems : s.world.memories.items = (MemoryLog.recordAll (.empty 2) diary).items := by
    decide +kernel
  have htick : s.clock.tick = 74 := by decide +kernel
  refine ⟨hitems, ?_, hordered, fun m hm => htick ▸ hpast m hm⟩
  rw [hitems, (hholds 2 diary).length_items]
  rfl

end Session

end LifeStory
