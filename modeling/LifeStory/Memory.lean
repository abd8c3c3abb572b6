import LifeStory.Window
import LifeStory.Calendar.Clock
import LifeStory.Datum.Basic

/-!
# Memories

What the character remembers: short texts, each with the tick at which it was made. Only the
newest are kept.
-/

namespace LifeStory

/-- Something remembered. -/
structure Memory where
  tick : Tick
  text : String
deriving DecidableEq, Repr

namespace Memory

def toDatum (m : Memory) : Datum := .table [("tick", .word m.tick), ("text", .text m.text)]

end Memory

/-- The newest memories, newest first. -/
abbrev MemoryLog := Window Memory

namespace MemoryLog

/-- The bytes that a memory takes: a word, and a text by its place, length and capacity. -/
def itemBytes : Nat := 32

def record (l : MemoryLog) (tick : Tick) (text : String) : MemoryLog := l.push ⟨tick, text⟩

/-- The newest memories, at most `n` of them. -/
def recent (l : MemoryLog) (n : Nat) : List Memory := l.items.take n

end MemoryLog

end LifeStory
