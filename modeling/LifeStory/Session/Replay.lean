import LifeStory.Session.Basic

/-!
# Replay

A journal is played again on a catalog: a fresh game of its seed, player and configuration, then
its entries in order. It fails at the first entry that fails. Tick counts of a journal are words
without sign, those of an operation have one.
-/

namespace LifeStory

namespace Session

/-- A tick count of a journal as an operation takes it. -/
def signTicks (ticks : UInt64) : Except GameError Int64 :=
  if ticks.toNat < 0x8000000000000000 then .ok ticks.toInt64 else .error (.argument (.journalTicks ticks))

/-- Does again what an entry records. -/
def perform (s : Session) : JournalEntry → Except Failure Session
  | .step ticks => do
    let n ← (signTicks ticks).mapError .refused
    succeeded (s.step n)
  | .choose storylet choice ticksAfter => do
    let n ← (signTicks ticksAfter).mapError .refused
    succeeded (s.choose storylet choice n)

/-- Does again what some entries record, in order. -/
def performAll (s : Session) (entries : List JournalEntry) : Except Failure Session :=
  entries.foldlM perform s

/-- Plays a journal again. -/
def replay (j : Journal) (catalog : Catalog) : Except Failure Session := do
  let s ← start j.seed j.player catalog j.config
  s.performAll j.entries

theorem performAll_append (s : Session) (es fs : List JournalEntry) :
    s.performAll (es ++ fs) = (s.performAll es).bind fun s => s.performAll fs :=
  List.foldlM_append

end Session

end LifeStory
