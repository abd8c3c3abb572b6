import LifeStory.Runner.Life
import LifeStory.Decimal.Numeral

/-!
# Summaries of lives

What is reported of a life, as data or on one line.
-/

namespace LifeStory.Runner

/-- What is reported of a life. -/
structure Summary where
  seed : UInt64
  days : UInt64
  snapshot : Snapshot
  pressure : Pressure
  resolvedCount : Nat
  /-- The storylets that finished last, oldest first. -/
  recent : List StoryletId

namespace Summary

def ofSession (s : Session) (days : UInt64) : Summary where
  seed := s.stream.seed
  days := days
  snapshot := s.snapshot
  pressure := s.world.pressure
  resolvedCount := s.director.history.resolvedCount
  recent := s.director.history.recent

/-- Name and role of the best relationships. -/
def topRelationships (s : Summary) : Datum :=
  .list ((s.snapshot.relationships.take 3).map fun r => .texts [r.name, r.role.label])

def toDatum (s : Summary) : Datum :=
  .table [
    ("seed", .word s.seed),
    ("days", .word s.days),
    ("age_years", .word s.snapshot.age),
    ("life_stage", .text s.snapshot.stage.name),
    ("karma", .word s.pressure.karma),
    ("karma_band", .text s.pressure.karmaBand.name),
    ("heat", .single s.pressure.heat),
    ("heat_level", .text s.pressure.heatLevel.name),
    ("storylets_resolved", .integer s.resolvedCount),
    ("recent_storylets", .texts s.recent),
    ("health", .word s.snapshot.stats.health),
    ("mood", .word s.snapshot.stats.mood),
    ("wealth", .word s.snapshot.stats.wealth),
    ("top_relationships", s.topRelationships),
    ("memories", .texts s.snapshot.memories)]

/-- A text with blanks in front, up to a width. -/
def padLeft (width : Nat) (s : String) : String :=
  String.ofList (List.replicate (width - s.length) ' ') ++ s

/-- A text with blanks behind, up to a width. -/
def padRight (width : Nat) (s : String) : String :=
  s ++ String.ofList (List.replicate (width - s.length) ' ')

/-- The summary on one line. -/
def line (s : Summary) : String :=
  let seed := padLeft 20 (toString s.seed)
  let age := padLeft 3 (toString s.snapshot.age)
  let stage := padRight 6 s.snapshot.stage.name
  let karma := padLeft 5 (toString s.pressure.karma)
  let heat := padLeft 5 (Numeral.tenths "" s.pressure.heat)
  let band := s.pressure.karmaBand.name
  s!"seed {seed} | age {age} {stage} | karma {karma} ({band}) | heat {heat} | " ++
    s!"resolved {s.resolvedCount}"

end Summary

end LifeStory.Runner
