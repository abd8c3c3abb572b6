import LifeStory.Proofs.Relationship.Ranking
import LifeStory.Proofs.Relationship.Touches
import LifeStory.Proofs.Session.Display
import LifeStory.Proofs.Session.Memories

/-!
# Two views of one session

The short view ranks the relationships and looks the active event up in the catalog, the long view
lists the relationships as they were touched, with all that is read off them, and reads the director.
They tell the same (`Snapshot.Agrees`) since no character has two relationships, and since the
storylet of an active event is in the catalog. The short view shows the newest memories, as many as
it has room for.

    s.Reachable → (s.director.state = .eventActive ↔ s.currentEvent ≠ none)  (Reachable.state_iff)
    r.Precedes s → (.of r).Precedes (.of s), in the lists of what they show  (precedes_of)
    s.Reachable → s.snapshot.Agrees s.fullSnapshot, and its memories are the newest (views_agree)
-/

namespace LifeStory

open LifeStory.Precision (totalCompare)

namespace RelationshipDetail

/-- Of two relationships of a list the first has more affection and trust, or as much and is the
earlier one in the list. -/
def Precedes (details : List RelationshipDetail) (d e : RelationshipDetail) : Prop :=
  totalCompare (d.affection + d.trust) (e.affection + e.trust) = .gt ∨
  totalCompare (d.affection + d.trust) (e.affection + e.trust) = .eq ∧ [d, e].Sublist details

/-- The bands and the role are those of the five values. -/
structure Reads (d : RelationshipDetail) : Prop where
  affection : d.bands.affection = Band.label .affection (.ofValue .affection d.affection)
  trust : d.bands.trust = Band.label .trust (.ofValue .trust d.trust)
  attraction : d.bands.attraction = Band.label .attraction (.ofValue .attraction d.attraction)
  familiarity : d.bands.familiarity = Band.label .familiarity (.ofValue .familiarity d.familiarity)
  resentment : d.bands.resentment = Band.label .resentment (.ofValue .resentment d.resentment)
  role : d.role =
    Relationship.roleOf d.affection d.trust d.attraction d.familiarity d.resentment

theorem reads_of (r : Relationship) : (of r).Reads := ⟨rfl, rfl, rfl, rfl, rfl, rfl⟩

theorem precedes_of {records : List Relationship} {r s : Relationship}
    (h : r.Precedes records s) : Precedes (records.map of) (of r) (of s) := by
  obtain hgt | ⟨heq, hfirst⟩ := h
  · exact .inl hgt
  · exact .inr ⟨heq, hfirst.map of⟩

end RelationshipDetail

namespace RelationshipSummary

/-- What the short view shows of a relationship that the long view shows. -/
def of (d : RelationshipDetail) : RelationshipSummary where
  npc := d.npc
  name := d.name
  strength := Precision.hold (-10) 10 ((d.affection + d.trust - d.resentment) / 3)
  role := d.role

end RelationshipSummary

namespace Snapshot

/-- The short view tells what the long view tells. -/
structure Agrees (short : Snapshot) (full : FullSnapshot) : Prop where
  tick : short.tick = full.tick
  day : short.day = full.day
  age : short.age = full.age
  stage : short.stage = full.stage
  display : full.display = short.stage.displayFlags
  stats : short.stats = full.stats
  mood : short.mood = .ofMood full.stats.mood
  karma : short.karma = full.karma.value
  karmaBand : full.karma.band = .ofKarma short.karma
  heatLevel : full.heat.level = .ofHeat full.heat.value
  event : short.event = full.event
  state : full.state = .eventActive ↔ full.event ≠ none
  /-- No character is listed twice. -/
  npcs : (full.relationships.map RelationshipDetail.npc).Nodup
  /-- What is read off a relationship at length is what its values say. -/
  details : ∀ d ∈ full.relationships, d.Reads
  /-- The same relationships are shown in short, in the same roles, ranked. -/
  relationships : ∃ ranked : List RelationshipDetail, ranked.Perm full.relationships ∧
    ranked.Pairwise (RelationshipDetail.Precedes full.relationships) ∧
    short.relationships = ranked.map RelationshipSummary.of

end Snapshot

namespace Session

/-! ## Views -/

/-- The director is busy exactly while there is an event to look at. -/
theorem Reachable.state_iff {s : Session} (h : s.Reachable) :
    s.director.state = .eventActive ↔ s.currentEvent ≠ none := by
  unfold Director.state
  cases ha : s.director.active with
  | none =>
    have hnone : s.currentEvent = none := by
      unfold Session.currentEvent
      rw [ha]
      rfl
    rw [hnone]
    simp
  | some e =>
    obtain ⟨shown, hshown, -⟩ := h.currentEvent ha
    rw [hshown]
    simp

theorem Reachable.agrees {s : Session} (h : s.Reachable) : s.snapshot.Agrees s.fullSnapshot where
  tick := rfl
  day := rfl
  age := rfl
  stage := rfl
  display := rfl
  stats := rfl
  mood := rfl
  karma := rfl
  karmaBand := rfl
  heatLevel := rfl
  event := rfl
  state := h.state_iff
  npcs := by
    show ((s.world.relationships.records.map RelationshipDetail.of).map _).Nodup
    rw [List.map_map]
    exact s.world.relationships.nodup_npcs
  details := by
    intro d mem
    obtain ⟨r, -, rfl⟩ := List.mem_map.1 mem
    exact RelationshipDetail.reads_of r
  relationships := by
    refine ⟨s.world.relationships.ranked.map .of, s.world.relationships.ranked_perm.map _, ?_, ?_⟩
    · rw [List.pairwise_map]
      exact s.world.relationships.pairwise_ranked.imp RelationshipDetail.precedes_of
    · rw [List.map_map]
      rfl

/-- The two views of a session tell one story, and the short one shows the newest memories, newest
first. -/
theorem views_agree {s : Session} (h : s.Reachable) :
    s.snapshot.Agrees s.fullSnapshot ∧
    ∃ shown older : List Memory, s.world.memories.items = shown ++ older ∧
      s.snapshot.memories = shown.map Memory.text ∧
      shown.length =
        min s.config.snapshotMemoryCount.toNat s.world.memories.items.length ∧
      (shown ++ older).Pairwise fun newer older => older.tick ≤ newer.tick := by
  refine ⟨h.agrees, s.world.memories.items.take s.config.snapshotMemoryCount.toNat,
    s.world.memories.items.drop s.config.snapshotMemoryCount.toNat, ?_, rfl, ?_, ?_⟩
  · exact (List.take_append_drop ..).symm
  · exact List.length_take
  · rw [List.take_append_drop]
    exact h.remembers.descending

/-! ## A picnic

Three characters are met at once, two of them with the same sum of affection and trust. -/

def share : Choice where
  id := "share"
  label := "Share the lemonade"
  relationships := [⟨"zoe", .affection, 2⟩, ⟨"mira", .trust, 3⟩, ⟨"tom", .affection, 1⟩,
    ⟨"tom", .trust, 2⟩, ⟨"zoe", .resentment, 4⟩, ⟨"mira", .familiarity, 5⟩]
  memory := some "You shared the lemonade."

def picnic : Storylet where
  id := "picnic"
  title := "Picnic"
  choices := [share]

def picnicCatalog : Catalog := .of [picnic] [] (by decide)

def picnicConfig : Config :=
  { activationChance := 1, historyLength := 0, snapshotMemoryCount := 1 }

def picnicGame : Session := (fresh 7 kneePlayer picnicCatalog picnicConfig).pass none

theorem start_picnicGame : start 7 kneePlayer picnicCatalog picnicConfig = .ok picnicGame := rfl

/-- The second picnic is let pass, and then there is a third. -/
def picnicCalls : List Call := [.choose "picnic" "share" 1, .step 72, .step 1]

/-- Mira and Tom rank above Zoe, who was met first and is a rival in both views. -/
theorem views_agree_picnicGame :
    let s := picnicGame.run picnicCalls
    s.snapshot.Agrees s.fullSnapshot ∧ s.fullSnapshot.state = .eventActive ∧
    (s.fullSnapshot.relationships.map fun d => (d.npc, d.role)) =
      [("zoe", .rival), ("mira", .acquaintance), ("tom", .stranger)] ∧
    (s.snapshot.relationships.map fun r => (r.npc, r.role)) =
      [("mira", .acquaintance), ("tom", .stranger), ("zoe", .rival)] ∧
    s.world.memories.items.length = 2 ∧
    s.snapshot.memories = ["You let \"Picnic\" pass."] := by
  intro s
  have hgame : picnicGame.Reachable := .start ⟨[picnic], [], rfl⟩ start_picnicGame
  obtain ⟨hagrees, -⟩ := views_agree (s := s) (hgame.run picnicCalls)
  exact ⟨hagrees, by decide +kernel⟩

end Session

end LifeStory
