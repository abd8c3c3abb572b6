import Mathlib.Data.List.Forall2
import LifeStory.Proofs.Director.Moves
import LifeStory.Proofs.Relationship.Touches
import LifeStory.Proofs.Stats.Drift

/-!
# Resolutions

All that can fail in a resolution comes before its first change. So one that writes to its scene
while it goes leaves the scene alone where it fails (`run_resolve`), whatever catalog it is given,
and where it succeeds it changes what the choice names and nothing else (`Resolution`).

    (resolve catalog storylet choice ..).run.run scene =
      the scene after `Director.resolve`, or the same scene if that fails    (run_resolve)
    Resolution catalog config now t id c scene (scene.after catalog .. t c id)
                                                                            (resolution_after)
    Outcome catalog config storylet choice now scene
      ((resolve catalog storylet choice ..).run.run scene)                   (unchanged_or_resolved)
-/

namespace LifeStory

open LifeStory.Random (Stream)

namespace Director

/-! ## Changes -/

/-- An attribute that no change names stays as it was. -/
theorem read_foldl_applyStat (difficulty : Difficulty) {deltas : List StatDelta} {k : StatKind}
    (h : ∀ delta ∈ deltas, delta.stat ≠ k) (before : StatLedger × Stream) :
    (deltas.foldl (applyStat difficulty) before).1.read k = before.1.read k := by
  induction deltas generalizing before with
  | nil => rfl
  | cons delta rest ih =>
    obtain ⟨hdelta, hrest⟩ := List.forall_mem_cons.1 h
    rw [List.foldl_cons, ih hrest]
    exact StatLedger.read_applyDelta_of_ne (Ne.symm hdelta) _

end Director

/-! ## Resolving in place -/

/-- What a resolution reads and writes. -/
structure Scene where
  director : Director
  world : World
  stream : Stream

/-- A part of an operation on a scene. Where it fails, what it wrote before stays written. -/
abbrev Deed := ExceptT GameError (StateM Scene)

namespace Scene

def changeStat (difficulty : Difficulty) (delta : StatDelta) (scene : Scene) : Scene :=
  let (stats, stream) := Director.applyStat difficulty (scene.world.stats, scene.stream) delta
  { scene with world := { scene.world with stats }, stream }

def changeRelationship (catalog : Catalog) (delta : RelationshipDelta) (scene : Scene) : Scene :=
  let relationships := Director.applyRelationship catalog scene.world.relationships delta
  { scene with world := { scene.world with relationships } }

def changePressure (f : Pressure → Pressure) (scene : Scene) : Scene :=
  { scene with world := { scene.world with pressure := f scene.world.pressure } }

def remember (now : Tick) (text : String) (scene : Scene) : Scene :=
  let memories := MemoryLog.record scene.world.memories now text
  { scene with world := { scene.world with memories } }

def close (id : StoryletId) (now : Tick) (scene : Scene) : Scene :=
  { scene with director := ⟨none, scene.director.history.recordResolved id now⟩ }

/-- Carries a choice of a storylet out, change by change. -/
def enact (catalog : Catalog) (config : Config) (difficulty : Difficulty) (now : Tick)
    (t : Storylet) (c : Choice) : Deed Unit := do
  c.stats.forM fun delta => modify (changeStat difficulty delta)
  c.relationships.forM fun delta => modify (changeRelationship catalog delta)
  modify (changePressure fun p => p.addKarma c.karma)
  modify (changePressure fun p => p.addHeat (Director.heatGain t c config))
  if let some text := c.memory then modify (remember now text)

/-- Makes a choice on the active event, writing to the scene as it goes. -/
def resolve (catalog : Catalog) (storylet : StoryletId) (choice : ChoiceId) (config : Config)
    (difficulty : Difficulty) (now : Tick) : Deed Unit := do
  let event ← MonadExcept.ofExcept ((← get).director.validate storylet choice)
  let some t := catalog.get? event.storylet | throw (.content (.activeMissing event.storylet))
  let some c := t.choice? choice | throw (.invalidChoice event.storylet choice)
  enact catalog config difficulty now t c
  modify (close event.storylet now)

/-- A part that succeeds hands what it left behind to the next. -/
theorem run_bind_of_ok {α β : Type} {x : Deed α} {f : α → Deed β} {scene after : Scene} {a : α}
    (h : x.run.run scene = (.ok a, after)) : (x >>= f).run.run scene = (f a).run.run after := by
  rw [ExceptT.run_bind, StateT.run_bind, h]
  rfl

theorem run_forM_modify {α : Type} (f : α → Scene → Scene) (l : List α) (scene : Scene) :
    (l.forM fun a => (modify (f a) : Deed Unit)).run.run scene =
      (.ok (), l.foldl (fun scene a => f a scene) scene) := by
  induction l generalizing scene with
  | nil => rfl
  | cons a l ih => exact ih (f a scene)

theorem foldl_changeStat (difficulty : Difficulty) (deltas : List StatDelta) (scene : Scene) :
    deltas.foldl (fun scene delta => changeStat difficulty delta scene) scene =
      let after := deltas.foldl (Director.applyStat difficulty) (scene.world.stats, scene.stream)
      { scene with world := { scene.world with stats := after.1 }, stream := after.2 } := by
  induction deltas generalizing scene with
  | nil => rfl
  | cons delta rest ih => exact ih (changeStat difficulty delta scene)

theorem foldl_changeRelationship (catalog : Catalog) (deltas : List RelationshipDelta)
    (scene : Scene) :
    deltas.foldl (fun scene delta => changeRelationship catalog delta scene) scene =
      let after := deltas.foldl (Director.applyRelationship catalog) scene.world.relationships
      { scene with world := { scene.world with relationships := after } } := by
  induction deltas generalizing scene with
  | nil => rfl
  | cons delta rest ih => exact ih (changeRelationship catalog delta scene)

theorem run_enact (catalog : Catalog) (config : Config) (difficulty : Difficulty) (now : Tick)
    (t : Storylet) (c : Choice) (scene : Scene) :
    (enact catalog config difficulty now t c).run.run scene =
      let after :=
        Director.applyChoice catalog config difficulty now t c scene.world scene.stream
      (.ok (), { scene with world := after.1, stream := after.2 }) := by
  unfold enact
  rw [run_bind_of_ok (run_forM_modify ..), foldl_changeStat, run_bind_of_ok (run_forM_modify ..),
    foldl_changeRelationship]
  unfold Director.applyChoice
  cases c.memory with
  | none => rfl
  | some text => rfl

/-- All that can fail comes before the first change. -/
theorem run_resolve (catalog : Catalog) (storylet : StoryletId) (choice : ChoiceId)
    (config : Config) (difficulty : Difficulty) (now : Tick) (scene : Scene) :
    (resolve catalog storylet choice config difficulty now).run.run scene =
      match scene.director.resolve catalog storylet choice config difficulty now scene.world
        scene.stream with
      | .error fault => (.error fault, scene)
      | .ok (director, world, stream) => (.ok (), ⟨director, world, stream⟩) := by
  have hget : (get : Deed Scene).run.run scene = (.ok scene, scene) := rfl
  have hvalid : ∀ e, (MonadExcept.ofExcept (.ok e) : Deed ActiveEvent).run.run scene =
      (.ok e, scene) := fun _ => rfl
  rw [Director.resolve_eq]
  unfold resolve Director.find
  rw [run_bind_of_ok hget]
  -- the look-ups only read, so where one fails nothing was written, and both sides fail alike
  cases scene.director.validate storylet choice with
  | error fault => rfl
  | ok event =>
    rw [run_bind_of_ok (hvalid event)]
    dsimp only [bind, Except.bind]
    cases catalog.get? event.storylet with
    | none => rfl
    | some t =>
      dsimp only
      cases t.choice? choice with
      | none => rfl
      | some c => exact run_bind_of_ok (run_enact ..)

/-! ## What a resolution changes -/

/-- A choice `c` of the storylet `t` with the id `id` was made, and nothing changed but what it names.
Those who are met are appended with zeros before the changes reach them; karma and heat take what the
choice and the intensity of the storylet give, as far as they can hold it. -/
structure Resolution (catalog : Catalog) (config : Config) (now : Tick) (t : Storylet)
    (id : StoryletId) (c : Choice) (before after : Scene) : Prop where
  idle : after.director.active = none
  recent : after.director.history.window = before.director.history.window.push id
  resolvedAt : ∀ other, after.director.history.lastResolvedAt? other =
    if other = id then some now else before.director.history.lastResolvedAt? other
  stats : ∀ k, (∀ delta ∈ c.stats, delta.stat ≠ k) →
    after.world.stats.read k = before.world.stats.read k
  relationships : ∃ met : List NpcId, met.Nodup ∧
    (∀ npc, npc ∈ met ↔ before.world.relationships.contains npc = false ∧
      npc ∈ c.relationships.map RelationshipDelta.npc) ∧
    List.Forall₂ (Relationship.Spared c.relationships)
      (before.world.relationships.records ++
        met.map fun npc => .zero npc ((catalog.npcName? npc).getD npc))
      after.world.relationships.records
  karma : after.world.pressure.karma.toInt =
    max (-0x8000000000000000)
      (min (before.world.pressure.karma.toInt + c.karma.toInt) 0x7FFFFFFFFFFFFFFF)
  heat : after.world.pressure.heat =
    (before.world.pressure.addHeat (Director.heatGain t c config)).heat
  baseline : after.world.pressure.baseline = before.world.pressure.baseline
  unremembered : c.memory = none ∨ before.world.memories.capacity = 0 →
    after.world.memories = before.world.memories
  remembered : ∀ text, c.memory = some text → 0 < before.world.memories.capacity →
    after.world.memories.items =
      ⟨now, text⟩ :: before.world.memories.items.take (before.world.memories.capacity - 1)
  drawn : Stream.After (Director.jitters c) before.stream after.stream

/-- The scene after a choice of a storylet. -/
def after (catalog : Catalog) (config : Config) (difficulty : Difficulty) (now : Tick)
    (t : Storylet) (c : Choice) (scene : Scene) (id : StoryletId) : Scene :=
  let (world, stream) :=
    Director.applyChoice catalog config difficulty now t c scene.world scene.stream
  ⟨⟨none, scene.director.history.recordResolved id now⟩, world, stream⟩

theorem resolution_after (catalog : Catalog) (config : Config) (difficulty : Difficulty)
    (now : Tick) (t : Storylet) (c : Choice) (id : StoryletId) (scene : Scene) :
    Resolution catalog config now t id c scene
      (scene.after catalog config difficulty now t c id) where
  idle := rfl
  recent := rfl
  resolvedAt other := scene.director.history.lastResolvedAt?_recordResolved id other now
  stats k h := Director.read_foldl_applyStat difficulty h (scene.world.stats, scene.stream)
  relationships := by
    obtain ⟨met, hnodup, hmem, hrecords⟩ := scene.world.relationships.exists_met
      (fun npc => (catalog.npcName? npc).getD npc) c.relationships
    have hafter : (scene.after catalog config difficulty now t c id).world.relationships =
        scene.world.relationships.touches (fun npc => (catalog.npcName? npc).getD npc)
          c.relationships := rfl
    refine ⟨met, hnodup, hmem, ?_⟩
    rw [hafter, hrecords, List.forall₂_map_right_iff, List.forall₂_same]
    exact fun r _ => Relationship.spared_absorbAll c.relationships r
  karma := by
    show (((scene.world.pressure.addKarma c.karma).addHeat _).karma).toInt = _
    rw [Pressure.karma_addHeat]
    exact Word.toInt_clamp (α := Int64) (scene.world.pressure.karma.toInt + c.karma.toInt)
  heat := by
    show ((scene.world.pressure.addKarma c.karma).addHeat _).heat = _
    unfold Pressure.addHeat Pressure.addKarma
    split <;> rfl
  baseline := by
    show ((scene.world.pressure.addKarma c.karma).addHeat _).baseline = _
    rw [Pressure.baseline_addHeat]
    rfl
  unremembered := by
    intro h
    show (Director.applyChoice ..).1.memories = _
    cases hmemory : c.memory with
    | none => exact Director.memories_applyChoice_of_none hmemory ..
    | some text =>
      have hempty : scene.world.memories.capacity = 0 := h.resolve_left (by rw [hmemory]; nofun)
      rw [Director.memories_applyChoice_of_some hmemory]
      exact Window.push_of_zero hempty _
  remembered := by
    intro text hmemory hroom
    show (Director.applyChoice ..).1.memories.items = _
    rw [Director.memories_applyChoice_of_some hmemory]
    exact Window.items_push_of_pos hroom _
  drawn :=
    Director.after_applyChoice catalog config difficulty now t c scene.world scene.stream

/-- The ways in which a resolution ends. -/
inductive Outcome (catalog : Catalog) (config : Config) (storylet : StoryletId)
    (choice : ChoiceId) (now : Tick) (before : Scene) : Except GameError Unit × Scene → Prop
  | refused (fault : GameError)
      (missing : ∀ e t c, ¬before.director.Found catalog storylet choice e t c) :
      Outcome catalog config storylet choice now before (.error fault, before)
  | resolved (e : ActiveEvent) (t : Storylet) (c : Choice) (after : Scene)
      (found : before.director.Found catalog storylet choice e t c)
      (resolution : Resolution catalog config now t storylet c before after) :
      Outcome catalog config storylet choice now before (.ok (), after)

/-- A resolution in place is the resolution of the director. It leaves the whole scene alone, or
changes what the choice names. -/
theorem unchanged_or_resolved (catalog : Catalog) (storylet : StoryletId) (choice : ChoiceId)
    (config : Config) (difficulty : Difficulty) (now : Tick) (scene : Scene) :
    let run := (resolve catalog storylet choice config difficulty now).run.run scene
    scene.director.resolve catalog storylet choice config difficulty now scene.world scene.stream =
        run.1.map (fun _ => (run.2.director, run.2.world, run.2.stream)) ∧
      Outcome catalog config storylet choice now scene run := by
  dsimp only
  rw [run_resolve, Director.resolve_eq]
  cases hfind : scene.director.find catalog storylet choice with
  | error fault =>
    have hmissing : ∀ e t c, ¬scene.director.Found catalog storylet choice e t c := by
      intro e t c found
      rw [Director.find_eq_ok_iff.2 found] at hfind
      cases hfind
    exact ⟨rfl, .refused fault hmissing⟩
  | ok found =>
    obtain ⟨e, t, c⟩ := found
    have hfound := Director.find_eq_ok_iff.1 hfind
    refine ⟨rfl, .resolved e t c _ hfound ?_⟩
    rw [← hfound.meant]
    exact resolution_after catalog config difficulty now t c e.storylet scene

end Scene

end LifeStory
