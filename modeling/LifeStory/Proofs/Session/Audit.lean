import LifeStory.Proofs.Calendar.Readings
import LifeStory.Proofs.Relationship.Touches
import LifeStory.Proofs.Session.ActiveEvent

/-!
# Auditing a journal

Much of a session can be told from its journal alone. An audit adds up the entries without drawing,
and without a director: it knows no events, so nothing opens or closes in it. It has no graph either
but a list of records of its own, one for each character in the order in which they are first
named. What it finds is what the session has (`audited`), since drawing decides only what is offered
and how attributes change, and an event that closes without a choice resolves nothing.

    (g.touch d.npc called d.axis d.amount).records.map .of =
      Acquaintance.hear called (g.records.map .of) d                         (map_of_touch)
    (s.elapse ticks).audited = s.audited.wait s.config ticks                 (audited_elapse)
    (s.settle t c).audited = s.audited.settle s.catalog s.config t c         (audited_settle)
    s.Reachable → s.journal.entries.foldl (Audit.perform s.catalog s.config) .initial = s.audited
                                                                             (foldl_perform)
    s.Reachable → s.journal.totalTicks = s.clock.tick                        (totalTicks_journal)
-/

namespace LifeStory

/-- A character as an audit knows them: what they are called, and a value for each axis. -/
@[ext] structure Acquaintance where
  npc : NpcId
  name : String
  value : Axis → Float32

namespace Acquaintance

/-- The list with someone at its end of whom nothing is known yet, unless they are on it. -/
def meet (l : List Acquaintance) (npc : NpcId) (called : String) : List Acquaintance :=
  if l.any fun a => a.npc == npc then l else l ++ [⟨npc, called, fun _ => 0⟩]

/-- An amount is added on one axis, and the sum is held in its range. A sum that is no number is
passed over. -/
def move (a : Acquaintance) (axis : Axis) (amount : Float32) : Acquaintance :=
  let sum := a.value axis + amount
  if sum.isNaN then a
  else
    let held := Precision.hold axis.least axis.greatest sum
    { a with value := fun other => if other = axis then held else a.value other }

/-- The list after a change: whom it names is met, and moved. -/
def hear (called : String) (l : List Acquaintance) (d : RelationshipDelta) : List Acquaintance :=
  (meet l d.npc called).map fun a => if a.npc == d.npc then a.move d.axis d.amount else a

/-- What an audit knows of a relationship. -/
def of (r : Relationship) : Acquaintance := ⟨r.npc, r.name, r.get⟩

end Acquaintance

/-- What a journal tells of a session without any draw. -/
@[ext] structure Audit where
  tick : Tick
  karma : Int64
  heat : Float32
  /-- In the order in which they were first named. -/
  acquaintances : List Acquaintance
  /-- The tick of the latest resolution of a storylet. -/
  resolvedAt : StoryletId → Option Tick

namespace Audit

/-- Nothing happened. -/
def initial : Audit := ⟨0, 0, 0, [], fun _ => none⟩

/-- Some heat and an amount, held in the range of heat. What is no number adds nothing. -/
def warmed (heat amount : Float32) : Float32 :=
  if amount.isNaN then heat
  else Precision.hold Pressure.leastHeat Pressure.greatestHeat (heat + amount)

/-- Some heat after some days. -/
def cooled (config : Config) (heat : Float32) (days : UInt64) : Float32 :=
  if days = 0 then heat
  else warmed heat (-(config.heatDecayPerDay * Float32.ofNat days.toNat))

/-- Ticks pass; each day boundary among them takes its heat. -/
def wait (config : Config) (a : Audit) (ticks : UInt64) : Audit :=
  let later : Tick := Word.satAdd a.tick ticks
  let days := later / config.ticksPerDay - a.tick / config.ticksPerDay
  { a with tick := later, heat := cooled config a.heat days }

/-- What someone is called who is first named: by the name in the catalog, or else by the id. -/
def called (catalog : Catalog) (npc : NpcId) : String :=
  match catalog.npcName? npc with
  | some name => name
  | none => npc

/-- A choice of a storylet takes effect. -/
def settle (catalog : Catalog) (config : Config) (a : Audit) (t : Storylet) (c : Choice) :
    Audit where
  tick := a.tick
  karma := Word.satAdd a.karma c.karma
  heat := warmed a.heat (c.heat + Float32.ofNat t.intensity.toNat * config.heatPerIntensity)
  acquaintances := c.relationships.foldl (fun l d => Acquaintance.hear (called catalog d.npc) l d)
    a.acquaintances
  resolvedAt id := if id = t.id then some a.tick else a.resolvedAt id

/-- What an entry adds. A choice that the catalog lacks adds nothing. -/
def perform (catalog : Catalog) (config : Config) (a : Audit) : JournalEntry → Audit
  | .step ticks => a.wait config ticks
  | .choose storylet choice ticks =>
    match catalog.get? storylet with
    | none => a
    | some t =>
      match t.choice? choice with
      | none => a
      | some c =>
        let a := a.settle catalog config t c
        if ticks = 0 then a else a.wait config ticks

end Audit

namespace Pressure

/-! ## Heat -/

theorem heat_addHeat (p : Pressure) (amount : Float32) :
    (p.addHeat amount).heat = Audit.warmed p.heat amount := by
  unfold addHeat Audit.warmed
  split <;> rfl

theorem heat_decayHeat (p : Pressure) (days : UInt64) (config : Config) :
    (p.decayHeat days config.heatDecayPerDay).heat = Audit.cooled config p.heat days := by
  unfold decayHeat Audit.cooled
  split
  · rfl
  · rw [heat_addHeat]

end Pressure

namespace RelationshipGraph

/-! ## Relationships -/

variable (g : RelationshipGraph)

theorem any_map_of (npc : NpcId) :
    ((g.records.map Acquaintance.of).any fun a => a.npc == npc) = g.contains npc := by
  rw [Bool.eq_iff_iff, contains_iff, List.any_eq_true]
  simp [Acquaintance.of]

theorem map_of_ensure (npc : NpcId) (called : String) :
    (g.ensure npc called).records.map Acquaintance.of =
      Acquaintance.meet (g.records.map .of) npc called := by
  unfold Acquaintance.meet
  rw [any_map_of, records_ensure g (fun _ => called), newcomer]
  split
  · simp
  · rw [List.map_append, List.map_singleton, List.map_singleton]
    have hzero : (Relationship.zero npc called).get = fun _ => 0 := by
      funext axis
      cases axis <;> rfl
    show _ ++ [(⟨npc, called, (Relationship.zero npc called).get⟩ : Acquaintance)] = _
    rw [hzero]

theorem of_applyDelta (r : Relationship) (axis : Axis) (amount : Float32) :
    Acquaintance.of (r.applyDelta axis amount) = (Acquaintance.of r).move axis amount := by
  have hget : (r.applyDelta axis amount).get = ((Acquaintance.of r).move axis amount).value := by
    funext other
    rw [Relationship.get_applyDelta]
    unfold Relationship.added Acquaintance.move Acquaintance.of
    dsimp only
    by_cases hnan : (r.get axis + amount).isNaN = true
    · rw [if_pos hnan, if_pos hnan]
      split
      · next heq => rw [heq]
      · rfl
    · rw [if_neg hnan, if_neg hnan]
  apply Acquaintance.ext
  · show (r.applyDelta axis amount).npc = _
    rw [Relationship.npc_applyDelta]
    unfold Acquaintance.move
    dsimp only
    split <;> rfl
  · show (r.applyDelta axis amount).name = _
    rw [Relationship.name_applyDelta]
    unfold Acquaintance.move
    dsimp only
    split <;> rfl
  · exact hget

/-- A change does to the relationships what an audit does to its list. -/
theorem map_of_touch (d : RelationshipDelta) (called : String) :
    (g.touch d.npc called d.axis d.amount).records.map Acquaintance.of =
      Acquaintance.hear called (g.records.map .of) d := by
  unfold Acquaintance.hear
  rw [records_touch, ← map_of_ensure, List.map_map, List.map_map]
  apply List.map_congr_left
  intro r _
  show Acquaintance.of (Relationship.absorb d r) =
    if r.npc == d.npc then (Acquaintance.of r).move d.axis d.amount else Acquaintance.of r
  unfold Relationship.absorb
  split
  · exact of_applyDelta ..
  · rfl

theorem map_of_foldl (catalog : Catalog) (deltas : List RelationshipDelta) :
    (deltas.foldl (Director.applyRelationship catalog) g).records.map Acquaintance.of =
      deltas.foldl (fun l d => Acquaintance.hear (Audit.called catalog d.npc) l d)
        (g.records.map .of) := by
  induction deltas generalizing g with
  | nil => rfl
  | cons d rest ih =>
    have hcalled : (catalog.npcName? d.npc).getD d.npc = Audit.called catalog d.npc := by
      unfold Audit.called
      cases catalog.npcName? d.npc <;> rfl
    rw [List.foldl_cons, List.foldl_cons, ih, ← map_of_touch, ← hcalled]
    rfl

end RelationshipGraph

namespace JournalEntry

/-- Is it the entry of a choice? -/
def isChoice : JournalEntry → Bool
  | step _ => false
  | choose .. => true

end JournalEntry

namespace Session

/-! ## Moves -/

/-- What an audit of the session finds. -/
def audited (s : Session) : Audit where
  tick := s.clock.tick
  karma := s.world.pressure.karma
  heat := s.world.pressure.heat
  acquaintances := s.world.relationships.records.map .of
  resolvedAt := s.director.history.lastResolvedAt?

/-- A pass decides only what is offered. -/
@[simp] theorem audited_pass (s : Session) (lapsed : Option StoryletId) :
    (s.pass lapsed).audited = s.audited := by
  unfold audited
  rw [history_pass]
  rfl

theorem audited_elapse {s : Session} (h : s.clock.ticksPerDay = s.config.ticksPerDay)
    (ticks : UInt64) : (s.elapse ticks).audited = s.audited.wait s.config ticks := by
  have hdays : (s.clock.advance ticks).daysSince s.clock =
      (Word.satAdd s.clock.tick ticks : Tick) / s.config.ticksPerDay -
        s.clock.tick / s.config.ticksPerDay := by
    rw [← h]
    rfl
  apply Audit.ext
  · show (s.elapse ticks).clock.tick = _
    rw [clock_elapse]
    rfl
  · show (s.elapse ticks).world.pressure.karma = _
    rw [pressure_elapse, Pressure.karma_decayHeat]
    rfl
  · show (s.elapse ticks).world.pressure.heat = _
    rw [pressure_elapse, Pressure.heat_decayHeat, hdays]
    rfl
  · show (s.elapse ticks).world.relationships.records.map _ = _
    rw [relationships_elapse]
    rfl
  · funext id
    show (s.elapse ticks).director.history.lastResolvedAt? id = _
    rw [director_elapse, Director.lastResolvedAt?_expire]
    rfl

theorem audited_advanced {s : Session} (h : s.clock.ticksPerDay = s.config.ticksPerDay)
    (ticks : UInt64) : (s.advanced ticks).audited = s.audited.wait s.config ticks := by
  unfold advanced
  rw [audited_pass, audited_elapse h]

theorem audited_settle (s : Session) (t : Storylet) (c : Choice) :
    (s.settle t c).audited = s.audited.settle s.catalog s.config t c := by
  apply Audit.ext
  · rfl
  · show ((s.world.pressure.addKarma c.karma).addHeat _).karma = _
    rw [Pressure.karma_addHeat]
    rfl
  · show ((s.world.pressure.addKarma c.karma).addHeat _).heat = _
    rw [Pressure.heat_addHeat]
    rfl
  · exact s.world.relationships.map_of_foldl s.catalog c.relationships
  · funext id
    exact StoryHistory.lastResolvedAt?_recordResolved ..

/-! ## Operations -/

section Operations

variable {s : Session} (h : s.clock.ticksPerDay = s.config.ticksPerDay)

include h

theorem audited_stepped (ticks : UInt64) :
    (s.stepped ticks).audited = s.audited.perform s.catalog s.config (.step ticks) :=
  audited_advanced (s := s.beginOperation) h ticks

theorem audited_chosen {e : ActiveEvent} {t : Storylet} {c : Choice} (offers : s.Offers e t c)
    (ticks : UInt64) :
    (s.chosen t c ticks).audited =
      s.audited.perform s.catalog s.config (.choose t.id c.id ticks) := by
  have hs : (s.beginOperation.settle t c).audited = s.audited.settle s.catalog s.config t c :=
    audited_settle ..
  show ((s.beginOperation.settle t c).follow ticks).audited = _
  unfold follow Audit.perform
  dsimp only
  rw [offers.get?]
  dsimp only
  rw [offers.choice?]
  dsimp only
  split
  · exact hs
  · rw [audited_advanced (s := s.beginOperation.settle t c) h, hs]
    rfl

end Operations

/-! ## Runs -/

theorem entries_stepped (s : Session) (ticks : UInt64) :
    (s.stepped ticks).journal.entries = s.journal.entries ++ [.step ticks] := by
  unfold journal
  rw [log_stepped, List.reverse_cons]

theorem entries_chosen (s : Session) (t : Storylet) (c : Choice) (ticks : UInt64) :
    (s.chosen t c ticks).journal.entries = s.journal.entries ++ [.choose t.id c.id ticks] := by
  unfold journal
  rw [log_chosen, List.reverse_cons]

/-- A day of the clock is a day of the configuration. -/
theorem Reachable.ticksPerDay {s : Session} (h : s.Reachable) :
    s.clock.ticksPerDay = s.config.ticksPerDay := by
  induction h using Reachable.induct with
  | start seed player catalog config _ _ valid => exact valid.ticksPerDay_clock
  | stepped s n _ _ ih =>
    rw [(continues_stepped s n).config, clock_stepped, ← ih]
    rfl
  | chosen s e t c n _ _ ih =>
    rw [(continues_chosen s t c n).config, clock_chosen, ← ih]
    rfl

/-- The audit of a journal finds what the session has. -/
theorem foldl_perform {s : Session} (h : s.Reachable) :
    s.journal.entries.foldl (Audit.perform s.catalog s.config) .initial = s.audited := by
  induction h using Reachable.induct with
  | start =>
    rw [audited_pass]
    rfl
  | stepped s n hs _ ih =>
    rw [entries_stepped, List.foldl_append, (continues_stepped s n).catalog,
      (continues_stepped s n).config, ih]
    exact (audited_stepped hs.ticksPerDay n).symm
  | chosen s e t c n hs _ ih offers =>
    rw [entries_chosen, List.foldl_append, (continues_chosen s t c n).catalog,
      (continues_chosen s t c n).config, ih]
    exact (audited_chosen hs.ticksPerDay offers n).symm

/-! ## Time and resolutions -/

/-- The clock shows what the entries add up to. -/
theorem totalTicks_journal {s : Session} (h : s.Reachable) :
    s.journal.totalTicks = s.clock.tick := by
  induction h using Reachable.induct with
  | start => rfl
  | stepped s n _ _ ih =>
    rw [clock_stepped]
    unfold Journal.totalTicks
    rw [entries_stepped, List.foldl_append]
    show Word.satAdd s.journal.totalTicks n = Word.satAdd s.clock.tick n
    rw [ih]
  | chosen s e t c n _ _ ih =>
    rw [clock_chosen]
    unfold Journal.totalTicks
    rw [entries_chosen, List.foldl_append]
    show Word.satAdd s.journal.totalTicks n = Word.satAdd s.clock.tick n
    rw [ih]

theorem lastResolvedAt?_advanced (s : Session) (ticks : UInt64) (id : StoryletId) :
    (s.advanced ticks).director.history.lastResolvedAt? id =
      s.director.history.lastResolvedAt? id := by
  unfold advanced
  rw [history_pass, director_elapse, Director.lastResolvedAt?_expire]

theorem lastResolvedAt?_chosen (s : Session) (t : Storylet) (c : Choice) (ticks : UInt64)
    (id : StoryletId) :
    (s.chosen t c ticks).director.history.lastResolvedAt? id =
      if id = t.id then some s.clock.tick else s.director.history.lastResolvedAt? id := by
  show ((s.beginOperation.settle t c).follow ticks).director.history.lastResolvedAt? id = _
  rw [← StoryHistory.lastResolvedAt?_recordResolved]
  unfold follow
  split
  · rfl
  · rw [lastResolvedAt?_advanced]
    rfl

theorem resolvedCount_advanced (s : Session) (ticks : UInt64) :
    (s.advanced ticks).director.history.resolvedCount = s.director.history.resolvedCount := by
  unfold advanced
  rw [history_pass, director_elapse, Director.resolvedCount_expire]

/-- Every choice in the journal resolved a storylet, and nothing else did. -/
theorem resolvedCount_eq_countP {s : Session} (h : s.Reachable) :
    s.director.history.resolvedCount = s.journal.entries.countP JournalEntry.isChoice := by
  induction h using Reachable.induct with
  | start =>
    rw [history_pass]
    rfl
  | stepped s n _ _ ih =>
    rw [entries_stepped, List.countP_append, ← ih]
    exact resolvedCount_advanced ..
  | chosen s e t c n _ _ ih =>
    rw [entries_chosen, List.countP_append, ← ih]
    show ((s.beginOperation.settle t c).follow n).director.history.resolvedCount = _
    unfold follow
    split
    · rfl
    · rw [resolvedCount_advanced]
      rfl

theorem wasResolved_iff_mem {s : Session} (h : s.Reachable) (id : StoryletId) :
    s.director.history.wasResolved id = true ↔
      ∃ choice ticks, .choose id choice ticks ∈ s.journal.entries := by
  unfold StoryHistory.wasResolved
  induction h using Reachable.induct with
  | start =>
    rw [history_pass]
    constructor
    · intro h
      cases h
    · rintro ⟨choice, ticks, h⟩
      cases h
  | stepped s n _ _ ih =>
    have hl : (s.stepped n).director.history.lastResolvedAt? id =
        s.director.history.lastResolvedAt? id := lastResolvedAt?_advanced ..
    rw [hl, ih, entries_stepped]
    simp
  | chosen s e t c n _ _ ih =>
    rw [lastResolvedAt?_chosen, entries_chosen]
    by_cases hid : id = t.id
    · rw [if_pos hid, hid]
      constructor
      · intro _
        exact ⟨c.id, n, List.mem_append_right _ List.mem_cons_self⟩
      · intro _
        rfl
    · rw [if_neg hid, ih]
      simp [hid]

/-- A session has what its journal tells without any draw: the time, karma, heat and latest
resolutions that the entries add up to, and a relationship with everyone they name, in the order in
which they are first named, each by the name of then and with the values that the changes give. -/
theorem audit_journal {s : Session} (h : s.Reachable) :
    s.journal.entries.foldl (Audit.perform s.catalog s.config) .initial =
      { tick := s.clock.tick
        karma := s.world.pressure.karma
        heat := s.world.pressure.heat
        acquaintances := s.world.relationships.records.map .of
        resolvedAt := s.director.history.lastResolvedAt? } ∧
    s.journal.totalTicks = s.clock.tick ∧
    s.director.history.resolvedCount = s.journal.entries.countP JournalEntry.isChoice ∧
    ∀ id, s.director.history.wasResolved id = true ↔
      ∃ choice ticks, .choose id choice ticks ∈ s.journal.entries := by
  refine ⟨foldl_perform h, totalTicks_journal h, resolvedCount_eq_countP h, ?_⟩
  intro id
  exact wasResolved_iff_mem h id

/-- Mira is called by her name in the catalog, and only the trust in her was changed. -/
theorem audit_journal_kneeGame :
    let s := kneeGame.run kneeCalls
    let found := s.journal.entries.foldl (Audit.perform s.catalog s.config) .initial
    found.karma = 3 ∧
    found.acquaintances = s.world.relationships.records.map .of ∧
    (found.acquaintances.map fun a => (a.npc, a.name, Axis.all.map a.value)) =
      [("mira", "Mira", [0, 2, 0, 0, 0])] ∧
    s.journal.totalTicks = 230 ∧ s.director.history.resolvedCount = 1 ∧
    s.director.history.wasResolved "scraped_knee" = true := by
  intro s found
  obtain ⟨hfold, htotal, hcount, hresolved⟩ := audit_journal (reachable_kneeGame.run kneeCalls)
  change found = _ at hfold
  have hentries : s.journal.entries = [.choose "scraped_knee" "get_up" 30, .step 200] := by
    decide +kernel
  refine ⟨?_, ?_, ?_, ?_, ?_, ?_⟩
  · rw [hfold]
    decide +kernel
  · rw [hfold]
  · rw [hfold]
    decide +kernel
  · rw [htotal]
    decide +kernel
  · rw [hcount, hentries]
    rfl
  · rw [hresolved, hentries]
    exact ⟨"get_up", 30, List.mem_cons_self⟩

end Session

end LifeStory
