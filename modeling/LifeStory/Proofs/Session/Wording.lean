import LifeStory.Proofs.Session.Respected

/-!
# Wording is inert

Titles, bodies, labels, memories and the names of characters and players are shown, and nothing is
decided by them; nor by how many memories are kept and shown. `plain` takes all of it away, from the
content up to the session, and a session may be made plain before an operation or after it. So two
lives whose seeds, content, players and configurations are the same when made plain go the same way.

    (g.touch npc name axis amount).plain = g.plain.touch npc npc axis amount     (touch_plain)
    c.holds s.plain = c.holds s                                                  (holds_plain)
    d.pass catalog.plain situation.plain config.plain stream =
      d.pass catalog situation config stream                                     (pass_plain)
    d.resolve catalog.plain .. world.plain stream =
      (d.resolve catalog .. world stream).map (the same with a plain world)      (resolve_plain)
    Respected Session.plain (fun _ => True)                                      (respected_plain)
-/

namespace LifeStory

open LifeStory.Random (Stream)

/-! ## Without wording -/

/-- The choice without its label and memory. -/
def Choice.plain (c : Choice) : Choice := { c with label := "", memory := none }

/-- The storylet without its texts and those of its choices. -/
def Storylet.plain (s : Storylet) : Storylet :=
  { s with title := "", body := "", choices := s.choices.map Choice.plain }

/-- The catalog without texts and characters. -/
def Catalog.plain (c : Catalog) : Catalog :=
  .of (c.storylets.map Storylet.plain) [] (by
    rw [List.map_map]
    exact c.nodup_ids)

/-- The configuration without the numbers of memories. -/
def Config.plain (c : Config) : Config := { c with memoryCapacity := 0, snapshotMemoryCount := 0 }

/-- The player without name and pronouns. -/
def Player.plain (p : Player) : Player := { p with name := "", pronouns := none }

/-- The relationship with a character who is called by the id. -/
def Relationship.plain (r : Relationship) : Relationship := { r with name := r.npc }

/-- The graph with characters who are called by their ids. -/
def RelationshipGraph.plain (g : RelationshipGraph) : RelationshipGraph :=
  { g with
    records := g.records.map Relationship.plain
    indexed := by
      rw [List.map_map]
      exact g.indexed }

def Standing.plain (s : Standing) : Standing := { s with relationships := s.relationships.plain }

def Situation.plain (s : Situation) : Situation := { s with relationships := s.relationships.plain }

def Candidate.plain (c : Candidate) : Candidate := { c with storylet := c.storylet.plain }

/-- The world without names and memories. -/
def World.plain (w : World) : World :=
  { w with relationships := w.relationships.plain, memories := .empty 0 }

def Session.plain (s : Session) : Session :=
  { s with
    config := s.config.plain
    catalog := s.catalog.plain
    player := s.player.plain
    world := s.world.plain }

/-! ## Relationships -/

theorem Relationship.applyDelta_plain (r : Relationship) (axis : Axis) (amount : Float32) :
    r.plain.applyDelta axis amount = (r.applyDelta axis amount).plain := by
  have hget : r.plain.get axis = r.get axis := by cases axis <;> rfl
  have hset : ∀ v, r.plain.set axis v = (r.set axis v).plain := by
    intro v
    cases axis <;> rfl
  unfold Relationship.applyDelta
  dsimp only
  rw [hget]
  split
  · rfl
  · exact hset _

namespace RelationshipGraph

theorem get?_plain (g : RelationshipGraph) (npc : NpcId) :
    g.plain.get? npc = (g.get? npc).map Relationship.plain := by
  rw [get?_eq_find?, get?_eq_find?]
  exact List.find?_map

@[simp] theorem contains_plain (g : RelationshipGraph) (npc : NpcId) :
    g.plain.contains npc = g.contains npc := rfl

@[simp] theorem axisValue_plain (g : RelationshipGraph) (npc : NpcId) (axis : Axis) :
    g.plain.axisValue npc axis = g.axisValue npc axis := by
  unfold axisValue
  rw [get?_plain]
  cases g.get? npc with
  | none => rfl
  | some r => cases axis <;> rfl

theorem ensure_plain (g : RelationshipGraph) (npc : NpcId) (name : String) :
    (g.ensure npc name).plain = g.plain.ensure npc npc := by
  cases hknown : g.contains npc with
  | true => rw [ensure_of_known hknown, ensure_of_known (g := g.plain) hknown]
  | false =>
    rw [ensure_of_new hknown, ensure_of_new (g := g.plain) hknown]
    ext1
    · exact List.map_append
    · show (npc, g.records.length) :: g.index =
        (npc, (g.records.map Relationship.plain).length) :: g.index
      rw [List.length_map]

/-- By whatever name someone is met, on a plain graph it is the id. -/
theorem touch_plain (g : RelationshipGraph) (npc : NpcId) (name : String) (axis : Axis)
    (amount : Float32) :
    (g.touch npc name axis amount).plain = g.plain.touch npc npc axis amount := by
  unfold touch
  rw [← ensure_plain g npc name]
  ext1
  · show ((g.ensure npc name).modify npc _ _).records.map Relationship.plain = _
    rw [records_modify, records_modify, List.map_map]
    show _ = ((g.ensure npc name).records.map Relationship.plain).map _
    rw [List.map_map]
    apply List.map_congr_left
    intro r _
    show (if r.npc == npc then r.applyDelta axis amount else r).plain =
      if r.npc == npc then r.plain.applyDelta axis amount else r.plain
    split
    · exact (r.applyDelta_plain axis amount).symm
    · rfl
  · rw [index_modify]
    exact index_modify ..

end RelationshipGraph

/-! ## Conditions -/

@[simp] theorem Condition.holds_plain (s : Standing) (c : Condition) :
    c.holds s.plain = c.holds s := by
  cases c with
  | relationshipAtLeast npc axis value =>
    show decide (value ≤ s.relationships.plain.axisValue npc axis) = _
    rw [RelationshipGraph.axisValue_plain]
    rfl
  | relationshipAtMost npc axis value =>
    show decide (s.relationships.plain.axisValue npc axis ≤ value) = _
    rw [RelationshipGraph.axisValue_plain]
    rfl
  | knowsNpc npc => exact RelationshipGraph.contains_plain s.relationships npc
  | _ => rfl

@[simp] theorem Condition.allHold_plain (s : Standing) (conditions : List Condition) :
    allHold s.plain conditions = allHold s conditions := by
  have hholds : holds s.plain = holds s := funext (holds_plain s)
  unfold allHold
  rw [hholds]

/-! ## Look-ups -/

@[simp] theorem Storylet.choice?_plain (s : Storylet) (id : ChoiceId) :
    s.plain.choice? id = (s.choice? id).map Choice.plain := by
  unfold choice? plain
  dsimp only
  rw [List.find?_map]
  rfl

@[simp] theorem Storylet.offered_plain (s : Storylet) (standing : Standing) :
    s.plain.offered standing.plain = s.offered standing := by
  have hid : (Choice.id ∘ Choice.plain) = Choice.id := rfl
  have hconditions : ((fun c : Choice => Condition.allHold standing c.conditions) ∘ Choice.plain) =
      fun c => Condition.allHold standing c.conditions := rfl
  unfold offered
  simp only [Condition.allHold_plain]
  unfold plain
  dsimp only
  rw [List.filter_map, List.map_map, hid, hconditions]

@[simp] theorem Catalog.get?_plain (c : Catalog) (id : StoryletId) :
    c.plain.get? id = (c.get? id).map Storylet.plain := by
  rw [get?_eq_find?, get?_eq_find?]
  exact List.find?_map

/-! ## Passes -/

namespace Selection

variable {α β γ : Type} [Add α] [LT α] [DecidableLT α]

theorem firstPast?_map (f : β → γ) (target : α) (items : List (β × α)) :
    ∀ sum, firstPast? target sum (items.map fun item => (f item.1, item.2)) =
      (firstPast? target sum items).map f := by
  induction items with
  | nil => intro sum; rfl
  | cons item rest ih =>
    intro sum
    obtain ⟨b, weight⟩ := item
    show (if target < sum + weight then some (f b) else _) =
      (if target < sum + weight then some b else _).map f
    split
    · rfl
    · exact ih _

variable [Mul α] [∀ n : Nat, OfNat α n]

/-- What is picked hangs on the weights alone. -/
theorem pick_map (f : β → γ) (draw : α) (items : List (β × α)) :
    pick draw (items.map fun item => (f item.1, item.2)) = (pick draw items).map f := by
  have htotal : total (items.map fun item => (f item.1, item.2)) = total items := by
    unfold total
    rw [List.foldl_map]
  unfold pick
  rw [htotal, firstPast?_map]
  cases firstPast? (draw * total items) 0 items with
  | some b => rfl
  | none =>
    dsimp only [Option.map_none]
    rw [List.getLast?_map]
    cases items.getLast? <;> rfl

end Selection

namespace Director

variable (d : Director) (catalog : Catalog) (situation : Situation) (config : Config)
  (stream : Stream)

theorem admits_plain (s : Storylet) : d.admits s.plain situation.plain = d.admits s situation := by
  have hstanding : situation.plain.standing d.history = (situation.standing d.history).plain := rfl
  unfold admits
  rw [hstanding, Condition.allHold_plain]
  rfl

theorem candidate?_plain (s : Storylet) :
    d.candidate? situation.plain s.plain = (d.candidate? situation s).map Candidate.plain := by
  have hstanding : situation.plain.standing d.history = (situation.standing d.history).plain := rfl
  unfold candidate?
  dsimp only
  rw [admits_plain, hstanding, Storylet.offered_plain]
  split <;> rfl

theorem eligible_plain :
    d.eligible catalog.plain situation.plain =
      (d.eligible catalog situation).map Candidate.plain := by
  have hcandidate : d.candidate? situation.plain ∘ Storylet.plain =
      fun s => (d.candidate? situation s).map Candidate.plain :=
    funext (candidate?_plain d situation)
  unfold eligible Catalog.plain
  rw [Catalog.storylets_of, List.filterMap_map, hcandidate, List.map_filterMap]

theorem pass_plain :
    d.pass catalog.plain situation.plain config.plain stream =
      d.pass catalog situation config stream := by
  have hweighted : ∀ (heat : Float32) (l : List Candidate),
      ((l.map Candidate.plain).map fun c => (c, c.storylet.weightAt heat config.plain)) =
        (l.map fun c => (c, c.storylet.weightAt heat config)).map
          fun item => (item.1.plain, item.2) := by
    intro heat l
    rw [List.map_map, List.map_map]
    rfl
  unfold pass
  rw [eligible_plain]
  cases d.active with
  | some e => rfl
  | none =>
    cases d.eligible catalog situation with
    | nil => rfl
    | cons c rest =>
      have hpicked := hweighted situation.pressure.heat (c :: rest)
      show (if config.activationProbability situation.pressure.heat ≤ stream.unit.1 then _ else _) =
        if config.activationProbability situation.pressure.heat ≤ stream.unit.1 then _ else _
      by_cases hroll : config.activationProbability situation.pressure.heat ≤ stream.unit.1
      · rw [if_pos hroll, if_pos hroll]
      · rw [if_neg hroll, if_neg hroll]
        show ((⟨(Selection.pick stream.unit.2.unit.1 (((c :: rest).map Candidate.plain).map fun c =>
          (c, c.storylet.weightAt situation.pressure.heat config.plain))).map _, d.history⟩ :
          Director), stream.unit.2.unit.2) = _
        rw [hpicked, Selection.pick_map, Option.map_map]
        rfl

/-! ## Choices -/

theorem applyRelationship_plain (g : RelationshipGraph) (delta : RelationshipDelta) :
    applyRelationship catalog.plain g.plain delta = (applyRelationship catalog g delta).plain := by
  unfold applyRelationship
  rw [RelationshipGraph.touch_plain]
  rfl

theorem foldl_applyRelationship_plain (deltas : List RelationshipDelta) (g : RelationshipGraph) :
    deltas.foldl (applyRelationship catalog.plain) g.plain =
      (deltas.foldl (applyRelationship catalog) g).plain := by
  induction deltas generalizing g with
  | nil => rfl
  | cons delta rest ih => rw [List.foldl_cons, List.foldl_cons, applyRelationship_plain, ih]

theorem applyChoice_plain (difficulty : Difficulty) (now : Tick) (s : Storylet) (c : Choice)
    (world : World) :
    applyChoice catalog.plain config.plain difficulty now s.plain c.plain world.plain stream =
      ((applyChoice catalog config difficulty now s c world stream).1.plain,
        (applyChoice catalog config difficulty now s c world stream).2) := by
  have hrelationships := foldl_applyRelationship_plain catalog c.relationships world.relationships
  unfold applyChoice World.plain
  dsimp only [Choice.plain]
  rw [hrelationships]
  rfl

theorem resolve_plain (storylet : StoryletId) (choice : ChoiceId) (difficulty : Difficulty)
    (now : Tick) (world : World) :
    d.resolve catalog.plain storylet choice config.plain difficulty now world.plain stream =
      (d.resolve catalog storylet choice config difficulty now world stream).map
        fun (director, world, stream) => (director, world.plain, stream) := by
  unfold resolve
  cases d.validate storylet choice with
  | error fault => rfl
  | ok e =>
    dsimp only [bind, Except.bind]
    rw [Catalog.get?_plain]
    cases catalog.get? e.storylet with
    | none => rfl
    | some s =>
      dsimp only [Option.map_some]
      rw [Storylet.choice?_plain]
      cases s.choice? choice with
      | none => rfl
      | some c =>
        dsimp only [Option.map_some]
        rw [applyChoice_plain]
        rfl

/-! ## Expiry -/

theorem expire_plain (memories : MemoryLog) (now : Tick) :
    d.expire catalog.plain (.empty 0) now =
      ((d.expire catalog memories now).1, .empty 0, (d.expire catalog memories now).2.2) := by
  unfold expire
  cases d.active with
  | none => rfl
  | some e =>
    dsimp only
    split <;> rfl

end Director

namespace Session

/-! ## Operations -/

theorem plain_pass (s : Session) (lapsed : Option StoryletId) :
    s.plain.pass lapsed = (s.pass lapsed).plain :=
  pass_congr (s.director.pass_plain s.catalog (s.situation lapsed) s.config s.stream)

theorem plain_spendDays (s : Session) (days : UInt64) :
    s.plain.spendDays days = (s.spendDays days).plain := by
  unfold spendDays
  split <;> rfl

theorem plain_expire (s : Session) : s.plain.expire = (s.expire.1.plain, s.expire.2) :=
  expire_congr (s.director.expire_plain s.catalog s.world.memories s.clock.tick)

theorem plain_advance (s : Session) (ticks : UInt64) :
    s.plain.advance ticks = ((s.advance ticks).1, (s.advance ticks).2.plain) := by
  apply advance_of_parts
  case clock => exact fun _ => rfl
  case setClock => exact fun _ => rfl
  case spendDays => exact plain_spendDays
  case expire => exact fun _ _ => plain_expire _
  case pass => exact plain_pass _

theorem plain_resolve (s : Session) (storylet : StoryletId) (choice : ChoiceId) :
    s.plain.resolve storylet choice = (s.resolve storylet choice).map plain := by
  have h := s.director.resolve_plain s.catalog s.config s.stream storylet choice
    s.player.difficulty s.clock.tick s.world
  unfold resolve
  show (s.director.resolve s.catalog.plain storylet choice s.config.plain s.player.difficulty
    s.clock.tick s.world.plain s.stream).map _ = _
  rw [h]
  cases s.director.resolve s.catalog storylet choice s.config s.player.difficulty s.clock.tick
    s.world s.stream <;> rfl

theorem respected_plain : Respected plain fun _ => True where
  director _ := rfl
  beginOperation _ := ⟨trivial, rfl⟩
  resolve _ storylet choice := ⟨fun _ _ => trivial, plain_resolve _ storylet choice⟩
  advance _ ticks := ⟨trivial, plain_advance _ ticks⟩
  record _ _ := ⟨trivial, rfl⟩

/-! ## Lives -/

/-- Two sessions agree in everything but texts, names and memories. -/
structure SameMechanics (s t : Session) : Prop where
  clock : t.clock = s.clock
  stats : t.world.stats = s.world.stats
  /-- Karma, heat, and the heat that the trend is read from. -/
  pressure : t.world.pressure = s.world.pressure
  relationships : t.world.relationships.plain = s.world.relationships.plain
  /-- The active event and the history. -/
  director : t.director = s.director
  stream : t.stream = s.stream
  log : t.log = s.log

theorem sameMechanics_of_plain {s t : Session} (h : t.plain = s.plain) : SameMechanics s t := by
  have field : ∀ {α : Type} (read : Session → α), read t.plain = read s.plain :=
    fun read => congrArg read h
  exact {
    clock := field fun s => s.clock
    stats := field fun s => s.world.stats
    pressure := field fun s => s.world.pressure
    relationships := field fun s => s.world.relationships
    director := field fun s => s.director
    stream := field fun s => s.stream
    log := field fun s => s.log }

/-- Two sessions that are the same when made plain answer a call alike, and stay the same. -/
theorem call_of_plain {s t : Session} (h : t.plain = s.plain) (c : Call) :
    (t.call c).1 = (s.call c).1 ∧ (t.call c).2.plain = (s.call c).2.plain := by
  obtain ⟨-, hs⟩ := respected_plain.call (s := s) trivial c
  obtain ⟨-, ht⟩ := respected_plain.call (s := t) trivial c
  rw [h, hs, Prod.mk.injEq] at ht
  exact ⟨ht.1.symm, ht.2.symm⟩

theorem run_of_plain {s t : Session} (h : t.plain = s.plain) (calls : List Call) :
    (t.run calls).plain = (s.run calls).plain := by
  rw [← (respected_plain.run (s := s) trivial calls).2,
    ← (respected_plain.run (s := t) trivial calls).2, h]

theorem plain_fresh (seed : UInt64) (player : Player) (catalog : Catalog) (config : Config) :
    (fresh seed player catalog config).plain =
      fresh seed player.plain catalog.plain config.plain := rfl

section Start

variable {player player' : Player} {catalog catalog' : Catalog} {config config' : Config}
  (hplayer : player'.plain = player.plain) (hcatalog : catalog'.plain = catalog.plain)
  (hconfig : config'.plain = config.plain) (valid' : player'.fault? = none) {seed : UInt64}

include hconfig in
/-- The numbers of memories are not looked at when a configuration is checked. -/
theorem fault?_of_plain : config'.fault? = config.fault? := by
  show config'.plain.fault? = config.plain.fault?
  rw [hconfig]

include hconfig in
/-- Whether there is room hangs on the number of memories only. -/
theorem roomy_of_plain (roomy : config.Roomy) :
    config'.Roomy ↔ Window.Roomy MemoryLog.itemBytes config'.memoryCapacity.toNat := by
  have hlength : config'.historyLength = config.historyLength := by
    show config'.plain.historyLength = config.plain.historyLength
    rw [hconfig]
  unfold Config.Roomy
  rw [hlength]
  exact and_iff_right roomy.1

include hconfig valid' in
/-- Games that are the same when made plain are refused alike. -/
theorem start_refused_of_plain (valid : player.fault? = none) {fault : GameError}
    (h : start seed player catalog config = .error (.refused fault)) :
    start seed player' catalog' config' = .error (.refused fault) := by
  rw [start_eq, valid] at h
  rw [start_eq, valid', fault?_of_plain hconfig]
  cases hfault : config.fault? with
  | some f =>
    rw [hfault] at h
    exact h
  | none =>
    rw [hfault] at h
    dsimp only at h
    split_ifs at h
    cases h

include hconfig valid' in
theorem start_crashed_of_plain {s : Session} (h : start seed player catalog config = .ok s)
    (narrow : ¬Window.Roomy MemoryLog.itemBytes config'.memoryCapacity.toNat) :
    start seed player' catalog' config' = .error (.crashed .capacityOverflow) := by
  obtain ⟨sound, -, roomy, -⟩ := start_eq_ok_iff.1 h
  have sound : config.fault? = none := sound
  rw [start_eq, valid', fault?_of_plain hconfig, sound]
  exact if_neg (mt (roomy_of_plain hconfig roomy).1 narrow)

include hplayer hcatalog hconfig valid' in
/-- Games that are the same when made plain start alike, if there is room for the memories. -/
theorem start_of_plain {s : Session} (h : start seed player catalog config = .ok s)
    (wide : Window.Roomy MemoryLog.itemBytes config'.memoryCapacity.toNat) :
    ∃ t, start seed player' catalog' config' = .ok t ∧ t.plain = s.plain := by
  obtain ⟨sound, -, roomy, rfl⟩ := start_eq_ok_iff.1 h
  have sound' : config'.Valid := (fault?_of_plain hconfig).trans sound
  have roomy' : config'.Roomy := (roomy_of_plain hconfig roomy).2 wide
  refine ⟨_, start_eq_ok_iff.2 ⟨sound', valid', roomy', rfl⟩, ?_⟩
  rw [← plain_pass, ← plain_pass, plain_fresh, plain_fresh, hplayer, hcatalog, hconfig]

end Start

/-- A journal leads to the same mechanics on catalogs that differ in wording. -/
theorem replay_of_plain {catalog catalog' : Catalog} (h : catalog'.plain = catalog.plain)
    {j : Journal} {s : Session} (hs : replay j catalog = .ok s) :
    ∃ t, replay j catalog' = .ok t ∧ t.plain = s.plain := by
  obtain ⟨s₀, started, played⟩ := exists_of_bind_eq_ok hs
  obtain ⟨-, valid, roomy, -⟩ := start_eq_ok_iff.1 started
  obtain ⟨t₀, started', hplain⟩ := start_of_plain rfl h rfl valid started roomy.2
  have hperform : (t₀.performAll j.entries).map plain = (s₀.performAll j.entries).map plain := by
    rw [← respected_plain.performAll (s := s₀) trivial,
      ← respected_plain.performAll (s := t₀) trivial, hplain]
  rw [played] at hperform
  cases hplayed : t₀.performAll j.entries with
  | error failure =>
    rw [hplayed] at hperform
    cases hperform
  | ok t =>
    rw [hplayed] at hperform
    refine ⟨t, ?_, Except.ok.inj hperform⟩
    show (start j.seed j.player catalog' j.config).bind (fun s => s.performAll j.entries) = _
    rw [started']
    exact hplayed

/-- Two games that differ only in wording and in how many memories are kept and shown start alike,
but for one with no room for so many memories; their runs answer every call alike and agree in all
mechanics after it; and the journal of one leads to the same mechanics on the catalog of the
other. -/
theorem wording_inert {seed : UInt64} {player player' : Player} {catalog catalog' : Catalog}
    {config config' : Config} (accepted : catalog.Accepted)
    (hplayer : player'.plain = player.plain) (hcatalog : catalog'.plain = catalog.plain)
    (hconfig : config'.plain = config.plain) (valid : player.fault? = none)
    (valid' : player'.fault? = none) :
    (∀ fault, start seed player catalog config = .error (.refused fault) →
      start seed player' catalog' config' = .error (.refused fault)) ∧
    ∀ s, start seed player catalog config = .ok s →
      (¬Window.Roomy MemoryLog.itemBytes config'.memoryCapacity.toNat →
        start seed player' catalog' config' = .error (.crashed .capacityOverflow)) ∧
      (Window.Roomy MemoryLog.itemBytes config'.memoryCapacity.toNat →
        ∃ s', start seed player' catalog' config' = .ok s' ∧
          ∀ calls, SameMechanics (s.run calls) (s'.run calls) ∧
            (∀ c, ((s'.run calls).call c).1 = ((s.run calls).call c).1) ∧
            ∃ t, replay (s.run calls).journal catalog' = .ok t ∧
              SameMechanics (s.run calls) t) := by
  refine ⟨fun fault => start_refused_of_plain hconfig valid' valid, fun s h => ?_⟩
  refine ⟨start_crashed_of_plain hconfig valid' h, fun wide => ?_⟩
  obtain ⟨s', hstart, hplain⟩ := start_of_plain hplayer hcatalog hconfig valid' h wide
  refine ⟨s', hstart, fun calls => ⟨?_, ?_, ?_⟩⟩
  · exact sameMechanics_of_plain (run_of_plain hplain calls)
  · exact fun c => (call_of_plain (run_of_plain hplain calls) c).1
  · have hkept : (s.run calls).catalog = catalog := by
      rw [(continues_run s calls).catalog]
      obtain ⟨-, -, -, rfl⟩ := start_eq_ok_iff.1 h
      exact (continues_pass _ none).catalog
    have hreplay := ((Reachable.start accepted h).run calls).replay_journal
    rw [hkept] at hreplay
    obtain ⟨t, ht, htplain⟩ := replay_of_plain hcatalog hreplay
    exact ⟨t, ht, sameMechanics_of_plain htplain⟩

/-- The scraped knee in other words, with a memory of it and nobody by name. -/
def scrapedKneeReworded : Storylet :=
  { scrapedKnee with
    title := "Knie aufgeschürft"
    body := "Das tut weh."
    choices :=
      [{ getUp with label := "Aufstehen", memory := some "Du bist aufgestanden." },
        { id := "sit", label := "Sitzen bleiben" }] }

def rewordedCatalog : Catalog := .of [scrapedKneeReworded] [] (by decide)

/-- The knee game, told to another player in other words, without memories. -/
theorem wording_inert_kneeGame :
    ∃ s', start 42 { kneePlayer with name := "Kim", pronouns := some "sie" } rewordedCatalog
        { kneeConfig with memoryCapacity := 0 } = .ok s' ∧
      SameMechanics (kneeGame.run kneeCalls) (s'.run kneeCalls) ∧
      ((s'.run kneeCalls).call (.step (-1))).1 =
        .error (.refused (.argument (.negativeTicks "ticks" (-1)))) ∧
      ∃ t, replay (kneeGame.run kneeCalls).journal rewordedCatalog = .ok t ∧
        SameMechanics (kneeGame.run kneeCalls) t := by
  obtain ⟨-, hok⟩ := @wording_inert 42 kneePlayer
    { kneePlayer with name := "Kim", pronouns := some "sie" } kneeCatalog rewordedCatalog
    kneeConfig { kneeConfig with memoryCapacity := 0 } accepted_kneeCatalog rfl rfl rfl rfl rfl
  obtain ⟨s', hstart, hrun⟩ := (hok kneeGame start_kneeGame).2 (by decide)
  obtain ⟨hsame, hcall, hreplay⟩ := hrun kneeCalls
  exact ⟨s', hstart, hsame, hcall (.step (-1)), hreplay⟩

end Session

end LifeStory
