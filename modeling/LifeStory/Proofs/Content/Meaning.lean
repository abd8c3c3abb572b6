import LifeStory.Content.Table
import LifeStory.Proofs.Precision.Nearest
import LifeStory.Proofs.Steps

/-!
# The meaning of gates

A gate table holds of a standing if every key in it does, and that is said here from the table alone
(`GateTable.Holds`). The conditions that a table compiles to hold together exactly then. So a
storylet is gated as its tables say, the stages that it lists beside the others, and each of its
choices as the tables of that choice say.

    g.compile = .ok cs → (allHold standing cs ↔ g.Holds standing)          (GateTable.allHold_compile)
    compileAll gs = .ok cs →
      (allHold standing cs ↔ ∀ g ∈ gs, g.Holds standing)               (GateTable.allHold_compileAll)
    table.compile = .ok choice → table.Gates choice                  (ChoiceTable.gates_of_compile)
-/

namespace LifeStory

open Condition (allHold)

/-! ## Lists of conditions -/

namespace Condition

variable {standing : Standing}

theorem allHold_append (cs ds : List Condition) :
    allHold standing (cs ++ ds) = true ↔ allHold standing cs = true ∧ allHold standing ds = true := by
  unfold allHold
  rw [List.all_append, Bool.and_eq_true]

theorem allHold_flatten (lists : List (List Condition)) :
    allHold standing lists.flatten = true ↔ ∀ cs ∈ lists, allHold standing cs = true := by
  unfold allHold
  rw [List.all_flatten, List.all_eq_true]

theorem allHold_singleton (c : Condition) :
    allHold standing [c] = true ↔ c.holds standing = true := by
  unfold allHold
  rw [List.all_cons, List.all_nil, Bool.and_true]

/-- The condition of a key, if the key is there. -/
theorem allHold_toList {α : Type} (key : Option α) (condition : α → Condition) :
    allHold standing (key.map condition).toList = true ↔
      ∀ v ∈ key, (condition v).holds standing = true := by
  cases key with
  | none => exact iff_of_true rfl (by simp)
  | some v => simp [allHold_singleton]

end Condition

/-! ## Names -/

namespace LifeStage

theorem mem_readAll {names : List String} {stages : List LifeStage}
    (h : readAll names = .ok stages) (stage : LifeStage) :
    stage ∈ stages ↔ ∃ name ∈ names, named? name = some stage := by
  rw [mem_of_mapM_eq_ok h]
  refine exists_congr fun name => and_congr_right fun _ => ?_
  cases named? name <;> simp

end LifeStage

namespace TimePeriod

theorem mem_readAll {names : List String} {periods : List TimePeriod}
    (h : readAll names = .ok periods) (period : TimePeriod) :
    period ∈ periods ↔ ∃ name ∈ names, named? name = some period := by
  rw [mem_of_mapM_eq_ok h]
  refine exists_congr fun name => and_congr_right fun _ => ?_
  cases named? name <;> simp

end TimePeriod

namespace Condition

variable {standing : Standing} {names : List String}

theorem allHold_lifeStageIn {stages : List LifeStage} (h : LifeStage.readAll names = .ok stages) :
    allHold standing [.lifeStageIn stages] = true ↔
      ∃ name ∈ names, LifeStage.named? name = some standing.stage := by
  rw [allHold_singleton, ← LifeStage.mem_readAll h]
  exact List.contains_iff_mem

theorem allHold_timeOfDay {periods : List TimePeriod}
    (h : TimePeriod.readAll names = .ok periods) :
    allHold standing [.timeOfDay periods] = true ↔
      ∃ name ∈ names, TimePeriod.named? name = some standing.period := by
  rw [allHold_singleton, ← TimePeriod.mem_readAll h]
  exact List.contains_iff_mem

end Condition

/-! ## Gate tables -/

namespace GateTable

/-- The attribute with a name is between the thresholds, which are rounded. -/
def StatHolds (g : GateTable) (standing : Standing) (name : String) : Prop :=
  ∃ stat, StatKind.named? name = some stat ∧
    (∀ v ∈ g.atLeast, Precision.nearestWord v ≤ standing.stats.read stat) ∧
    ∀ v ∈ g.atMost, standing.stats.read stat ≤ Precision.nearestWord v

/-- What an axis of a character counts as. -/
def axisOf (standing : Standing) (npc : NpcId) (axis : Axis) : Float32 :=
  ((standing.relationships.get? npc).map fun r => r.get axis).getD 0

/-- The axis of the relationship with a character is between the thresholds, which are narrowed. -/
def RelationshipHolds (g : GateTable) (standing : Standing) (npc : NpcId) : Prop :=
  ∃ name ∈ g.axis, ∃ axis, Axis.named? name = some axis ∧
    (∀ v ∈ g.atLeast, Precision.narrow v ≤ axisOf standing npc axis) ∧
    ∀ v ∈ g.atMost, axisOf standing npc axis ≤ Precision.narrow v

/-- Every key of the table holds. -/
structure Holds (g : GateTable) (standing : Standing) : Prop where
  stat : ∀ name ∈ g.stat, g.StatHolds standing name
  npc : ∀ npc ∈ g.npc, g.RelationshipHolds standing npc
  knows : ∀ npc ∈ g.knows, ∃ r, standing.relationships.get? npc = some r
  lifeStages : ∀ names ∈ g.lifeStages, ∃ name ∈ names, LifeStage.named? name = some standing.stage
  minAge : ∀ age ∈ g.minAge, age ≤ standing.age
  maxAge : ∀ age ∈ g.maxAge, standing.age ≤ age
  karmaAtLeast : ∀ karma ∈ g.karmaAtLeast, karma ≤ standing.karma
  karmaAtMost : ∀ karma ∈ g.karmaAtMost, standing.karma ≤ karma
  heatAtLeast : ∀ heat ∈ g.heatAtLeast, heat ≤ standing.heat
  heatAtMost : ∀ heat ∈ g.heatAtMost, standing.heat ≤ heat
  timeOfDay : ∀ names ∈ g.timeOfDay, ∃ name ∈ names, TimePeriod.named? name = some standing.period
  resolved : ∀ id ∈ g.resolved, standing.history.wasResolved id = true
  notResolved : ∀ id ∈ g.notResolved, standing.history.wasResolved id = false

variable {g : GateTable} {standing : Standing} {cs : List Condition}

theorem axisValue_eq_axisOf (npc : NpcId) (axis : Axis) :
    standing.relationships.axisValue npc axis = axisOf standing npc axis := by
  unfold RelationshipGraph.axisValue axisOf
  cases standing.relationships.get? npc <;> rfl

/-! ### The parts of a table -/

theorem allHold_statConditions {name : String} (h : g.statConditions name = .ok cs) :
    allHold standing cs = true ↔ g.StatHolds standing name := by
  unfold statConditions at h
  unfold StatHolds
  cases hname : StatKind.named? name with
  | none =>
    rw [hname] at h
    cases h
  | some stat =>
    rw [hname] at h
    dsimp only at h
    split_ifs at h
    cases h
    simp only [Condition.allHold_append, Condition.allHold_toList, Condition.holds,
      decide_eq_true_eq, Precision.nearestInt32_eq_nearestWord, Option.some.injEq, exists_eq_left']

theorem allHold_relationshipConditions {npc : NpcId} (h : g.relationshipConditions npc = .ok cs) :
    allHold standing cs = true ↔ g.RelationshipHolds standing npc := by
  unfold relationshipConditions at h
  unfold RelationshipHolds
  cases haxis : g.axis with
  | none =>
    rw [haxis] at h
    cases h
  | some name =>
    rw [haxis] at h
    dsimp only at h
    cases hname : Axis.named? name with
    | none =>
      rw [hname] at h
      cases h
    | some axis =>
      rw [hname] at h
      dsimp only at h
      split_ifs at h
      cases h
      simp only [Condition.allHold_append, Condition.allHold_toList, Condition.holds,
        decide_eq_true_eq, axisValue_eq_axisOf, Option.mem_some_iff, exists_eq_left', hname,
        Option.some.injEq]

/-- The subject of a table that is accepted is an attribute, a character or none. -/
theorem allHold_thresholdConditions (h : g.thresholdConditions = .ok cs) :
    allHold standing cs = true ↔
      (∀ name ∈ g.stat, g.StatHolds standing name) ∧
      ∀ npc ∈ g.npc, g.RelationshipHolds standing npc := by
  unfold thresholdConditions at h
  cases hstat : g.stat with
  | some name =>
    cases hnpc : g.npc with
    | some npc =>
      rw [hstat, hnpc] at h
      cases h
    | none =>
      rw [hstat, hnpc] at h
      rw [allHold_statConditions h]
      simp
  | none =>
    cases hnpc : g.npc with
    | some npc =>
      rw [hstat, hnpc] at h
      rw [allHold_relationshipConditions h]
      simp
    | none =>
      rw [hstat, hnpc] at h
      dsimp only at h
      split_ifs at h
      cases h
      exact iff_of_true rfl (by simp)

/-- A key that lists names gives one condition, or none if it is not there. -/
theorem allHold_listed {α : Type} {key : Option (List String)}
    {readAll : List String → Except TableFault (List α)} {condition : List α → Condition}
    {Listed : List String → Prop}
    (meaning : ∀ names as, readAll names = .ok as →
      (allHold standing [condition as] = true ↔ Listed names))
    (h : (match key with
      | none => Except.ok []
      | some names => (readAll names).map fun as => [condition as]) = .ok cs) :
    allHold standing cs = true ↔ ∀ names ∈ key, Listed names := by
  cases key with
  | none =>
    cases h
    exact iff_of_true rfl (by simp)
  | some names =>
    obtain ⟨as, has, rfl⟩ := exists_of_map_eq_ok h
    rw [meaning names as has]
    simp

theorem allHold_stageConditions (h : g.stageConditions = .ok cs) :
    allHold standing cs = true ↔
      ∀ names ∈ g.lifeStages, ∃ name ∈ names, LifeStage.named? name = some standing.stage :=
  allHold_listed (fun _ _ => Condition.allHold_lifeStageIn) h

theorem allHold_timeConditions (h : g.timeConditions = .ok cs) :
    allHold standing cs = true ↔
      ∀ names ∈ g.timeOfDay, ∃ name ∈ names, TimePeriod.named? name = some standing.period :=
  allHold_listed (fun _ _ => Condition.allHold_timeOfDay) h

/-! ### Whole tables -/

theorem allHold_compile (h : g.compile = .ok cs) :
    allHold standing cs = true ↔ g.Holds standing := by
  obtain ⟨thresholds, hthresholds, h⟩ := exists_of_bind_eq_ok h
  obtain ⟨stages, hstages, h⟩ := exists_of_bind_eq_ok h
  obtain ⟨times, htimes, h⟩ := exists_of_bind_eq_ok h
  dsimp only at h
  split_ifs at h
  cases h
  have hknows : ∀ npc, standing.relationships.contains npc = true ↔
      ∃ r, standing.relationships.get? npc = some r := standing.relationships.contains_iff_get?
  -- the conditions stand in the order of the fields
  simp only [Condition.allHold_append, Condition.allHold_toList,
    allHold_thresholdConditions hthresholds, allHold_stageConditions hstages,
    allHold_timeConditions htimes, Condition.holds, hknows, decide_eq_true_eq, Bool.not_eq_true',
    and_assoc]
  constructor
  · rintro ⟨stat, npc, knows, stages, minAge, maxAge, karmaAtLeast, karmaAtMost, heatAtLeast,
      heatAtMost, times, resolved, notResolved⟩
    exact ⟨stat, npc, knows, stages, minAge, maxAge, karmaAtLeast, karmaAtMost, heatAtLeast,
      heatAtMost, times, resolved, notResolved⟩
  · intro h
    exact ⟨h.stat, h.npc, h.knows, h.lifeStages, h.minAge, h.maxAge, h.karmaAtLeast, h.karmaAtMost,
      h.heatAtLeast, h.heatAtMost, h.timeOfDay, h.resolved, h.notResolved⟩

theorem allHold_compileAll {tables : List GateTable} (h : compileAll tables = .ok cs) :
    allHold standing cs = true ↔ ∀ g ∈ tables, g.Holds standing := by
  obtain ⟨lists, hlists, rfl⟩ := exists_of_map_eq_ok h
  have hcompiled := mapM_eq_ok_iff.1 hlists
  rw [Condition.allHold_flatten]
  clear h hlists
  induction hcompiled with
  | nil => simp
  | cons hcompile hrest ih =>
    rw [List.forall_mem_cons, List.forall_mem_cons]
    exact and_congr (allHold_compile hcompile) ih

end GateTable

/-! ## Choices and storylets -/

/-- The choice is that of the table, and is gated as the table says. -/
structure ChoiceTable.Gates (table : ChoiceTable) (choice : Choice) : Prop where
  id : choice.id = table.id
  label : choice.label = table.label
  conditions : ∀ standing, allHold standing choice.conditions = true ↔
    ∀ g ∈ table.conditions, g.Holds standing

theorem ChoiceTable.gates_of_compile {table : ChoiceTable} {choice : Choice}
    (h : table.compile = .ok choice) : table.Gates choice := by
  unfold compile at h
  split at h
  · cases h
  · obtain ⟨stats, -, h⟩ := exists_of_bind_eq_ok h
    obtain ⟨relationships, -, h⟩ := exists_of_bind_eq_ok h
    obtain ⟨conditions, hconditions, h⟩ := exists_of_bind_eq_ok h
    cases h
    exact ⟨rfl, rfl, fun standing => GateTable.allHold_compileAll hconditions⟩

namespace StoryletTable

variable {t : StoryletTable} {s : Storylet}

theorem allHold_stageConditions {standing : Standing} {cs : List Condition}
    (h : t.stageConditions = .ok cs) :
    allHold standing cs = true ↔ t.lifeStages = [] ∨
      ∃ name ∈ t.lifeStages, LifeStage.named? name = some standing.stage := by
  unfold stageConditions at h
  split_ifs at h with hempty
  · cases h
    exact iff_of_true rfl (.inl (List.isEmpty_iff.1 hempty))
  · obtain ⟨stages, hstages, rfl⟩ := exists_of_map_eq_ok h
    rw [Condition.allHold_lifeStageIn hstages, or_iff_right]
    intro hnil
    exact hempty (List.isEmpty_iff.2 hnil)

/-- A storylet that content is accepted for has its conditions together exactly when the stage is
among those listed, if any are, and every gate table holds; and it has the choices of the content in
their order, each gated as its own tables say. -/
theorem compile_keeps_gates (h : t.compile = .ok s) :
    (∀ standing, allHold standing s.conditions = true ↔
      (t.lifeStages = [] ∨
        ∃ name ∈ t.lifeStages, LifeStage.named? name = some standing.stage) ∧
      ∀ g ∈ t.conditions, g.Holds standing) ∧
    List.Forall₂ ChoiceTable.Gates t.choices s.choices := by
  obtain ⟨conditions, hconditions, h⟩ := exists_of_bind_eq_ok h
  obtain ⟨choices, hchoices, h⟩ := exists_of_bind_eq_ok h
  cases h
  constructor
  · obtain ⟨stages, hstages, hrest⟩ :=
      exists_of_bind_eq_ok (eq_ok_of_mapError_eq_ok hconditions)
    obtain ⟨gates, hgates, hlast⟩ := exists_of_bind_eq_ok hrest
    cases hlast
    intro standing
    show allHold standing (stages ++ gates) = true ↔ _
    rw [Condition.allHold_append, allHold_stageConditions hstages,
      GateTable.allHold_compileAll hgates]
  · refine (mapM_eq_ok_iff.1 hchoices).imp fun table choice hchoice => ?_
    exact table.gates_of_compile (eq_ok_of_mapError_eq_ok hchoice)

/-- A storylet that is gated in most ways that there are. -/
def fairTable : StoryletTable where
  id := "fair"
  title := "The Fair"
  lifeStages := ["child", "Teen"]
  conditions :=
    [{ stat := some "Mood", atLeast := some 0.4, maxAge := some 15, timeOfDay := some ["morning"] },
      { npc := some "mira", axis := some "trust", atMost := some 2, notResolved := some "fair" }]
  choices :=
    [{ id := "ride", label := "Ride", conditions := [{ karmaAtLeast := some 0 }] },
      { id := "leave", label := "Leave" }]

/-- The storylet that it means. -/
def fair : Storylet where
  id := "fair"
  title := "The Fair"
  conditions :=
    [.lifeStageIn [.child, .teen], .statAtLeast .mood 0, .ageAtMost 15, .timeOfDay [.morning],
      .relationshipAtMost "mira" .trust 2, .notResolved "fair"]
  choices :=
    [{ id := "ride", label := "Ride", conditions := [.karmaAtLeast 0] },
      { id := "leave", label := "Leave" }]

/-- A morning of a child who has met nobody. -/
def fairMorning : Standing where
  stats := .resting
  relationships := .empty
  history := .empty 4
  age := 6
  stage := .child
  period := .morning
  karma := 0
  heat := 0

/-- The mood is zero, which is what its threshold is rounded to, and a stranger is trusted as much as
anyone with whom nothing has happened. So both tables hold. -/
theorem compile_keeps_gates_fair :
    fairTable.compile = .ok fair ∧ allHold fairMorning fair.conditions = true ∧
      (∀ g ∈ fairTable.conditions, g.Holds fairMorning) ∧
      List.Forall₂ ChoiceTable.Gates fairTable.choices fair.choices := by
  have hcompile : fairTable.compile = .ok fair := rfl
  have hholds : allHold fairMorning fair.conditions = true := by decide +kernel
  obtain ⟨hconditions, hchoices⟩ := compile_keeps_gates hcompile
  exact ⟨hcompile, hholds, ((hconditions fairMorning).1 hholds).2, hchoices⟩

end StoryletTable

end LifeStory
