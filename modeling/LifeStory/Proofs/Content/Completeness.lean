import LifeStory.Content.Gate
import LifeStory.Proofs.Steps

/-!
# Complete gate tables

A gate table is complete if every key in it takes part: there is one subject at most, a subject has
what it is measured by, and a threshold, nothing of the kind stands without a subject, and all names
are known. A table is accepted if it is complete, and the conditions that it compiles to are those
of its keys, one for each. The one key that an accepted table may have without any effect is an axis
beside an attribute (`withoutIdleAxis`).

    cs.map Condition.key = g.gateKeys if g.compile = .ok cs                           (map_key_compile)
    (∃ cs, g.compile = .ok cs) ↔ g.withoutIdleAxis.Complete                         (compile_accepts_iff)
-/

namespace LifeStory

/-- The key of a gate table that a condition is written with. -/
def Condition.key : Condition → String
  | statAtLeast .. | relationshipAtLeast .. => "at_least"
  | statAtMost .. | relationshipAtMost .. => "at_most"
  | knowsNpc _ => "knows"
  | lifeStageIn _ => "life_stages"
  | ageAtLeast _ => "min_age"
  | ageAtMost _ => "max_age"
  | karmaAtLeast _ => "karma_at_least"
  | karmaAtMost _ => "karma_at_most"
  | heatAtLeast _ => "heat_at_least"
  | heatAtMost _ => "heat_at_most"
  | timeOfDay _ => "time_of_day"
  | resolved _ => "resolved"
  | notResolved _ => "not_resolved"

namespace GateTable

/-- The name of a key, if the key is there. -/
def keyIf {α : Type} (name : String) (key : Option α) : List String := (key.map fun _ => name).toList

/-- The thresholds of the table. -/
def thresholdKeys (g : GateTable) : List String :=
  keyIf "at_least" g.atLeast ++ keyIf "at_most" g.atMost

/-- The keys of the table that are gates, in order; the subject of the thresholds is none. -/
def gateKeys (g : GateTable) : List String :=
  g.thresholdKeys ++ keyIf "knows" g.knows ++ keyIf "life_stages" g.lifeStages ++
  keyIf "min_age" g.minAge ++ keyIf "max_age" g.maxAge ++
  keyIf "karma_at_least" g.karmaAtLeast ++ keyIf "karma_at_most" g.karmaAtMost ++
  keyIf "heat_at_least" g.heatAtLeast ++ keyIf "heat_at_most" g.heatAtMost ++
  keyIf "time_of_day" g.timeOfDay ++ keyIf "resolved" g.resolved ++
  keyIf "not_resolved" g.notResolved

/-- The subject and its thresholds belong together. -/
structure Aimed (g : GateTable) : Prop where
  oneSubject : g.stat = none ∨ g.npc = none
  stat : ∀ name ∈ g.stat, (∃ stat, StatKind.named? name = some stat) ∧ g.thresholdKeys ≠ []
  npc : ∀ npc ∈ g.npc,
    (∃ name ∈ g.axis, ∃ axis, Axis.named? name = some axis) ∧ g.thresholdKeys ≠ []
  axis : g.axis ≠ none → g.npc ≠ none
  threshold : g.thresholdKeys ≠ [] → g.stat ≠ none ∨ g.npc ≠ none

/-- Every key of the table takes part. -/
structure Complete (g : GateTable) : Prop extends g.Aimed where
  lifeStages : ∀ names ∈ g.lifeStages, ∀ name ∈ names,
    ∃ stage, LifeStage.named? name = some stage
  timeOfDay : ∀ names ∈ g.timeOfDay, ∀ name ∈ names,
    ∃ period, TimePeriod.named? name = some period
  gate : g.gateKeys ≠ []

/-- The table without an axis that stands beside an attribute. -/
def withoutIdleAxis (g : GateTable) : GateTable :=
  { g with axis := if g.stat.isSome then none else g.axis }

variable {g : GateTable} {cs : List Condition}

/-! ### Keys -/

/-- A key gives a condition that is written with it. -/
theorem map_key_toList {α : Type} (key : Option α) (condition : α → Condition) {name : String}
    (h : ∀ v, (condition v).key = name) :
    (key.map condition).toList.map Condition.key = keyIf name key := by
  cases key with
  | none => rfl
  | some v => exact congrArg (fun k => [k]) (h v)

theorem thresholdKeys_ne_nil :
    g.thresholdKeys ≠ [] ↔ ¬(g.atLeast.isNone && g.atMost.isNone) = true := by
  unfold thresholdKeys keyIf
  cases g.atLeast <;> cases g.atMost <;> simp

/-- What a table without a subject may not have. -/
theorem isStray_iff : (g.atLeast.isSome || g.atMost.isSome || g.axis.isSome) = true ↔
    g.thresholdKeys ≠ [] ∨ g.axis ≠ none := by
  unfold thresholdKeys keyIf
  cases g.atLeast <;> cases g.atMost <;> cases g.axis <;> simp

/-! ### Thresholds -/

theorem map_key_thresholds {low high : Float → Condition} (hlow : ∀ v, (low v).key = "at_least")
    (hhigh : ∀ v, (high v).key = "at_most") :
    ((g.atLeast.map low).toList ++ (g.atMost.map high).toList).map Condition.key =
      g.thresholdKeys := by
  rw [List.map_append, map_key_toList _ low hlow, map_key_toList _ high hhigh]
  rfl

theorem map_key_statConditions {name : String} (h : g.statConditions name = .ok cs) :
    cs.map Condition.key = g.thresholdKeys := by
  unfold statConditions at h
  split at h
  · cases h
  · split_ifs at h
    cases h
    exact map_key_thresholds (fun _ => rfl) fun _ => rfl

theorem map_key_relationshipConditions {npc : NpcId} (h : g.relationshipConditions npc = .ok cs) :
    cs.map Condition.key = g.thresholdKeys := by
  unfold relationshipConditions at h
  split at h
  · cases h
  · split at h
    · cases h
    · split_ifs at h
      cases h
      exact map_key_thresholds (fun _ => rfl) fun _ => rfl

theorem map_key_thresholdConditions (h : g.thresholdConditions = .ok cs) :
    cs.map Condition.key = g.thresholdKeys := by
  unfold thresholdConditions at h
  split at h
  · cases h
  · exact map_key_statConditions h
  · exact map_key_relationshipConditions h
  · split_ifs at h with hstray
    cases h
    symm
    rw [List.map_nil, ← not_ne_iff, thresholdKeys_ne_nil]
    simp_all

theorem exists_statConditions_iff (name : String) :
    (∃ cs, g.statConditions name = .ok cs) ↔
      (∃ stat, StatKind.named? name = some stat) ∧ g.thresholdKeys ≠ [] := by
  unfold statConditions
  rw [thresholdKeys_ne_nil]
  cases StatKind.named? name with
  | none => simp
  | some stat => split_ifs with hnone <;> simp [hnone]

theorem exists_relationshipConditions_iff (npc : NpcId) :
    (∃ cs, g.relationshipConditions npc = .ok cs) ↔
      (∃ name ∈ g.axis, ∃ axis, Axis.named? name = some axis) ∧ g.thresholdKeys ≠ [] := by
  unfold relationshipConditions
  rw [thresholdKeys_ne_nil]
  cases g.axis with
  | none => simp
  | some name =>
    cases haxis : Axis.named? name with
    | none => simp [haxis]
    | some axis => split_ifs with hnone <;> simp [haxis, hnone]

theorem exists_thresholdConditions_iff :
    (∃ cs, g.thresholdConditions = .ok cs) ↔ g.withoutIdleAxis.Aimed := by
  unfold thresholdConditions
  cases hstat : g.stat with
  | some name =>
    have hidle : g.withoutIdleAxis.axis = none := by simp [withoutIdleAxis, hstat]
    cases hnpc : g.npc with
    | some npc =>
      refine iff_of_false (by simp) fun h => ?_
      obtain hnone | hnone := h.oneSubject
      · exact nomatch hstat.symm.trans hnone
      · exact nomatch hnpc.symm.trans hnone
    | none =>
      dsimp only
      rw [exists_statConditions_iff]
      constructor
      · intro h
        refine ⟨.inr hnpc, ?_, ?_, fun haxis => absurd hidle haxis, fun _ => .inl ?_⟩
        · intro name' hname'
          cases hstat.symm.trans hname'
          exact h
        · intro npc hmem
          exact nomatch hnpc.symm.trans hmem
        · exact fun hnone => nomatch hstat.symm.trans hnone
      · intro h
        exact h.stat name hstat
  | none =>
    have haxis : g.withoutIdleAxis.axis = g.axis := by simp [withoutIdleAxis, hstat]
    cases hnpc : g.npc with
    | some npc =>
      have hsubject : g.npc ≠ none := fun hnone => nomatch hnpc.symm.trans hnone
      dsimp only
      rw [exists_relationshipConditions_iff, ← haxis]
      constructor
      · intro h
        refine ⟨.inl hstat, ?_, ?_, fun _ => hsubject, fun _ => .inr hsubject⟩
        · intro name hname
          exact nomatch hstat.symm.trans hname
        · intro npc' hnpc'
          cases hnpc.symm.trans hnpc'
          exact h
      · intro h
        exact h.npc npc hnpc
    | none =>
      dsimp only
      split_ifs with hstray
      · refine iff_of_false (by simp) fun h => ?_
        obtain hkeys | hgiven := isStray_iff.1 hstray
        · exact (h.threshold hkeys).elim (fun hne => hne hstat) fun hne => hne hnpc
        · exact h.axis (haxis ▸ hgiven) hnpc
      · rw [isStray_iff, not_or] at hstray
        refine iff_of_true ⟨[], rfl⟩ ⟨.inl hstat, ?_, ?_, ?_, ?_⟩
        · exact fun name hname => nomatch hstat.symm.trans hname
        · exact fun npc hmem => nomatch hnpc.symm.trans hmem
        · exact fun hgiven => absurd (haxis ▸ hgiven) hstray.2
        · exact fun hkeys => absurd hkeys hstray.1

/-! ### Lists of names -/

/-- A key that lists names gives a condition if all of them are known. -/
theorem exists_listed_iff {α : Type} {key : Option (List String)}
    {readAll : List String → Except TableFault (List α)} {condition : List α → Condition}
    {Known : String → Prop}
    (known : ∀ names, (∃ as, readAll names = .ok as) ↔ ∀ name ∈ names, Known name) :
    (∃ cs : List Condition, (match key with
      | none => Except.ok []
      | some names => (readAll names).map fun as => [condition as]) = .ok cs) ↔
      ∀ names ∈ key, ∀ name ∈ names, Known name := by
  cases key with
  | none => simp
  | some names =>
    dsimp only
    rw [exists_map_eq_ok_iff, known]
    simp

theorem map_key_listed {α : Type} {key : Option (List String)} {name : String}
    (readAll : List String → Except TableFault (List α)) (condition : List α → Condition)
    (hkey : ∀ as, (condition as).key = name)
    (h : (match key with
      | none => Except.ok []
      | some names => (readAll names).map fun as => [condition as]) = .ok cs) :
    cs.map Condition.key = keyIf name key := by
  cases key with
  | none =>
    cases h
    rfl
  | some names =>
    obtain ⟨as, -, rfl⟩ := exists_of_map_eq_ok h
    exact congrArg (fun k => [k]) (hkey as)

theorem exists_stageConditions_iff :
    (∃ cs, g.stageConditions = .ok cs) ↔
      ∀ names ∈ g.lifeStages, ∀ name ∈ names, ∃ stage, LifeStage.named? name = some stage := by
  refine exists_listed_iff fun names => ?_
  unfold LifeStage.readAll
  rw [exists_mapM_eq_ok_iff]
  refine forall₂_congr fun name _ => exists_congr fun stage => ?_
  cases LifeStage.named? name <;> simp

theorem exists_timeConditions_iff :
    (∃ cs, g.timeConditions = .ok cs) ↔
      ∀ names ∈ g.timeOfDay, ∀ name ∈ names, ∃ period, TimePeriod.named? name = some period := by
  refine exists_listed_iff fun names => ?_
  unfold TimePeriod.readAll
  rw [exists_mapM_eq_ok_iff]
  refine forall₂_congr fun name _ => exists_congr fun period => ?_
  cases TimePeriod.named? name <;> simp

/-! ### Whole tables -/

/-- The conditions of a table, put together from those of its parts. -/
def conditionsOf (g : GateTable) (thresholds stages times : List Condition) : List Condition :=
  thresholds ++ (g.knows.map .knowsNpc).toList ++ stages ++
  (g.minAge.map .ageAtLeast).toList ++ (g.maxAge.map .ageAtMost).toList ++
  (g.karmaAtLeast.map .karmaAtLeast).toList ++ (g.karmaAtMost.map .karmaAtMost).toList ++
  (g.heatAtLeast.map .heatAtLeast).toList ++ (g.heatAtMost.map .heatAtMost).toList ++
  times ++ (g.resolved.map .resolved).toList ++ (g.notResolved.map .notResolved).toList

theorem map_key_conditionsOf {thresholds stages times : List Condition}
    (hthresholds : g.thresholdConditions = .ok thresholds) (hstages : g.stageConditions = .ok stages)
    (htimes : g.timeConditions = .ok times) :
    (g.conditionsOf thresholds stages times).map Condition.key = g.gateKeys := by
  have hthresholds := map_key_thresholdConditions hthresholds
  have hstages := map_key_listed LifeStage.readAll .lifeStageIn (fun _ => rfl) hstages
  have htimes := map_key_listed TimePeriod.readAll .timeOfDay (fun _ => rfl) htimes
  unfold conditionsOf gateKeys
  simp only [List.map_append]
  rw [hthresholds, hstages, htimes, map_key_toList g.knows .knowsNpc fun _ => rfl,
    map_key_toList g.minAge .ageAtLeast fun _ => rfl,
    map_key_toList g.maxAge .ageAtMost fun _ => rfl,
    map_key_toList g.karmaAtLeast .karmaAtLeast fun _ => rfl,
    map_key_toList g.karmaAtMost .karmaAtMost fun _ => rfl,
    map_key_toList g.heatAtLeast .heatAtLeast fun _ => rfl,
    map_key_toList g.heatAtMost .heatAtMost fun _ => rfl,
    map_key_toList g.resolved .resolved fun _ => rfl,
    map_key_toList g.notResolved .notResolved fun _ => rfl]

/-- A table is accepted if its parts are and give any condition. -/
theorem compile_eq_ok_iff :
    g.compile = .ok cs ↔ ∃ thresholds stages times,
      g.thresholdConditions = .ok thresholds ∧ g.stageConditions = .ok stages ∧
      g.timeConditions = .ok times ∧ cs = g.conditionsOf thresholds stages times ∧ cs ≠ [] := by
  constructor
  · intro h
    obtain ⟨thresholds, hthresholds, h⟩ := exists_of_bind_eq_ok h
    obtain ⟨stages, hstages, h⟩ := exists_of_bind_eq_ok h
    obtain ⟨times, htimes, h⟩ := exists_of_bind_eq_ok h
    dsimp only at h
    split_ifs at h with hempty
    cases h
    rw [List.isEmpty_iff] at hempty
    exact ⟨thresholds, stages, times, hthresholds, hstages, htimes, rfl, hempty⟩
  · rintro ⟨thresholds, stages, times, hthresholds, hstages, htimes, rfl, hne⟩
    unfold compile
    rw [hthresholds, hstages, htimes]
    exact if_neg fun hempty => hne (List.isEmpty_iff.1 hempty)

theorem map_key_compile (h : g.compile = .ok cs) : cs.map Condition.key = g.gateKeys := by
  obtain ⟨_, _, _, hthresholds, hstages, htimes, rfl, -⟩ := compile_eq_ok_iff.1 h
  exact map_key_conditionsOf hthresholds hstages htimes

/-- A gate table is accepted exactly if every key in it takes part, an axis beside an attribute
aside: that one is not looked at. The conditions of an accepted table are those of its gates, one for each
key that is there, thresholds included, in the order of the keys. -/
theorem compile_accepts_iff (g : GateTable) :
    ((∃ cs, g.compile = .ok cs) ↔ g.withoutIdleAxis.Complete) ∧
    ∀ cs, g.compile = .ok cs → cs.map Condition.key = g.gateKeys := by
  refine ⟨⟨?_, ?_⟩, fun cs h => map_key_compile h⟩
  · rintro ⟨cs, h⟩
    obtain ⟨thresholds, stages, times, hthresholds, hstages, htimes, -, hne⟩ :=
      compile_eq_ok_iff.1 h
    refine ⟨exists_thresholdConditions_iff.1 ⟨_, hthresholds⟩,
      exists_stageConditions_iff.1 ⟨_, hstages⟩, exists_timeConditions_iff.1 ⟨_, htimes⟩, ?_⟩
    show g.gateKeys ≠ []
    rw [← map_key_compile h]
    exact fun hnil => hne (List.map_eq_nil_iff.1 hnil)
  · intro h
    obtain ⟨thresholds, hthresholds⟩ := exists_thresholdConditions_iff.2 h.toAimed
    obtain ⟨stages, hstages⟩ := exists_stageConditions_iff.2 h.lifeStages
    obtain ⟨times, htimes⟩ := exists_timeConditions_iff.2 h.timeOfDay
    have hkeys := map_key_conditionsOf hthresholds hstages htimes
    have hgate : g.gateKeys ≠ [] := h.gate
    refine ⟨_, compile_eq_ok_iff.2 ⟨_, _, _, hthresholds, hstages, htimes, rfl, fun hnil => ?_⟩⟩
    rw [hnil] at hkeys
    exact hgate hkeys.symm

/-- A market that opens twice a day, for those whom someone trusts neither too little nor too much. -/
def marketTable : GateTable where
  npc := some "mira"
  axis := some "Trust"
  atLeast := some 2
  atMost := some 7.5
  timeOfDay := some ["Morning", "evening"]
  notResolved := some "market"

/-- Four of its keys are gates, and each gives its condition. -/
theorem compile_accepts_iff_market :
    let cs : List Condition :=
      [.relationshipAtLeast "mira" .trust 2, .relationshipAtMost "mira" .trust 7.5,
        .timeOfDay [.morning, .evening], .notResolved "market"]
    marketTable.compile = .ok cs ∧ marketTable.withoutIdleAxis.Complete ∧
    cs.map Condition.key = marketTable.gateKeys ∧
    marketTable.gateKeys = ["at_least", "at_most", "time_of_day", "not_resolved"] := by
  intro cs
  have hcompile : marketTable.compile = .ok cs := by rfl
  obtain ⟨haccepts, hkeys⟩ := compile_accepts_iff marketTable
  exact ⟨hcompile, haccepts.1 ⟨cs, hcompile⟩, hkeys cs hcompile, rfl⟩

/-- An attribute with an axis, which is meant for characters. -/
def trustTable : GateTable where
  stat := some "stability"
  axis := some "trust"
  atLeast := some 40

/-- The table is accepted, and nothing is left of the axis. -/
theorem incomplete_accepted :
    trustTable.compile = .ok [.statAtLeast .stability 40] ∧ ¬trustTable.Complete := by
  refine ⟨by rfl, fun h => ?_⟩
  exact h.axis (by simp [trustTable]) rfl

end GateTable

end LifeStory
