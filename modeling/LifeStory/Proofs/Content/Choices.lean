import LifeStory.Content.Table
import LifeStory.Proofs.Steps

/-!
# Choices of content

What becomes of the written form of a choice is said from the writing alone. A name in one of its
two maps stands for the change of the attribute with that name, a row for the changes of the axes
that are set in it, and a gate table for its conditions. All of them are kept, in the order of the
names, of the rows, of the axes and of the tables, and nothing else is added (`Yields`).

    m.get? name = some amount ↔ (name, amount) ∈ m.entries              (NamedAmounts.get?_eq_some_iff)
    r.compile = .ok deltas → r.Sets deltas                             (RelationshipRow.sets_of_compile)
    c.compile = .ok choice → c.Yields choice                             (ChoiceTable.yields_of_compile)
    (∃ choice, c.compile = .ok choice) ↔ c.Convertible               (ChoiceTable.exists_compile_iff)
-/

namespace LifeStory

/-! ## Numbers by name -/

namespace NamedAmounts

variable (m : NamedAmounts)

/-- The names of the numbers, in order. -/
def names : List String := m.entries.map Prod.fst

theorem ascending_names : m.names.Pairwise (· < ·) := List.pairwise_map.2 m.ascending

theorem mem_names_iff (name : String) : name ∈ m.names ↔ m.get? name ≠ none := by
  unfold names get?
  rw [← Option.isSome_iff_ne_none, List.lookup_isSome_iff, List.mem_map]
  refine exists_congr fun e => and_congr_right fun _ => ?_
  rw [beq_iff_eq, eq_comm]

/-- An entry is the one that is looked up, since no other has its name. -/
theorem get?_eq_some_iff (name : String) (amount : Int32) :
    m.get? name = some amount ↔ (name, amount) ∈ m.entries := by
  obtain ⟨l, ascending⟩ := m
  show l.lookup name = some amount ↔ (name, amount) ∈ l
  induction l with
  | nil => simp
  | cons e rest ih =>
    obtain ⟨hfirst, hrest⟩ := List.pairwise_cons.1 ascending
    rw [List.lookup_cons, List.mem_cons]
    by_cases hname : name = e.1
    · have hlater : (name, amount) ∉ rest :=
        fun hmem => String.lt_irrefl e.1 (hname ▸ hfirst (name, amount) hmem)
      rw [beq_iff_eq.2 hname, or_iff_left hlater, Prod.ext_iff, Option.some.injEq, eq_comm]
      exact (and_iff_right hname).symm
    · have hother : (name, amount) ≠ e := fun heq => hname (congrArg Prod.fst heq)
      rw [beq_eq_false_iff_ne.2 hname, or_iff_right hother]
      exact ih hrest

end NamedAmounts

/-! ## Rows of relationships -/

namespace RelationshipRow

/-- The changes are those of the axes that are set in the row, in the order of the axes. -/
structure Sets (r : RelationshipRow) (deltas : List RelationshipDelta) : Prop where
  mem : ∀ d, d ∈ deltas ↔ d.npc = r.npc ∧ r.amount? d.axis = some d.amount
  axes : (deltas.map RelationshipDelta.axis).Sublist
    [.affection, .trust, .attraction, .familiarity, .resentment]

/-- The changes of a row, if it has any. -/
def deltas (r : RelationshipRow) : List RelationshipDelta :=
  Axis.all.filterMap fun axis => (r.amount? axis).map fun amount => ⟨r.npc, axis, amount⟩

variable (r : RelationshipRow)

theorem mem_deltas (d : RelationshipDelta) :
    d ∈ r.deltas ↔ d.npc = r.npc ∧ r.amount? d.axis = some d.amount := by
  unfold deltas
  rw [List.mem_filterMap]
  constructor
  · rintro ⟨axis, -, h⟩
    obtain ⟨amount, hamount, rfl⟩ := Option.map_eq_some_iff.1 h
    exact ⟨rfl, hamount⟩
  · obtain ⟨npc, axis, amount⟩ := d
    rintro ⟨rfl, hamount⟩
    refine ⟨axis, ?_, Option.map_eq_some_iff.2 ⟨amount, hamount, rfl⟩⟩
    cases axis <;> decide

theorem map_axis_deltas :
    r.deltas.map RelationshipDelta.axis = Axis.all.filter fun axis => (r.amount? axis).isSome := by
  unfold deltas
  rw [List.map_filterMap, ← List.filterMap_eq_filter]
  congr
  funext axis
  cases hamount : r.amount? axis <;> simp [Option.guard, hamount]

theorem deltas_ne_nil : r.deltas ≠ [] ↔ ∃ axis, r.amount? axis ≠ none := by
  constructor
  · intro hne
    obtain ⟨d, hd⟩ := List.exists_mem_of_ne_nil _ hne
    obtain ⟨-, hamount⟩ := (r.mem_deltas d).1 hd
    exact ⟨d.axis, hamount ▸ Option.some_ne_none _⟩
  · rintro ⟨axis, hset⟩
    obtain ⟨amount, hamount⟩ := Option.ne_none_iff_exists'.1 hset
    exact List.ne_nil_of_mem ((r.mem_deltas ⟨r.npc, axis, amount⟩).2 ⟨rfl, hamount⟩)

variable {r}

theorem compile_eq_ok_iff {ds : List RelationshipDelta} :
    r.compile = .ok ds ↔ r.deltas ≠ [] ∧ ds = r.deltas := by
  have hcompile : r.compile =
      if r.deltas.isEmpty then .error (.emptyRelationshipDelta r.npc) else .ok r.deltas := rfl
  rw [hcompile, Ne, ← List.isEmpty_iff]
  split_ifs with hempty
  · exact iff_of_false nofun fun h => h.1 hempty
  · rw [Except.ok.injEq, eq_comm]
    exact (and_iff_right hempty).symm

theorem sets_of_compile {ds : List RelationshipDelta} (h : r.compile = .ok ds) : r.Sets ds := by
  obtain ⟨-, rfl⟩ := compile_eq_ok_iff.1 h
  refine ⟨r.mem_deltas, ?_⟩
  rw [map_axis_deltas]
  exact List.filter_sublist

end RelationshipRow

/-! ## Choices -/

namespace ChoiceTable

/-- The attribute with a name changes by the amount of the name, with its jitter if it has any. -/
structure ChangesStat (c : ChoiceTable) (name : String) (d : StatDelta) : Prop where
  stat : StatKind.named? name = some d.stat
  amount : c.stats.get? name = some d.amount
  jitter : d.jitter = (c.jitter.get? name).getD 0

/-- All that the table says is understood. -/
structure Convertible (c : ChoiceTable) : Prop where
  jitter : ∀ name, c.jitter.get? name ≠ none → c.stats.get? name ≠ none
  stat : ∀ name, c.stats.get? name ≠ none → ∃ stat, StatKind.named? name = some stat
  row : ∀ r ∈ c.relationships, ∃ axis, r.amount? axis ≠ none
  condition : ∀ g ∈ c.conditions, ∃ cs, g.compile = .ok cs

/-- The choice is what the table says, and no more. -/
structure Yields (c : ChoiceTable) (choice : Choice) : Prop where
  id : choice.id = c.id
  label : choice.label = c.label
  karma : choice.karma = c.karma
  heat : choice.heat = c.heat
  memory : choice.memory = c.memory
  stats : ∃ names : List String, names.Pairwise (· < ·) ∧
    (∀ name, name ∈ names ↔ c.stats.get? name ≠ none) ∧
    List.Forall₂ c.ChangesStat names choice.stats
  relationships : ∃ parts, List.Forall₂ RelationshipRow.Sets c.relationships parts ∧
    choice.relationships = parts.flatten
  conditions : ∃ parts, List.Forall₂ (fun g cs => GateTable.compile g = .ok cs) c.conditions parts ∧
    choice.conditions = parts.flatten

variable {c : ChoiceTable} {choice : Choice}

theorem strayJitter?_eq_none_iff :
    c.strayJitter? = none ↔ ∀ name, c.jitter.get? name ≠ none → c.stats.get? name ≠ none := by
  unfold strayJitter?
  rw [Option.map_eq_none_iff, List.find?_eq_none]
  simp only [← NamedAmounts.mem_names_iff c.jitter]
  unfold NamedAmounts.names
  rw [List.forall_mem_map]
  refine forall₂_congr fun e _ => ?_
  rw [Option.isNone_iff_eq_none]

theorem exists_statDeltas_iff : (∃ stats, c.statDeltas = .ok stats) ↔
    ∀ name, c.stats.get? name ≠ none → ∃ stat, StatKind.named? name = some stat := by
  unfold statDeltas
  rw [exists_mapM_eq_ok_iff]
  simp only [← NamedAmounts.mem_names_iff c.stats]
  unfold NamedAmounts.names
  rw [List.forall_mem_map]
  refine forall₂_congr fun e _ => ?_
  cases StatKind.named? e.1 <;> simp

theorem changesStat_of_statDeltas {stats : List StatDelta} (h : c.statDeltas = .ok stats) :
    List.Forall₂ c.ChangesStat c.stats.names stats := by
  have hentries : List.Forall₂ (fun e d => e ∈ c.stats.entries ∧ _) c.stats.entries stats :=
    (List.forall₂_and_left _ _).2 ⟨fun _ he => he, mapM_eq_ok_iff.1 h⟩
  unfold NamedAmounts.names
  rw [List.forall₂_map_left_iff]
  refine hentries.imp ?_
  rintro ⟨name, amount⟩ d ⟨he, hd⟩
  have hamount := (c.stats.get?_eq_some_iff name amount).2 he
  dsimp only at hd ⊢
  cases hstat : StatKind.named? name with
  | none =>
    rw [hstat] at hd
    cases hd
  | some stat =>
    rw [hstat] at hd
    cases hd
    exact ⟨hstat, hamount, rfl⟩

theorem compile_eq_ok_iff : c.compile = .ok choice ↔
    c.strayJitter? = none ∧ ∃ stats rows conditions, c.statDeltas = .ok stats ∧
      c.relationships.mapM RelationshipRow.compile = .ok rows ∧
      GateTable.compileAll c.conditions = .ok conditions ∧
      choice = { id := c.id, label := c.label, conditions, stats, relationships := rows.flatten
                 karma := c.karma, heat := c.heat, memory := c.memory } := by
  unfold compile
  cases c.strayJitter? with
  | some name => exact iff_of_false nofun nofun
  | none =>
    rw [and_iff_right rfl]
    constructor
    · intro h
      obtain ⟨stats, hstats, h⟩ := exists_of_bind_eq_ok h
      obtain ⟨rows, hrows, h⟩ := exists_of_bind_eq_ok h
      obtain ⟨conditions, hconditions, h⟩ := exists_of_bind_eq_ok h
      cases h
      exact ⟨stats, rows, conditions, hstats, hrows, hconditions, rfl⟩
    · rintro ⟨stats, rows, conditions, hstats, hrows, hconditions, rfl⟩
      rw [hstats, hrows, hconditions]
      rfl

theorem yields_of_compile (h : c.compile = .ok choice) : c.Yields choice := by
  obtain ⟨-, stats, rows, conditions, hstats, hrows, hconditions, rfl⟩ := compile_eq_ok_iff.1 h
  obtain ⟨parts, hparts, rfl⟩ := exists_of_map_eq_ok hconditions
  refine ⟨rfl, rfl, rfl, rfl, rfl, ?_, ?_, parts, mapM_eq_ok_iff.1 hparts, rfl⟩
  · exact ⟨c.stats.names, c.stats.ascending_names, c.stats.mem_names_iff,
      changesStat_of_statDeltas hstats⟩
  · exact ⟨rows, (mapM_eq_ok_iff.1 hrows).imp fun _ _ => RelationshipRow.sets_of_compile, rfl⟩

theorem exists_compile_iff : (∃ choice, c.compile = .ok choice) ↔ c.Convertible := by
  have hrows : (∃ rows, c.relationships.mapM RelationshipRow.compile = .ok rows) ↔
      ∀ r ∈ c.relationships, ∃ axis, r.amount? axis ≠ none := by
    rw [exists_mapM_eq_ok_iff]
    refine forall₂_congr fun r _ => ?_
    rw [← r.deltas_ne_nil]
    simp only [RelationshipRow.compile_eq_ok_iff, exists_and_left, exists_eq, and_true]
  have hconditions : (∃ conditions, GateTable.compileAll c.conditions = .ok conditions) ↔
      ∀ g ∈ c.conditions, ∃ cs, g.compile = .ok cs := by
    unfold GateTable.compileAll
    rw [exists_map_eq_ok_iff, exists_mapM_eq_ok_iff]
  constructor
  · rintro ⟨choice, h⟩
    obtain ⟨hjitter, stats, rows, conditions, hstats, hrow, hcondition, -⟩ := compile_eq_ok_iff.1 h
    exact ⟨strayJitter?_eq_none_iff.1 hjitter, exists_statDeltas_iff.1 ⟨stats, hstats⟩,
      hrows.1 ⟨rows, hrow⟩, hconditions.1 ⟨conditions, hcondition⟩⟩
  · intro h
    obtain ⟨stats, hstats⟩ := exists_statDeltas_iff.2 h.stat
    obtain ⟨rows, hrow⟩ := hrows.2 h.row
    obtain ⟨conditions, hcondition⟩ := hconditions.2 h.condition
    exact ⟨_, compile_eq_ok_iff.2 ⟨strayJitter?_eq_none_iff.2 h.jitter, stats, rows, conditions,
      hstats, hrow, hcondition, rfl⟩⟩

/-- A choice of content is accepted exactly if everything that it says is understood: each jitter
belongs to a change of an attribute, each attribute is known, each row sets an axis and each gate
table is accepted. What is accepted is kept as it is written: one change for each name, in the order
of the names, with the amount and the jitter of that name, one change for each axis that is set in a
row, and the conditions of the gate tables one after the other. -/
theorem compile_without_loss (c : ChoiceTable) :
    ((∃ choice, c.compile = .ok choice) ↔ c.Convertible) ∧
    ∀ choice, c.compile = .ok choice → c.Yields choice :=
  ⟨exists_compile_iff, fun _ => yields_of_compile⟩

/-- A choice with two attributes, one of them with jitter, and two rows about the same character. -/
def climbTable : ChoiceTable where
  id := "climb"
  label := "Climb the tree"
  conditions := [{ heatAtMost := some 50, minAge := some 5 }, { knows := some "mira" }]
  stats := (NamedAmounts.empty.insert "stability" 2).insert "health" (-2)
  jitter := NamedAmounts.empty.insert "stability" 1
  relationships :=
    [{ npc := "mira", trust := some 1, affection := some 1.5 }, { npc := "mira", trust := some 1 }]
  karma := 1
  memory := some "You climbed the old oak."

/-- The choice that it means. -/
def climb : Choice where
  id := "climb"
  label := "Climb the tree"
  conditions := [.ageAtLeast 5, .heatAtMost 50, .knowsNpc "mira"]
  stats := [⟨.health, -2, 0⟩, ⟨.stability, 2, 1⟩]
  relationships := [⟨"mira", .affection, 1.5⟩, ⟨"mira", .trust, 1⟩, ⟨"mira", .trust, 1⟩]
  karma := 1
  memory := some "You climbed the old oak."

/-- Health comes before stability, and affection before trust; the second row does not see the
first. -/
theorem compile_without_loss_climb :
    climbTable.compile = .ok climb ∧ climbTable.Convertible ∧ climbTable.Yields climb := by
  have hcompile : climbTable.compile = .ok climb := by rfl
  obtain ⟨haccepts, hyields⟩ := compile_without_loss climbTable
  exact ⟨hcompile, haccepts.1 ⟨climb, hcompile⟩, hyields climb hcompile⟩

end ChoiceTable

end LifeStory
