import LifeStory.Proofs.Json.Reading
import LifeStory.Session.Journal

/-!
# Journals as texts

A journal is read back from its text as it was saved: the words, the names and ids with whatever
characters they have, the player, and the entries in their order. Only the rates of the
configuration depend on the numbers that they are: `Config.reread?` is the configuration with each
rate read back from its own text, and `Config.Legible` says that this changes none of them.

    (Json.read? j.toText).bind ofDatum? = j.config.reread?.map fun c => { j with config := c }
                                                                                    (read?_toText)
    j.config.Legible → j.version = 1 → ofText j.toText = .ok j          (ofText_toText_of_legible)
-/

namespace LifeStory

namespace Json

/-- The text of a double reads back as the double. -/
def RestoresDouble (x : Float) : Prop :=
  (read? (pretty (.real x))).bind Datum.asDouble? = some x

/-- The text of a single reads back as the single. -/
def RestoresSingle (x : Float32) : Prop :=
  (read? (pretty (.single x))).bind Datum.asSingle? = some x

instance (x : Float) : Decidable (RestoresDouble x) :=
  inferInstanceAs (Decidable ((read? (pretty (.real x))).bind Datum.asDouble? = some x))

instance (x : Float32) : Decidable (RestoresSingle x) :=
  inferInstanceAs (Decidable ((read? (pretty (.single x))).bind Datum.asSingle? = some x))

theorem restoresDouble_iff {x : Float} :
    RestoresDouble x ↔ (Datum.real x).reread.asDouble? = some x := by
  unfold RestoresDouble
  rw [read?_pretty, Option.bind_some]

theorem restoresSingle_iff {x : Float32} :
    RestoresSingle x ↔ (Datum.single x).reread.asSingle? = some x := by
  unfold RestoresSingle
  rw [read?_pretty, Option.bind_some]

end Json

/-! ## Records -/

namespace Fields

/-- A table with the fields of a record, in order, gives the record all its members. -/
theorem of?_table {names : List String} (distinct : names.Nodup) (surplus : Bool)
    {members : List (String × Datum)} (named : members.map Prod.fst = names) :
    of? surplus names (.table members) = some ⟨true, members⟩ := by
  subst named
  have hall : members.filter (fun m => (members.map Prod.fst).contains m.1) = members := by
    rw [List.filter_eq_self]
    intro m hm
    rw [List.contains_iff_mem]
    exact List.mem_map_of_mem hm
  unfold of?
  dsimp only
  rw [hall, if_pos distinct]

theorem bind_defaulted {α β : Type} {f : Fields} {name : String} {d : Datum} {default a : α}
    {read : Datum → Option α} {next : α → Option β} (h : f.members.lookup name = some d)
    (hd : read d = some a) : (f.defaulted name default read).bind next = next a := by
  unfold defaulted
  rw [h]
  dsimp only
  rw [hd]
  rfl

end Fields

namespace Datum

@[simp] theorem asWord?_word {α : Type} [Word α] (a : α) : (word a).asWord? α = some a :=
  Word.ofInt?_eq_some_iff.2 rfl

theorem asList?_map {α : Type} {write : α → Datum} {read : Datum → Option α}
    (h : ∀ a, read (write a) = some a) (as : List α) :
    asList? read (.list (as.map write)) = some as := by
  show (as.map write).mapM read = some as
  induction as with
  | nil => rfl
  | cons a as ih => simp [h, ih]

end Datum

@[simp] theorem Archetype.ofDatum?_toDatum (a : Archetype) : ofDatum? a.toDatum = some a := by
  cases a <;> decide

@[simp] theorem Difficulty.ofDatum?_toDatum (d : Difficulty) : ofDatum? d.toDatum = some d := by
  cases d <;> decide

theorem Player.ofDatum?_toDatum (p : Player) : ofDatum? p.toDatum = some p := by
  obtain ⟨name, pronouns, archetype, difficulty, contentMode⟩ := p
  unfold ofDatum? toDatum
  rw [Fields.of?_table]
  · cases pronouns <;>
      simp [Fields.required, Fields.optional, Datum.ofOption, Datum.asText?, Datum.asBool?,
        List.lookup_cons]
  · decide
  · rfl

theorem Player.reread_toDatum (p : Player) : p.toDatum.reread = p.toDatum := by
  obtain ⟨name, pronouns, archetype, difficulty, contentMode⟩ := p
  cases pronouns <;>
    simp [toDatum, Datum.ofOption, Archetype.toDatum, Difficulty.toDatum]

namespace JournalEntry

theorem ofDatum?_toDatum (e : JournalEntry) : ofDatum? e.toDatum = some e := by
  cases e with
  | step n =>
    have ht : tagged? (step n).toDatum = some ("step", .table [("ticks", .word n)]) := rfl
    unfold ofDatum?
    rw [ht]
    simp only [Option.bind_eq_bind, Option.bind_some]
    rw [Fields.of?_table]
    · simp [Fields.required]
    · decide
    · rfl
  | choose s c n =>
    have ht : tagged? (choose s c n).toDatum = some ("choose", .table [
        ("storylet_id", .text s), ("choice_id", .text c), ("ticks_after", .word n)]) := rfl
    unfold ofDatum?
    rw [ht]
    simp only [Option.bind_eq_bind, Option.bind_some]
    rw [Fields.of?_table]
    · simp [Fields.required, Datum.asText?, List.lookup_cons]
    · decide
    · rfl

theorem reread_toDatum (e : JournalEntry) : e.toDatum.reread = e.toDatum := by
  cases e <;> simp (disch := decide) [toDatum, Datum.reread_word]

end JournalEntry

theorem LifeStageThresholds.ofDatum?_toDatum (surplus : Bool) (t : LifeStageThresholds) :
    ofDatum? surplus t.toDatum = some t := by
  unfold ofDatum? toDatum
  rw [Fields.of?_table]
  · simp [Fields.required, List.lookup_cons]
  · decide
  · rfl

theorem LifeStageThresholds.reread_toDatum (t : LifeStageThresholds) :
    t.toDatum.reread = t.toDatum := by
  simp (disch := decide) [toDatum, Datum.reread_word]

namespace Config

/-- The configuration with each rate read back from its text. -/
def reread? (c : Config) : Option Config := do
  let heatDecayPerDay ← (Datum.single c.heatDecayPerDay).reread.asSingle?
  let heatPerIntensity ← (Datum.single c.heatPerIntensity).reread.asSingle?
  let activationChance ← (Datum.real c.activationChance).reread.asDouble?
  let heatActivationBonus ← (Datum.real c.heatActivationBonus).reread.asDouble?
  let heatBias ← (Datum.real c.heatBias).reread.asDouble?
  let minWeightFactor ← (Datum.real c.minWeightFactor).reread.asDouble?
  return { c with
    heatDecayPerDay, heatPerIntensity, activationChance, heatActivationBonus, heatBias,
    minWeightFactor }

theorem ofDatum?_reread_toDatum (surplus : Bool) (c : Config) :
    ofDatum? surplus c.toDatum.reread = c.reread? := by
  have hr : c.toDatum.reread = .table [
    ("ticks_per_day", .word c.ticksPerDay),
    ("days_per_year", .word c.daysPerYear),
    ("starting_age", .word c.startingAge),
    ("life_stages", c.lifeStages.toDatum),
    ("heat_decay_per_day", (Datum.single c.heatDecayPerDay).reread),
    ("heat_per_intensity", (Datum.single c.heatPerIntensity).reread),
    ("activation_chance", (Datum.real c.activationChance).reread),
    ("heat_activation_bonus", (Datum.real c.heatActivationBonus).reread),
    ("heat_bias", (Datum.real c.heatBias).reread),
    ("min_weight_factor", (Datum.real c.minWeightFactor).reread),
    ("history_len", .word c.historyLength),
    ("default_event_hours", .word c.defaultEventHours),
    ("mood_regression_per_day", .word c.moodRegressionPerDay),
    ("energy_recovery_per_day", .word c.energyRecoveryPerDay),
    ("memory_capacity", .word c.memoryCapacity),
    ("snapshot_memory_count", .word c.snapshotMemoryCount)] := by
    simp (disch := decide) only [toDatum, Datum.reread_table, List.map_cons, List.map_nil,
      Datum.reread_word, LifeStageThresholds.reread_toDatum]
  rw [hr]
  unfold ofDatum? reread?
  rw [Fields.of?_table]
  · -- field by field: a word is what it was, a rate is what both sides read
    refine (Fields.bind_defaulted rfl (Datum.asWord?_word _)).trans ?_
    refine (Fields.bind_defaulted rfl (Datum.asWord?_word _)).trans ?_
    refine (Fields.bind_defaulted rfl (Datum.asWord?_word _)).trans ?_
    refine (Fields.bind_defaulted rfl (LifeStageThresholds.ofDatum?_toDatum ..)).trans ?_
    refine Option.bind_congr fun heatDecayPerDay _ => ?_
    refine Option.bind_congr fun heatPerIntensity _ => ?_
    refine Option.bind_congr fun activationChance _ => ?_
    refine Option.bind_congr fun heatActivationBonus _ => ?_
    refine Option.bind_congr fun heatBias _ => ?_
    refine Option.bind_congr fun minWeightFactor _ => ?_
    refine (Fields.bind_defaulted rfl (Datum.asWord?_word _)).trans ?_
    refine (Fields.bind_defaulted rfl (Datum.asWord?_word _)).trans ?_
    refine (Fields.bind_defaulted rfl (Datum.asWord?_word _)).trans ?_
    refine (Fields.bind_defaulted rfl (Datum.asWord?_word _)).trans ?_
    refine (Fields.bind_defaulted rfl (Datum.asWord?_word _)).trans ?_
    refine (Fields.bind_defaulted rfl (Datum.asWord?_word _)).trans ?_
    rfl
  · decide
  · rfl

/-- The text of each rate reads back as the rate. -/
structure Legible (c : Config) : Prop where
  heatDecayPerDay : Json.RestoresSingle c.heatDecayPerDay
  heatPerIntensity : Json.RestoresSingle c.heatPerIntensity
  activationChance : Json.RestoresDouble c.activationChance
  heatActivationBonus : Json.RestoresDouble c.heatActivationBonus
  heatBias : Json.RestoresDouble c.heatBias
  minWeightFactor : Json.RestoresDouble c.minWeightFactor

theorem legible_iff {c : Config} : c.Legible ↔ c.reread? = some c := by
  constructor
  · rintro ⟨h₁, h₂, h₃, h₄, h₅, h₆⟩
    rw [Json.restoresSingle_iff] at h₁ h₂
    rw [Json.restoresDouble_iff] at h₃ h₄ h₅ h₆
    simp [reread?, h₁, h₂, h₃, h₄, h₅, h₆]
  · intro h
    obtain ⟨⟩ := c
    unfold reread? at h
    simp only [Option.bind_eq_bind, Option.bind_eq_some_iff, pure, Option.some.injEq] at h
    obtain ⟨x₁, h₁, x₂, h₂, x₃, h₃, x₄, h₄, x₅, h₅, x₆, h₆, hc⟩ := h
    -- the rates that were read are those of the configuration
    cases hc
    exact ⟨Json.restoresSingle_iff.2 h₁, Json.restoresSingle_iff.2 h₂, Json.restoresDouble_iff.2 h₃,
      Json.restoresDouble_iff.2 h₄, Json.restoresDouble_iff.2 h₅, Json.restoresDouble_iff.2 h₆⟩

theorem legible_standard : Legible {} :=
  ⟨by decide +kernel, by decide +kernel, by decide +kernel, by decide +kernel, by decide +kernel,
    by decide +kernel⟩

end Config

namespace Journal

/-- A journal is read back from its text, with its configuration as that is read back. -/
theorem read?_toText (j : Journal) :
    (Json.read? j.toText).bind ofDatum? = j.config.reread?.map fun c => { j with config := c } := by
  have hr : j.toDatum.reread = .table [
      ("version", .word j.version),
      ("seed", .word j.seed),
      ("player", j.player.toDatum),
      ("config", j.config.toDatum.reread),
      ("entries", .list (j.entries.map JournalEntry.toDatum))] := by
    simp (disch := decide) [toDatum, Datum.reread_word, Player.reread_toDatum,
      JournalEntry.reread_toDatum]
  have hentries := Datum.asList?_map JournalEntry.ofDatum?_toDatum j.entries
  unfold toText
  rw [Json.read?_pretty, Option.bind_some, hr]
  unfold ofDatum?
  rw [Fields.of?_table]
  · cases hc : j.config.reread? <;>
      simp [Fields.required, List.lookup_cons, Player.ofDatum?_toDatum,
        Config.ofDatum?_reread_toDatum, hentries, hc]
  · decide
  · rfl

theorem isEmpty_toText (j : Journal) : j.toText.isEmpty = false := by
  rw [← Bool.not_eq_true, String.isEmpty_iff]
  intro h
  have hchars := congrArg String.toList h
  unfold toText Json.pretty at hchars
  rw [String.toList_ofList] at hchars
  cases hchars

/-- Reading a saved journal: it fails if a rate is not read back or the version is not known. -/
theorem ofText_toText (j : Journal) :
    ofText j.toText =
      match j.config.reread? with
      | none => .error (.journalText .malformed)
      | some c =>
        if j.version = ArgumentFault.knownJournalVersion then .ok { j with config := c }
        else .error (.argument (.journalVersion j.version)) := by
  unfold ofText
  rw [read?_toText, isEmpty_toText]
  cases j.config.reread? <;> rfl

/-- A journal whose rates are all read back is read back as it was saved, if its version is known,
and refused for its version otherwise. So journals with the same text are the same. -/
theorem ofText_toText_of_legible {j : Journal} (legible : j.config.Legible) :
    (j.version = 1 → ofText j.toText = .ok j) ∧
    (j.version ≠ 1 → ofText j.toText = .error (.argument (.journalVersion j.version))) ∧
    ∀ k : Journal, k.config.Legible → k.toText = j.toText → k = j := by
  have hj := Config.legible_iff.1 legible
  have htext := ofText_toText j
  rw [hj] at htext
  refine ⟨fun hv => ?_, fun hv => ?_, fun k hk same => ?_⟩
  · rw [htext]
    exact if_pos hv
  · rw [htext]
    exact if_neg hv
  · have hread := read?_toText j
    rw [← same, read?_toText k, Config.legible_iff.1 hk, hj] at hread
    exact Option.some.inj hread

/-- The greatest words, and names with quotation marks, backslashes and control characters. -/
def oddJournal : Journal where
  version := 1
  seed := 0xFFFFFFFFFFFFFFFF
  player := ⟨"Zoë \"Quote\" \\ \x00\x1f", some "they\n/them", .dreamer, .relaxed, true⟩
  config := {}
  entries := [.step 0xFFFFFFFFFFFFFFFF, .choose "a\"b\\" "\t" 2]

theorem ofText_toText_of_legible_oddJournal :
    let future : Journal := { oddJournal with version := 99 }
    ofText oddJournal.toText = .ok oddJournal ∧
    ofText future.toText = .error (.argument (.journalVersion 99)) ∧
    future.toText ≠ oddJournal.toText := by
  intro future
  obtain ⟨hsame, -, hdistinct⟩ := @ofText_toText_of_legible oddJournal Config.legible_standard
  obtain ⟨-, hfuture, -⟩ := @ofText_toText_of_legible future Config.legible_standard
  refine ⟨hsame rfl, hfuture (by decide), fun htext => ?_⟩
  have hversion := congrArg Journal.version (hdistinct future Config.legible_standard htext)
  revert hversion
  decide

end Journal

end LifeStory
