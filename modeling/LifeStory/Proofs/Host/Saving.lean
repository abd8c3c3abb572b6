import LifeStory.Host.Engine
import LifeStory.Proofs.Session.JournalText
import LifeStory.Proofs.Session.Replay

/-!
# Saving and loading

A session is saved as the text of its journal, and a saved session is loaded by playing the journal
that the text is read as. Everything in a journal is read back as it was, but the rates of its
configuration only if their texts are (`Config.Legible`): then, and only then, the session that is
loaded is the one that was saved.

    e'.load (.ok text) = (.ok s.snapshot, { e' with session := some s }) ↔ s.config.Legible
                                                                                  (load_save_iff)
-/

namespace LifeStory

/-! ## Saved sessions -/

namespace Engine

theorem install_eq_iff {e : Engine} {made : Except Failure Session} {s : Session} :
    e.install made = (.ok s.snapshot, { e with session := some s }) ↔ made = .ok s := by
  constructor
  · intro h
    cases made with
    | error failure => cases h
    | ok t =>
      have hsession := congrArg (fun after => after.2.session) h
      cases hsession
      rfl
  · rintro rfl
    rfl

/-- Loading what was saved plays the journal with the rates that are read. -/
theorem load_toText (e : Engine) (s : Session) :
    e.load (.ok s.journal.toText) = e.install
      (match s.config.reread? with
        | none => .error (.refused (.journalText .malformed))
        | some c => Session.replay { s.journal with config := c } e.catalog) := by
  have hconfig : s.journal.config = s.config := rfl
  have htext := Journal.ofText_toText s.journal
  rw [hconfig] at htext
  unfold load
  dsimp only [Except.mapError, bind, Except.bind]
  cases hc : s.config.reread? with
  | none =>
    rw [hc] at htext
    rw [htext]
  | some c =>
    rw [hc] at htext
    rw [htext]
    rfl

theorem save_of_held {e : Engine} {s : Session} (held : e.session = some s) :
    e.save = .ok s.journal.toText := by
  unfold save read
  rw [held]

/-- What is saved of a session is loaded, on any engine with its catalog, as a session that was
played with the rates that their texts are read as; and this is the session itself, in every field,
if and only if each rate is read back as it was. -/
theorem load_save_iff {e e' : Engine} {s : Session} (held : e.session = some s)
    (reachable : s.Reachable) (same : e'.catalog = s.catalog) :
    ∃ text, e.save = .ok text ∧
      e'.load (.ok text) = e'.install
        (match s.config.reread? with
          | none => .error (.refused (.journalText .malformed))
          | some c => Session.replay { s.journal with config := c } s.catalog) ∧
      (e'.load (.ok text) = (.ok s.snapshot, { e' with session := some s }) ↔
        s.config.Legible) := by
  have hload := load_toText e' s
  rw [same] at hload
  refine ⟨s.journal.toText, save_of_held held, hload, ?_⟩
  rw [hload, install_eq_iff, Config.legible_iff]
  cases hc : s.config.reread? with
  | none =>
    constructor <;> intro h <;> cases h
  | some c =>
    show Session.replay { s.journal with config := c } s.catalog = .ok s ↔ _
    constructor
    · intro h
      rw [Session.config_replay h]
    · intro h
      cases h
      exact reachable.replay_journal

end Engine

namespace Session

theorem load_save_iff_kneeGame :
    let e : Engine := ⟨kneeCatalog, kneeConfig, some (kneeGame.run kneeCalls)⟩
    let fresh := Engine.create kneeCatalog {}
    ∃ text, e.save = .ok text ∧
      fresh.load (.ok text) =
        (.ok (kneeGame.run kneeCalls).snapshot,
          { fresh with session := some (kneeGame.run kneeCalls) }) := by
  intro e fresh
  have hc := (continues_pass (Session.fresh 42 kneePlayer kneeCatalog kneeConfig) none).trans
    (continues_run kneeGame kneeCalls)
  have legible : (kneeGame.run kneeCalls).config.Legible := by
    rw [hc.config]
    obtain ⟨h₁, h₂, -, h₄, h₅, h₆⟩ := Config.legible_standard
    exact ⟨h₁, h₂, by decide +kernel, h₄, h₅, h₆⟩
  obtain ⟨text, hsave, -, hload⟩ := @Engine.load_save_iff e fresh _ rfl
    (reachable_kneeGame.run kneeCalls) hc.catalog.symm
  exact ⟨text, hsave, hload.2 legible⟩

/-! A game whose rate is not read back. -/

/-- A pass opens an event with a chance of one in eleven. -/
def rareConfig : Config := { activationChance := 0.09090909090909091 }

/-- The configuration that `rareConfig` is read back as. -/
def rareConfigReread : Config := { activationChance := 0.09090909090909093 }

def rareGame : Session := (fresh 5 kneePlayer kneeCatalog rareConfig).pass none

/-- The game that is loaded for `rareGame`. -/
def rareGameReread : Session := (fresh 5 kneePlayer kneeCatalog rareConfigReread).pass none

theorem start_rareGame : start 5 kneePlayer kneeCatalog rareConfig = .ok rareGame := rfl

theorem start_rareGameReread :
    start 5 kneePlayer kneeCatalog rareConfigReread = .ok rareGameReread := rfl

theorem reread?_rareConfig : rareConfig.reread? = some rareConfigReread := by
  have hrare : (Json.read? (Json.pretty (.real 0.09090909090909091))).bind Datum.asDouble? =
      some 0.09090909090909093 := by decide +kernel
  obtain ⟨h₁, h₂, -, h₄, h₅, h₆⟩ := Config.legible_standard
  rw [Json.restoresSingle_iff] at h₁ h₂
  rw [Json.restoresDouble_iff] at h₄ h₅ h₆
  rw [Json.read?_pretty, Option.bind_some] at hrare
  simp only [Config.reread?, rareConfig, h₁, h₂, h₄, h₅, h₆, hrare]
  rfl

/-- The rate is read as one a unit in the last place greater, and the game that is loaded has it. -/
theorem load_save_rareGame :
    let e : Engine := ⟨kneeCatalog, rareConfig, some rareGame⟩
    ∃ text t, rareConfig.Valid ∧
      start 5 kneePlayer kneeCatalog rareConfig = .ok rareGame ∧
      e.save = .ok text ∧
      e.load (.ok text) = (.ok t.snapshot, { e with session := some t }) ∧
      t.config.activationChance ≠ rareGame.config.activationChance := by
  have hconfig : rareGame.config = rareConfig :=
    (continues_pass (fresh 5 kneePlayer kneeCatalog rareConfig) none).config
  have hreread : rareGameReread.config = rareConfigReread :=
    (continues_pass (fresh 5 kneePlayer kneeCatalog rareConfigReread) none).config
  have hplay : replay ⟨1, 5, kneePlayer, rareConfigReread, []⟩ kneeCatalog =
      .ok rareGameReread := by
    unfold replay
    dsimp only
    rw [start_rareGameReread]
    rfl
  obtain ⟨valid, -⟩ := start_eq_ok_iff.1 start_rareGame
  refine ⟨rareGame.journal.toText, rareGameReread, valid, start_rareGame,
    Engine.save_of_held rfl, ?_, ?_⟩
  · rw [Engine.load_toText, hconfig, reread?_rareConfig, journal_of_start start_rareGame]
    exact Engine.install_eq_iff.2 hplay
  · rw [hconfig, hreread]
    decide +kernel

end Session

end LifeStory
