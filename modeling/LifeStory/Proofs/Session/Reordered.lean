import LifeStory.Session.Snapshot
import LifeStory.Proofs.Catalog.Canonical
import LifeStory.Proofs.Session.Respected

/-!
# Lives on reordered content

A session reads its catalog through the storylets in their order, the storylet with an id and the
name of a character. Where two catalogs agree in these, as those of the same content in two orders
do, a life goes the same way on both: the session on the one is the session on the other with the
catalog exchanged, after every call and after every replay.

    Alike c c' → Respected (onCatalog c') (fun s => s.catalog = c)          (respected_onCatalog)
    Alike c c' → SameLives c c'                                               (sameLives_of_alike)

With the rules of content (`Catalog.Lawful`) and the form of a catalog (`Catalog.Canonical`) this is
all that the order of content may do: nothing (`build_canonical`).
-/

namespace LifeStory

open Catalog (Alike)
open LifeStory.Random (Stream)

namespace Director

/-- A pass looks at the storylets alone. -/
theorem pass_congr {c c' : Catalog} (h : c'.storylets = c.storylets) (d : Director)
    (situation : Situation) (config : Config) (stream : Stream) :
    d.pass c' situation config stream = d.pass c situation config stream := by
  have heligible : d.eligible c' situation = d.eligible c situation := by
    unfold eligible
    rw [h]
  unfold pass
  rw [heligible]

end Director

namespace Session

/-! ## Operations -/

/-- The session on another catalog. -/
def onCatalog (c : Catalog) (s : Session) : Session := { s with catalog := c }

section Operations

variable {s : Session} {c : Catalog} (h : Alike s.catalog c)

include h

theorem onCatalog_pass (lapsed : Option StoryletId) :
    (s.onCatalog c).pass lapsed = (s.pass lapsed).onCatalog c :=
  pass_congr (s.director.pass_congr h.storylets (s.situation lapsed) s.config s.stream)

omit h in
theorem onCatalog_spendDays (s : Session) (days : UInt64) :
    (s.onCatalog c).spendDays days = (s.spendDays days).onCatalog c := by
  unfold spendDays
  split <;> rfl

theorem onCatalog_expire : (s.onCatalog c).expire = (s.expire.1.onCatalog c, s.expire.2) := by
  have hget : ∀ e, s.director.active = some e → c.get? e.storylet = s.catalog.get? e.storylet :=
    fun e _ => h.get? e.storylet
  exact expire_congr (s.director.expire_congr hget s.world.memories s.clock.tick)

theorem onCatalog_advance (ticks : UInt64) :
    (s.onCatalog c).advance ticks = ((s.advance ticks).1, (s.advance ticks).2.onCatalog c) := by
  apply advance_of_parts
  case clock => exact fun _ => rfl
  case setClock => exact fun _ => rfl
  case spendDays => exact onCatalog_spendDays
  case expire =>
    intro clock days
    apply onCatalog_expire
    rw [spendDays_eq]
    exact h
  case pass =>
    intro lapsed
    apply onCatalog_pass
    rw [catalog_elapse]
    exact h

theorem onCatalog_resolve (storylet : StoryletId) (choice : ChoiceId) :
    (s.onCatalog c).resolve storylet choice =
      (s.resolve storylet choice).map (onCatalog c) := by
  have hresolve := s.director.resolve_congr (fun e _ => h.get? e.storylet) h.npcName? storylet
    choice s.config s.player.difficulty s.clock.tick s.world s.stream
  unfold resolve
  show (s.director.resolve c storylet choice s.config s.player.difficulty s.clock.tick s.world
    s.stream).map _ = _
  rw [hresolve]
  cases s.director.resolve s.catalog storylet choice s.config s.player.difficulty s.clock.tick
    s.world s.stream <;> rfl

/-- What is shown looks up the open storylet, and it is the same. -/
theorem currentEvent_onCatalog : (s.onCatalog c).currentEvent = s.currentEvent := by
  unfold currentEvent EventView.of?
  show (s.director.active.bind fun e => (c.get? e.storylet).map _) = _
  cases ha : s.director.active with
  | none => rfl
  | some e =>
    show (c.get? e.storylet).map _ = (s.catalog.get? e.storylet).map _
    rw [h.get?]

end Operations

theorem respected_onCatalog {c c' : Catalog} (h : Alike c c') :
    Respected (onCatalog c') fun s => s.catalog = c where
  director _ := rfl
  beginOperation hs := ⟨hs, rfl⟩
  resolve hs storylet choice := by
    refine ⟨fun t ht => ?_, onCatalog_resolve (hs ▸ h) storylet choice⟩
    rw [(resolve_frame ht).1, hs]
  advance hs ticks := by
    refine ⟨?_, onCatalog_advance (hs ▸ h) ticks⟩
    rw [catalog_advance, hs]
  record hs _ := ⟨hs, rfl⟩

/-! ## Lives -/

/-- Whatever is played on the one catalog goes the same way on the other. -/
structure SameLives (c c' : Catalog) : Prop where
  start : ∀ seed player config,
    start seed player c' config = (start seed player c config).map (onCatalog c')
  /-- A call has the same answer and leads to the same session. -/
  call : ∀ s : Session, s.catalog = c → ∀ k,
    (s.onCatalog c').call k = ((s.call k).1, (s.call k).2.onCatalog c')
  run : ∀ s : Session, s.catalog = c → ∀ calls,
    (s.onCatalog c').run calls = (s.run calls).onCatalog c'
  replay : ∀ j, replay j c' = (replay j c).map (onCatalog c')
  snapshot : ∀ s : Session, s.catalog = c → (s.onCatalog c').snapshot = s.snapshot
  fullSnapshot : ∀ s : Session, s.catalog = c → (s.onCatalog c').fullSnapshot = s.fullSnapshot

theorem start_onCatalog {c c' : Catalog} (h : Alike c c') (seed : UInt64) (player : Player)
    (config : Config) :
    start seed player c' config = (start seed player c config).map (onCatalog c') := by
  have hpass : (fresh seed player c' config).pass none =
      ((fresh seed player c config).pass none).onCatalog c' :=
    onCatalog_pass (s := fresh seed player c config) h none
  rw [start_eq, start_eq, hpass]
  cases config.fault? with
  | some fault => rfl
  | none =>
    cases player.fault? with
    | some fault => rfl
    | none =>
      dsimp only
      split <;> rfl

theorem replay_onCatalog {c c' : Catalog} (h : Alike c c') (j : Journal) :
    replay j c' = (replay j c).map (onCatalog c') := by
  unfold replay
  rw [start_onCatalog h]
  dsimp only [bind, Except.bind]
  cases hstart : start j.seed j.player c j.config with
  | error fault => rfl
  | ok s =>
    obtain ⟨-, -, -, rfl⟩ := start_eq_ok_iff.1 hstart
    exact (respected_onCatalog h).performAll (continues_pass ..).catalog j.entries

theorem sameLives_of_alike {c c' : Catalog} (h : Alike c c') : SameLives c c' := by
  have hrespected := respected_onCatalog h
  constructor
  case start => exact start_onCatalog h
  case call =>
    intro s hs k
    exact (hrespected.call hs k).2
  case run =>
    intro s hs calls
    exact (hrespected.run hs calls).2
  case replay => exact replay_onCatalog h
  case snapshot =>
    intro s hs
    unfold Session.snapshot
    rw [currentEvent_onCatalog (hs ▸ h)]
    rfl
  case fullSnapshot =>
    intro s hs
    unfold Session.fullSnapshot
    rw [currentEvent_onCatalog (hs ▸ h)]
    rfl

/-- Content makes a catalog exactly if it breaks no rule. The catalog has the content in the order of
the ids and finds each item by its id. So content in another order is accepted or refused alike, and
every life goes the same way on the catalog that it makes. -/
theorem build_canonical (storylets : List Storylet) (npcs : List Npc) :
    ((∃ c, Catalog.build storylets npcs = .ok c) ↔ Catalog.Lawful storylets npcs) ∧
    (∀ c, Catalog.build storylets npcs = .ok c → Catalog.Canonical storylets npcs c) ∧
    ∀ storylets' npcs', storylets'.Perm storylets → npcs'.Perm npcs →
      ((∃ c', Catalog.build storylets' npcs' = .ok c') ↔
        ∃ c, Catalog.build storylets npcs = .ok c) ∧
      ∀ c c', Catalog.build storylets npcs = .ok c → Catalog.build storylets' npcs' = .ok c' →
        Alike c c' ∧ SameLives c c' := by
  have haccepted : ∀ ss ns, (∃ c, Catalog.build ss ns = .ok c) ↔ Catalog.Lawful ss ns := by
    intro ss ns
    simp only [Catalog.build_eq_ok_iff]
    constructor
    · rintro ⟨c, hlawful, -⟩
      exact hlawful
    · intro hlawful
      exact ⟨_, hlawful, rfl⟩
  refine ⟨haccepted storylets npcs, fun c => Catalog.canonical_of_build, ?_⟩
  intro storylets' npcs' hs hn
  constructor
  · rw [haccepted, haccepted]
    constructor
    · intro hlawful
      exact hlawful.of_perm hs.symm hn.symm
    · intro hlawful
      exact hlawful.of_perm hs hn
  · intro c c' hc hc'
    have halike : Alike c c' :=
      (Catalog.canonical_of_build hc).alike (Catalog.canonical_of_build hc') hs hn
    exact ⟨halike, sameLives_of_alike halike⟩

def lemonade : Storylet where
  id := "lemonade"
  title := "Lemonade"
  choices := [{ id := "sell", label := "Sell it" }]

def mira : Npc := ⟨"mira", "Mira"⟩

def theo : Npc := ⟨"theo", "Theo"⟩

/-- The same content in two orders: only the list of the characters keeps its order, and no life
shows it. -/
theorem build_canonical_lemonade :
    ∃ c c', Catalog.build [scrapedKnee, lemonade] [mira, theo] = .ok c ∧
      Catalog.build [lemonade, scrapedKnee] [theo, mira] = .ok c' ∧
      Catalog.Lawful [scrapedKnee, lemonade] [mira, theo] ∧
      c.npcs ≠ c'.npcs ∧ Alike c c' ∧
      c.storylets = [lemonade, scrapedKnee] ∧ c.get? "scraped_knee" = some scrapedKnee ∧
      c.get? "chores" = none ∧ c'.npcName? "mira" = some "Mira" ∧ c'.npcName? "ada" = none ∧
      start 42 kneePlayer c' kneeConfig = (start 42 kneePlayer c kneeConfig).map (onCatalog c') := by
  obtain ⟨hlawful, -, hperm⟩ := build_canonical [scrapedKnee, lemonade] [mira, theo]
  obtain ⟨-, halike⟩ := hperm [lemonade, scrapedKnee] [theo, mira] (.swap ..) (.swap ..)
  obtain ⟨hsame, hlives⟩ := halike _ _ rfl rfl
  exact ⟨_, _, rfl, rfl, hlawful.1 ⟨_, rfl⟩, by decide, hsame, rfl, rfl, rfl, rfl, rfl,
    hlives.start 42 kneePlayer kneeConfig⟩

end Session

end LifeStory
