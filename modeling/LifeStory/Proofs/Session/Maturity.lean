import LifeStory.Session.Snapshot
import LifeStory.Proofs.Session.Respected

/-!
# Lives without mature storylets

A player who does not allow mature storylets lives as if the catalog had none: they are not
eligible, so they are not weighed and nothing is drawn for them, and since none of them ever opens
the rest of the game looks up the same storylets in both catalogs.

    c.Accepted → c.withoutMature.Accepted                          (Accepted.withoutMature)
    e.FitsIn c.withoutMature →
      c.withoutMature.get? e.storylet = c.get? e.storylet          (get?_withoutMature)
    situation.contentMode = false →
      d.eligible c.withoutMature { situation with contentMode := mode } =
        d.eligible c situation                                     (eligible_withoutMature)
    Respected (withoutMature mode) (Sheltered mode)                (respected_withoutMature)
-/

namespace LifeStory

open LifeStory.Random (Stream)

/-! ## Catalogs -/

namespace Catalog

/-- The catalog without its mature storylets. -/
def withoutMature (c : Catalog) : Catalog :=
  .of (c.storylets.filter fun s => !s.mature) c.npcs
    ((List.filter_sublist.map Storylet.id).nodup c.nodup_ids)

namespace Accepted

variable {c : Catalog}

/-- Some storylets of an accepted catalog, in its order, make an accepted catalog. -/
theorem of_sublist (h : c.Accepted) {l : List Storylet} (hl : l.Sublist c.storylets) :
    Accepted (.of l c.npcs ((hl.map Storylet.id).nodup c.nodup_ids)) := by
  have hlawful : Lawful l c.npcs :=
    { h.lawful with
      storylet := fun s hs => h.lawful.storylet s (hl.mem hs)
      nodup_storylets := (hl.map Storylet.id).nodup c.nodup_ids }
  have hsorted : sortBy (fun s t : Storylet => s.id ≤ t.id) l = l := by
    apply sortBy_of_pairwise
    simpa using h.pairwise_ids.sublist hl
  refine ⟨l, c.npcs, build_eq_ok_iff.2 ⟨hlawful, ?_⟩⟩
  simp only [hsorted]

theorem withoutMature (h : c.Accepted) : c.withoutMature.Accepted :=
  h.of_sublist List.filter_sublist

end Accepted

/-- The storylet of an event that could open without mature storylets is found in both catalogs. -/
theorem get?_withoutMature {c : Catalog} {e : ActiveEvent} (he : e.FitsIn c.withoutMature) :
    c.withoutMature.get? e.storylet = c.get? e.storylet := by
  obtain ⟨t, ht, hid, -⟩ := he
  rw [hid, get?_of_mem ht, get?_of_mem (List.mem_of_mem_filter ht)]

end Catalog

/-! ## The director -/

namespace Director

variable (d : Director) (c : Catalog) {situation : Situation} (mode : Bool)

theorem candidate?_of_mature (h : situation.contentMode = false) {t : Storylet}
    (ht : t.mature = true) : d.candidate? situation t = none := by
  have hadmits : d.admits t situation = false := by
    unfold admits
    rw [ht, h]
    rfl
  unfold candidate?
  rw [hadmits]
  rfl

theorem candidate?_of_not_mature {t : Storylet} (ht : t.mature = false) :
    d.candidate? { situation with contentMode := mode } t = d.candidate? situation t := by
  have hadmits : d.admits t { situation with contentMode := mode } = d.admits t situation := by
    unfold admits
    rw [ht]
    rfl
  unfold candidate?
  rw [hadmits]
  rfl

/-- Where mature storylets are not allowed, the catalog may as well have none. -/
theorem eligible_withoutMature (h : situation.contentMode = false) :
    d.eligible c.withoutMature { situation with contentMode := mode } =
      d.eligible c situation := by
  unfold eligible Catalog.withoutMature
  rw [Catalog.storylets_of]
  induction c.storylets with
  | nil => rfl
  | cons t rest ih =>
    cases ht : t.mature with
    | true =>
      rw [List.filter_cons_of_neg (by simp [ht]),
        List.filterMap_cons_none (d.candidate?_of_mature h ht), ih]
    | false =>
      rw [List.filter_cons_of_pos (by simp [ht]), List.filterMap_cons, List.filterMap_cons,
        d.candidate?_of_not_mature mode ht, ih]

theorem pass_withoutMature (h : situation.contentMode = false) (config : Config)
    (stream : Stream) :
    d.pass c.withoutMature { situation with contentMode := mode } config stream =
      d.pass c situation config stream := by
  unfold pass
  rw [eligible_withoutMature d c mode h]

end Director

namespace Session

/-! ## Operations -/

/-- The session on the catalog without mature storylets, whatever the player allows. -/
def withoutMature (mode : Bool) (s : Session) : Session :=
  { s with
    catalog := s.catalog.withoutMature
    player := { s.player with contentMode := mode } }

/-- The player allows no mature storylets, and the active event is not one of them. -/
structure Sheltered (mode : Bool) (s : Session) : Prop where
  contentMode : s.player.contentMode = false
  activeFits : (s.withoutMature mode).ActiveFits

variable {mode : Bool} {s : Session}

namespace Sheltered

theorem get? (h : s.Sheltered mode) {e : ActiveEvent} (he : s.director.active = some e) :
    s.catalog.withoutMature.get? e.storylet = s.catalog.get? e.storylet :=
  Catalog.get?_withoutMature (h.activeFits e he)

end Sheltered

theorem withoutMature_pass (h : s.player.contentMode = false) (lapsed : Option StoryletId) :
    (s.withoutMature mode).pass lapsed = (s.pass lapsed).withoutMature mode := by
  have hsituation : (s.situation lapsed).contentMode = false := h
  exact pass_congr (s.director.pass_withoutMature s.catalog mode hsituation s.config s.stream)

theorem withoutMature_spendDays (s : Session) (days : UInt64) :
    (s.withoutMature mode).spendDays days = (s.spendDays days).withoutMature mode := by
  unfold spendDays
  split <;> rfl

namespace Sheltered

theorem withoutMature_expire (h : s.Sheltered mode) :
    (s.withoutMature mode).expire = (s.expire.1.withoutMature mode, s.expire.2) :=
  expire_congr (s.director.expire_congr (fun _ => h.get?) s.world.memories s.clock.tick)

theorem withoutMature_advance (h : s.Sheltered mode) (ticks : UInt64) :
    (s.withoutMature mode).advance ticks =
      ((s.advance ticks).1, (s.advance ticks).2.withoutMature mode) := by
  apply advance_of_parts
  case clock => exact fun _ => rfl
  case setClock => exact fun _ => rfl
  case spendDays => exact withoutMature_spendDays
  case expire =>
    intro clock days
    apply Sheltered.withoutMature_expire
    rw [spendDays_eq]
    exact ⟨h.contentMode, h.activeFits⟩
  case pass =>
    intro lapsed
    apply withoutMature_pass
    rw [player_elapse]
    exact h.contentMode

theorem withoutMature_resolve (h : s.Sheltered mode) (storylet : StoryletId) (choice : ChoiceId) :
    (s.withoutMature mode).resolve storylet choice =
      (s.resolve storylet choice).map (withoutMature mode) := by
  have hresolve := s.director.resolve_congr (fun _ => h.get?) (fun _ => rfl) storylet choice s.config
    s.player.difficulty s.clock.tick s.world s.stream
  unfold Session.resolve
  show (s.director.resolve s.catalog.withoutMature storylet choice s.config s.player.difficulty
    s.clock.tick s.world s.stream).map _ = _
  rw [hresolve]
  cases s.director.resolve s.catalog storylet choice s.config s.player.difficulty s.clock.tick
    s.world s.stream <;> rfl

theorem of_resolve {t : Session} {storylet : StoryletId} {choice : ChoiceId}
    (h : s.Sheltered mode) (ht : s.resolve storylet choice = .ok t) : t.Sheltered mode := by
  obtain ⟨-, hplayer, hidle⟩ := resolve_frame ht
  refine ⟨?_, fun e he => ?_⟩
  · rw [hplayer]
    exact h.contentMode
  · change t.director.active = some e at he
    rw [hidle] at he
    cases he

theorem advance (h : s.Sheltered mode) (ticks : UInt64) :
    (s.advance ticks).2.Sheltered mode := by
  have helapse : (s.elapse ticks).Sheltered mode := by
    refine ⟨?_, fun e he => ?_⟩
    · rw [player_elapse]
      exact h.contentMode
    · show e.FitsIn (s.elapse ticks).catalog.withoutMature
      rw [catalog_elapse]
      exact h.activeFits e (active_elapse (s := s) he)
  rw [advance_eq]
  unfold look
  split
  · refine ⟨?_, ?_⟩
    · rw [(continues_pass _ _).player]
      exact helapse.contentMode
    · rw [← withoutMature_pass helapse.contentMode]
      exact helapse.activeFits.pass _
  · exact helapse

end Sheltered

theorem respected_withoutMature (mode : Bool) :
    Respected (withoutMature mode) (Sheltered mode) where
  director _ := rfl
  beginOperation h := ⟨⟨h.contentMode, h.activeFits⟩, rfl⟩
  resolve h storylet choice := ⟨fun _ => h.of_resolve, h.withoutMature_resolve storylet choice⟩
  advance h ticks := ⟨h.advance ticks, h.withoutMature_advance ticks⟩
  record h _ := ⟨⟨h.contentMode, h.activeFits⟩, rfl⟩

/-! ## Lives -/

/-- Two sessions agree in all that is played. -/
structure SamePlay (s t : Session) : Prop where
  clock : t.clock = s.clock
  /-- Attributes, relationships, karma and heat with its trend, and memories. -/
  world : t.world = s.world
  /-- The active event and the history. -/
  director : t.director = s.director
  stream : t.stream = s.stream
  log : t.log = s.log

/-- What a call answers: the session as it is then shown, or a fault. -/
def answer (s : Session) (c : Call) : Except Failure Snapshot :=
  (s.call c).1.map fun _ => (s.call c).2.snapshot

theorem Sheltered.snapshot (h : s.Sheltered mode) :
    (s.withoutMature mode).snapshot = s.snapshot := by
  have hevent : (s.withoutMature mode).currentEvent = s.currentEvent := by
    unfold currentEvent EventView.of?
    show (s.director.active.bind fun e => (s.catalog.withoutMature.get? e.storylet).map _) = _
    cases ha : s.director.active with
    | none => rfl
    | some e =>
      show (s.catalog.withoutMature.get? e.storylet).map _ = (s.catalog.get? e.storylet).map _
      rw [h.get? ha]
  unfold Session.snapshot
  rw [hevent]
  rfl

theorem withoutMature_start (seed : UInt64) {player : Player} (catalog : Catalog)
    (config : Config) (h : player.contentMode = false) (mode : Bool) :
    start seed { player with contentMode := mode } catalog.withoutMature config =
      (start seed player catalog config).map (withoutMature mode) := by
  have hpass : (fresh seed { player with contentMode := mode } catalog.withoutMature
      config).pass none = ((fresh seed player catalog config).pass none).withoutMature mode :=
    withoutMature_pass (s := fresh seed player catalog config) h none
  have hfault : ({ player with contentMode := mode } : Player).fault? = player.fault? := rfl
  rw [start_eq, start_eq, hfault, hpass]
  cases config.fault? with
  | some fault => rfl
  | none =>
    cases player.fault? with
    | some fault => rfl
    | none =>
      dsimp only
      split <;> rfl

theorem sheltered_of_start {seed : UInt64} {player : Player} {catalog : Catalog} {config : Config}
    (unallowed : player.contentMode = false)
    (started : start seed player catalog config = .ok s) : s.Sheltered mode := by
  obtain ⟨-, -, -, rfl⟩ := start_eq_ok_iff.1 started
  refine ⟨?_, ?_⟩
  · rw [(continues_pass _ _).player]
    exact unallowed
  · rw [← withoutMature_pass (s := fresh seed player catalog config) unallowed]
    apply ActiveFits.pass
    intro e he
    cases he

/-- A player who does not allow mature storylets lives as if the catalog had none, whatever is then
allowed: the game starts with the same answer, every call is answered alike and shows the same, and
after every call the two sessions agree in all that is played. -/
theorem run_withoutMature {seed : UInt64} {player : Player} {catalog : Catalog} {config : Config}
    (accepted : catalog.Accepted) (unallowed : player.contentMode = false) (mode : Bool) :
    catalog.withoutMature.Accepted ∧
    (∀ failure, start seed player catalog config = .error failure →
      start seed { player with contentMode := mode } catalog.withoutMature config =
        .error failure) ∧
    ∀ s, start seed player catalog config = .ok s →
      ∃ s', start seed { player with contentMode := mode } catalog.withoutMature config = .ok s' ∧
        s'.snapshot = s.snapshot ∧
        ∀ calls, SamePlay (s.run calls) (s'.run calls) ∧
          ∀ c, (s'.run calls).answer c = (s.run calls).answer c := by
  have hstart := withoutMature_start seed catalog config unallowed mode
  refine ⟨accepted.withoutMature, ?_, ?_⟩
  · intro failure h
    rw [hstart, h]
    rfl
  · intro s h
    rw [h] at hstart
    have hsheltered : s.Sheltered mode := sheltered_of_start unallowed h
    refine ⟨s.withoutMature mode, hstart, hsheltered.snapshot, fun calls => ?_⟩
    obtain ⟨hran, hrun⟩ := (respected_withoutMature mode).run hsheltered calls
    rw [hrun]
    refine ⟨⟨rfl, rfl, rfl, rfl, rfl⟩, fun c => ?_⟩
    obtain ⟨hcalled, hcall⟩ := (respected_withoutMature mode).call hran c
    unfold answer
    rw [hcall, hcalled.snapshot]

/-- A mature storylet that would be opened as often as the scraped knee. -/
def lateNight : Storylet where
  id := "late_night"
  title := "Late Night"
  mature := true
  choices := [{ id := "stay", label := "Stay out" }]

def nightCatalog : Catalog := .of [lateNight, scrapedKnee] [⟨"mira", "Mira"⟩] (by decide)

/-- The knee game, with a mature storylet that the player does not allow, goes as the one without it
where the player would. -/
theorem run_withoutMature_nightCatalog :
    ∃ s s', start 42 kneePlayer nightCatalog kneeConfig = .ok s ∧
      start 42 { kneePlayer with contentMode := true } kneeCatalog kneeConfig = .ok s' ∧
      s'.snapshot = s.snapshot ∧ SamePlay (s.run kneeCalls) (s'.run kneeCalls) ∧
      (s'.run kneeCalls).answer (.step 24) = (s.run kneeCalls).answer (.step 24) := by
  have accepted : nightCatalog.Accepted := ⟨[lateNight, scrapedKnee], [⟨"mira", "Mira"⟩], rfl⟩
  obtain ⟨-, -, hok⟩ := @run_withoutMature 42 kneePlayer nightCatalog kneeConfig accepted rfl true
  obtain ⟨s', hstart, hshown, hrun⟩ := hok _ rfl
  obtain ⟨hsame, hanswer⟩ := hrun kneeCalls
  exact ⟨_, s', rfl, hstart, hshown, hsame, hanswer (.step 24)⟩

end Session

end LifeStory
