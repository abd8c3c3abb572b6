import LifeStory.Proofs.Session.Run

/-!
# What a pass does to a session

A pass ends in exactly one of four ways, and the session that it leaves behind says in which: the
gates of storylets and choices hold in that session itself, although they were looked at in the
middle of an operation.

    s.Eligible lapsed t ↔
      ∃ c ∈ s.director.eligible s.catalog (s.situation lapsed), c.storylet = t    (eligible_iff)
    (s.pass lapsed).Eligible lapsed t ↔ s.Eligible lapsed t                       (eligible_pass)
    ∃ r, (s.pass lapsed).Passed before lapsed s.stream r                          (exists_passed)
    s.Passed before lapsed stream q → s.Passed before lapsed stream r → q = r     (Passed.unique)
-/

namespace LifeStory

open LifeStory.Random (Stream)

/-- How a pass ends. -/
inductive PassEnd where
  /-- The event that was open stays open. -/
  | kept
  /-- Nothing is eligible. -/
  | barren
  /-- Something is eligible but does not open. -/
  | declined
  | opened
deriving DecidableEq, Repr

/-- The number of draws of a pass. -/
def PassEnd.draws : PassEnd → Nat
  | kept => 0
  | barren => 0
  | declined => 1
  | opened => 2

/-! ## Gates -/

namespace Director

variable {d : Director} {t : Storylet} {situation : Situation}

theorem onCooldown_eq_false_iff {now : Tick} {ticksPerDay : UInt64} :
    d.onCooldown t now ticksPerDay = false ↔
      ∀ r, d.history.lastResolvedAt? t.id = some r →
        Word.satAdd r (Word.satMul t.cooldownDays.toUInt64 ticksPerDay) ≤ now := by
  unfold onCooldown
  cases d.history.lastResolvedAt? t.id with
  | none => simp
  | some r => simp

theorem admits_iff :
    d.admits t situation = true ↔
      (t.mature = true → situation.contentMode = true) ∧
      (t.once = true → d.history.wasResolved t.id = false) ∧
      t.id ∉ d.history.recent ∧
      situation.lapsed ≠ some t.id ∧
      (∀ r, d.history.lastResolvedAt? t.id = some r →
        Word.satAdd r (Word.satMul t.cooldownDays.toUInt64 situation.ticksPerDay) ≤
          situation.now) ∧
      ∀ g ∈ t.conditions, g.holds (situation.standing d.history) = true := by
  have hor : ∀ a b : Bool, (!a || b) = true ↔ (a = true → b = true) := by decide
  have hnand : ∀ a b : Bool, (!(a && b)) = true ↔ (a = true → b = false) := by decide
  have hrecent : (!d.history.isRecent t.id) = true ↔ t.id ∉ d.history.recent := by
    unfold StoryHistory.isRecent StoryHistory.recent
    simp
  rw [← onCooldown_eq_false_iff]
  unfold admits Condition.allHold
  simp only [Bool.and_eq_true, hor, hnand, hrecent, bne_iff_ne, Bool.not_eq_true',
    List.all_eq_true, and_assoc]

end Director

namespace Session

/-- What conditions see in the session. -/
def standing (s : Session) : Standing where
  stats := s.world.stats
  relationships := s.world.relationships
  history := s.director.history
  age := s.clock.age
  stage := s.lifeStage
  period := s.clock.timePeriod
  karma := s.world.pressure.karma
  heat := s.world.pressure.heat

/-- The storylet may open in the session, where `lapsed` is the one whose event just closed. -/
structure Eligible (s : Session) (lapsed : Option StoryletId) (t : Storylet) : Prop where
  mem : t ∈ s.catalog.storylets
  mature : t.mature = true → s.player.contentMode = true
  once : t.once = true → s.director.history.wasResolved t.id = false
  recent : t.id ∉ s.director.history.recent
  lapsed : lapsed ≠ some t.id
  cooldown : ∀ r, s.director.history.lastResolvedAt? t.id = some r →
    Word.satAdd r (Word.satMul t.cooldownDays.toUInt64 s.clock.ticksPerDay) ≤ s.clock.tick
  conditions : ∀ g ∈ t.conditions, g.holds s.standing = true
  choices : ∃ c ∈ t.choices, ∀ g ∈ c.conditions, g.holds s.standing = true

/-- The session is what a pass left behind that ended in some way. Before the pass and the expiry
ahead of it the event `before` was open, and the pass drew from `stream`. -/
inductive Passed (s : Session) (before : Option ActiveEvent) (lapsed : Option StoryletId)
    (stream : Stream) : PassEnd → Prop
  | kept (e : ActiveEvent) (was : before = some e) (active : s.director.active = some e)
      (drew : Stream.Drew 0 stream s.stream) : Passed s before lapsed stream .kept
  | barren (none : ∀ t, ¬s.Eligible lapsed t) (idle : s.director.active = .none)
      (drew : Stream.Drew 0 stream s.stream) : Passed s before lapsed stream .barren
  | declined (some : ∃ t, s.Eligible lapsed t) (idle : s.director.active = .none)
      (drew : Stream.Drew 1 stream s.stream) : Passed s before lapsed stream .declined
  | opened (t : Storylet) (e : ActiveEvent) (eligible : s.Eligible lapsed t)
      (new : before ≠ some e) (active : s.director.active = some e) (storylet : e.storylet = t.id)
      (offered : e.offered = (t.choices.filter fun c =>
        c.conditions.all fun g => g.holds s.standing).map Choice.id)
      (activatedAt : e.activatedAt = s.clock.tick) (drew : Stream.Drew 2 stream s.stream) :
      Passed s before lapsed stream .opened

/-! ## Passes -/

theorem eligible_iff (s : Session) (lapsed : Option StoryletId) (t : Storylet) :
    s.Eligible lapsed t ↔
      ∃ c ∈ s.director.eligible s.catalog (s.situation lapsed), c.storylet = t := by
  have hne : t.offered s.standing ≠ [] ↔
      ∃ c ∈ t.choices, ∀ g ∈ c.conditions, g.holds s.standing = true := by
    unfold Storylet.offered Condition.allHold
    rw [Ne, List.map_eq_nil_iff, List.filter_eq_nil_iff]
    simp
  constructor
  · intro h
    refine ⟨⟨t, t.offered s.standing⟩, ?_, rfl⟩
    rw [Director.mem_eligible_iff, Director.admits_iff]
    exact ⟨h.mem, ⟨h.mature, h.once, h.recent, h.lapsed, h.cooldown, h.conditions⟩, rfl,
      hne.2 h.choices⟩
  · rintro ⟨c, hc, rfl⟩
    rw [Director.mem_eligible_iff, Director.admits_iff] at hc
    obtain ⟨hm, ⟨mature, once, recent, lapsed, cooldown, conditions⟩, ho, hnil⟩ := hc
    rw [ho] at hnil
    exact ⟨hm, mature, once, recent, lapsed, cooldown, conditions, hne.1 hnil⟩

/-- A pass leaves alone what the gates look at. -/
theorem eligible_pass (s : Session) (lapsed : Option StoryletId) (t : Storylet) :
    (s.pass lapsed).Eligible lapsed t ↔ s.Eligible lapsed t := by
  have hp : s.pass lapsed =
      { s with
        director := ⟨(s.pass lapsed).director.active, s.director.history⟩
        stream := (s.pass lapsed).stream } := by
    rw [← history_pass s lapsed]
    rfl
  rw [hp]
  constructor
  · intro h
    exact ⟨h.mem, h.mature, h.once, h.recent, h.lapsed, h.cooldown, h.conditions, h.choices⟩
  · intro h
    exact ⟨h.mem, h.mature, h.once, h.recent, h.lapsed, h.cooldown, h.conditions, h.choices⟩

/-- A pass ends in one of the four ways, where the event `before` is the one that is still open or
has just lapsed. -/
theorem exists_passed (s : Session) (before : Option ActiveEvent) (lapsed : Option StoryletId)
    (hactive : ∀ e, s.director.active = some e → before = some e)
    (hbefore : ∀ e, before = some e → s.director.active = none → lapsed = some e.storylet) :
    ∃ r, (s.pass lapsed).Passed before lapsed s.stream r := by
  have helig := eligible_pass s lapsed
  have hiff := eligible_iff s lapsed
  have hstanding : (s.pass lapsed).standing = s.standing := by
    unfold standing
    rw [history_pass]
    rfl
  obtain ⟨after, ho, hp⟩ := s.exists_pass_outcome lapsed
  cases ho with
  | busy e active =>
    refine ⟨.kept, .kept e (hactive e active) ?_ ?_⟩
    · rw [hp]
      exact active
    · rw [hp]
      exact Stream.drew_skip s.stream 0
  | barren idle eligible =>
    refine ⟨.barren, .barren ?_ ?_ ?_⟩
    · intro t ht
      obtain ⟨c, hc, -⟩ := (hiff t).1 ((helig t).1 ht)
      rw [eligible] at hc
      cases hc
    · rw [hp]
      exact idle
    · rw [hp]
      exact Stream.drew_skip s.stream 0
  | declined idle eligible =>
    refine ⟨.declined, .declined ?_ ?_ ?_⟩
    · obtain ⟨c, hc⟩ := List.exists_mem_of_ne_nil _ eligible
      exact ⟨c.storylet, (helig _).2 ((hiff _).2 ⟨c, hc, rfl⟩)⟩
    · rw [hp]
      exact idle
    · rw [hp]
      exact Stream.drew_skip s.stream 1
  | opened c idle eligible =>
    have he : s.Eligible lapsed c.storylet := (hiff _).2 ⟨c, eligible, rfl⟩
    refine ⟨.opened, .opened c.storylet (c.event s.clock.tick s.config) ((helig _).2 he)
      ?_ ?_ rfl ?_ rfl ?_⟩
    · intro hb
      exact he.lapsed (hbefore _ hb idle)
    · rw [hp]
      rfl
    · obtain ⟨-, -, hoff, -⟩ := (Director.mem_eligible_iff c).1 eligible
      rw [hstanding]
      exact hoff
    · rw [hp]
      exact Stream.drew_skip s.stream 2

theorem Passed.drew {s : Session} {before : Option ActiveEvent} {lapsed : Option StoryletId}
    {stream : Stream} {r : PassEnd} (h : s.Passed before lapsed stream r) :
    Stream.Drew r.draws stream s.stream := by
  cases h <;> assumption

/-- The number of draws tells the ways apart, and where nothing was drawn the active event does. -/
theorem Passed.unique {s : Session} {before : Option ActiveEvent} {lapsed : Option StoryletId}
    {stream : Stream} {q r : PassEnd} (h : s.Passed before lapsed stream q)
    (h' : s.Passed before lapsed stream r) : q = r := by
  have hd : q.draws = r.draws := by
    have hq := h.drew.draws
    have hr := h'.drew.draws
    omega
  cases h with
  | kept e _ active =>
    cases h' with
    | kept => rfl
    | barren _ idle =>
      rw [active] at idle
      cases idle
    | declined => exact absurd hd (by decide)
    | opened => exact absurd hd (by decide)
  | barren _ idle =>
    cases h' with
    | kept e _ active =>
      rw [active] at idle
      cases idle
    | barren => rfl
    | declined => exact absurd hd (by decide)
    | opened => exact absurd hd (by decide)
  | declined =>
    cases h' with
    | declined => rfl
    | _ => exact absurd hd (by decide)
  | opened =>
    cases h' with
    | opened => rfl
    | _ => exact absurd hd (by decide)

/-! ## Operations -/

/-- An entry may be logged before the pass. -/
theorem stepped_eq (s : Session) (ticks : UInt64) :
    s.stepped ticks = ((s.beginOperation.elapse ticks).record (.step ticks)).pass
      (s.director.lapsing (s.stepped ticks).clock.tick) := by
  rw [clock_stepped]
  rfl

theorem chosen_eq (s : Session) (t : Storylet) (c : Choice) {ticks : UInt64} (h : ticks ≠ 0) :
    s.chosen t c ticks =
      (((s.beginOperation.settle t c).elapse ticks).record (.choose t.id c.id ticks)).pass
        none := by
  unfold chosen follow
  rw [if_neg h]
  rfl

theorem toUInt64_ne_zero {n : Int64} (h : 0 < n) : n.toUInt64 ≠ 0 := by
  intro h₀
  have hn : n = 0 := by
    rw [← n.toInt64_toUInt64, h₀]
    rfl
  rw [hn] at h
  exact absurd h (by decide)

theorem exists_passed_stepped (s : Session) (ticks : UInt64) :
    ∃ r, (s.stepped ticks).Passed s.director.active
      (s.director.lapsing (s.stepped ticks).clock.tick) s.stream r := by
  have hs : ((s.beginOperation.elapse ticks).record (.step ticks)).stream = s.stream :=
    stream_elapse s.beginOperation ticks
  have hlapsed : ∀ e, s.director.active = some e →
      ((s.beginOperation.elapse ticks).record (.step ticks)).director.active = none →
      s.director.lapsing (s.stepped ticks).clock.tick = some e.storylet := by
    intro e he hidle
    rw [clock_stepped]
    exact lapsing_of_elapse (s := s.beginOperation) he hidle
  obtain ⟨r, hr⟩ := exists_passed ((s.beginOperation.elapse ticks).record (.step ticks))
    s.director.active _ (fun e he => active_elapse (s := s.beginOperation) he) hlapsed
  rw [← stepped_eq, hs] at hr
  exact ⟨r, hr⟩

theorem exists_passed_chosen (s : Session) (t : Storylet) (c : Choice) {ticks : UInt64}
    (h : ticks ≠ 0) :
    ∃ r, (s.chosen t c ticks).Passed none none (s.chosen t c 0).stream r := by
  have hs : (((s.beginOperation.settle t c).elapse ticks).record
      (.choose t.id c.id ticks)).stream = (s.chosen t c 0).stream := stream_elapse ..
  have hidle : ∀ e, (((s.beginOperation.settle t c).elapse ticks).record
      (.choose t.id c.id ticks)).director.active = some e → none = some e := by
    intro e he
    exact active_elapse (s := s.beginOperation.settle t c) he
  obtain ⟨r, hr⟩ := exists_passed _ none none hidle (fun e he => by cases he)
  rw [← chosen_eq s t c h, hs] at hr
  exact ⟨r, hr⟩

/-- After a start, some ticks, or a choice with ticks after it, the session shows how the one pass
of the operation ended, and that it drew no more than that takes. The choice itself draws only its
jitter, and without ticks after it there is no pass. -/
theorem existsUnique_passed :
    (∀ seed player catalog config s, start seed player catalog config = .ok s →
      ∃! r, s.Passed none none (.ofSeed seed) r) ∧
    (∀ (s s' : Session) (n : Int64), s.step n = (.ok (), s') →
      ∃! r, s'.Passed s.director.active (s.director.lapsing s'.clock.tick) s.stream r) ∧
    (∀ (s s' : Session) storylet choice (n : Int64), 0 < n →
      s.choose storylet choice n = (.ok (), s') →
      ∃ settled, s.choose storylet choice 0 = (.ok (), settled) ∧
        ∃! r, s'.Passed none none settled.stream r) ∧
    ∀ (s s' : Session) storylet choice, s.choose storylet choice 0 = (.ok (), s') →
      s'.director.active = none ∧
      ∃ t c, s.catalog.get? storylet = some t ∧ t.choice? choice = some c ∧
        Stream.After (Director.jitters c) s.stream s'.stream := by
  have key : ∀ {s : Session} {before lapsed stream},
      (∃ r, s.Passed before lapsed stream r) → ∃! r, s.Passed before lapsed stream r := by
    rintro s before lapsed stream ⟨r, hr⟩
    exact ⟨r, hr, fun q hq => hq.unique hr⟩
  refine ⟨?_, ?_, ?_, ?_⟩
  · intro seed player catalog config s started
    obtain ⟨-, -, -, rfl⟩ := start_eq_ok_iff.1 started
    apply key
    exact exists_passed _ none none (fun e he => by cases he) (fun e he => by cases he)
  · intro s s' n h
    have ho := s.step_outcome n
    rw [h] at ho
    cases ho with
    | made => exact key (exists_passed_stepped ..)
  · intro s s' storylet choice n hn h
    have ho := s.choose_outcome storylet choice n
    rw [h] at ho
    cases ho with
    | made e t c offers hs hc =>
      subst hs hc
      exact ⟨_, choose_of_offers offers (Int64.le_refl 0) (absurd rfl),
        key (exists_passed_chosen s t c (toUInt64_ne_zero hn))⟩
  · intro s s' storylet choice h
    have ho := s.choose_outcome storylet choice 0
    rw [h] at ho
    cases ho with
    | made e t c offers hs hc =>
      subst hs hc
      exact ⟨rfl, t, c, offers.get?, offers.choice?, after_settle s.beginOperation t c⟩

/-! ## A choir

Of four storylets one is mature, one has only a choice that is out of reach, one may be shown once and
asks for karma, and errands come up again after two days. -/

def auction : Storylet where
  id := "auction"
  title := "Auction"
  choices := [{ id := "bid", label := "Bid", conditions := [.statAtLeast .wealth 90] }]

def confession : Storylet where
  id := "confession"
  title := "Confession"
  mature := true
  choices := [{ id := "listen", label := "Listen" }]

def helpOut : Choice where
  id := "help"
  label := "Help out"
  karma := 1

def errands : Storylet where
  id := "errands"
  title := "Errands"
  cooldownDays := 2
  choices := [helpOut]

def sing : Choice where
  id := "sing"
  label := "Sing"

def recital : Storylet where
  id := "recital"
  title := "Recital"
  once := true
  conditions := [.karmaAtLeast 1]
  choices := [sing]

def choirCatalog : Catalog := .of [auction, confession, errands, recital] [] (by decide)

def choirConfig : Config := { historyLength := 0 }

def choirGame : Session := (fresh 6 kneePlayer choirCatalog choirConfig).pass none

/-- Thirty hours after the errands. -/
def recitalGame : Session := choirGame.chosen errands helpOut 30

/-- An hour after the recital. -/
def quietGame : Session := recitalGame.chosen recital sing 1

theorem start_choirGame : start 6 kneePlayer choirCatalog choirConfig = .ok choirGame := rfl

/-- A session of the choir game, where the hour can always be read. -/
theorem hourFits_of_choir {s : Session} (h : s.clock.ticksPerDay = choirConfig.clock.ticksPerDay)
    (ticks : UInt64) : (s.clock.advance ticks).HourFits := by
  apply Clock.hourFits_of_usual
  rw [Clock.ticksPerDay_advance, h]
  decide

/-- The way in which a pass ended, told from the number of its draws and from what is open. -/
theorem Passed.of_exists {s : Session} {before : Option ActiveEvent} {lapsed : Option StoryletId}
    {stream : Stream} (h : ∃! r, s.Passed before lapsed stream r) {r : PassEnd}
    (ends : s.stream.draws = stream.draws + r.draws ∧
      (r = .kept ∨ r = .opened ↔ s.director.active.isSome = true)) :
    s.Passed before lapsed stream r := by
  obtain ⟨q, hq, -⟩ := h
  obtain ⟨draws, open_iff⟩ := ends
  have hdraws : q.draws = r.draws := by
    have hdrew := hq.drew.draws
    omega
  have hopen : q = .kept ∨ q = .opened ↔ s.director.active.isSome = true := by
    cases hq with
    | kept _ _ active => simp [active]
    | barren _ idle => simp [idle]
    | declined _ idle => simp [idle]
    | opened _ _ _ _ active => simp [active]
  have hsame := hopen.trans open_iff.symm
  have heq : q = r := by
    revert hdraws hsame
    cases q <;> cases r <;> decide
  exact heq ▸ hq

theorem ticksPerDay_choirGame : choirGame.clock.ticksPerDay = choirConfig.clock.ticksPerDay :=
  congrArg Clock.ticksPerDay (clock_pass ..)

theorem ticksPerDay_recitalGame :
    recitalGame.clock.ticksPerDay = choirConfig.clock.ticksPerDay := by
  unfold recitalGame
  rw [clock_chosen, Clock.ticksPerDay_advance, ticksPerDay_choirGame]

theorem ticksPerDay_quietGame :
    quietGame.clock.ticksPerDay = choirConfig.clock.ticksPerDay := by
  unfold quietGame
  rw [clock_chosen, Clock.ticksPerDay_advance, ticksPerDay_recitalGame]

theorem offers_choirGame :
    choirGame.Offers ⟨"errands", ["help"], 0, 72⟩ errands helpOut where
  active := by decide +kernel
  storylet := rfl
  choice := by decide
  get? := by
    rw [show choirGame.catalog = choirCatalog from (continues_pass ..).catalog]
    rfl
  choice? := rfl

theorem offers_recitalGame :
    recitalGame.Offers ⟨"recital", ["sing"], 30, 102⟩ recital sing where
  active := by decide +kernel
  storylet := rfl
  choice := by decide
  get? := by
    have hcatalog : recitalGame.catalog = choirCatalog :=
      (continues_chosen ..).catalog.trans (continues_pass ..).catalog
    rw [hcatalog]
    rfl
  choice? := rfl

/-- Every way in which a pass ends. The errands open at the start and stay open for an hour. Once
they are done there is karma for the recital, which opens thirty hours later; after it nothing is
eligible, and two days after the errands these are again, but do not open. -/
theorem existsUnique_passed_choirGame :
    choirGame.Passed none none (.ofSeed 6) .opened ∧
    (choirGame.stepped 1).Passed choirGame.director.active none choirGame.stream .kept ∧
    recitalGame.Passed none none (choirGame.chosen errands helpOut 0).stream .opened ∧
    recitalGame.director.active.map ActiveEvent.storylet = some "recital" ∧
    quietGame.Passed none none (recitalGame.chosen recital sing 0).stream .barren ∧
    (quietGame.stepped 17).Passed none none quietGame.stream .declined := by
  obtain ⟨hstart, hstep, hchoose, -⟩ := existsUnique_passed
  have hkept : choirGame.step 1 = (.ok (), choirGame.stepped 1) :=
    step_of_fits (by decide) (hourFits_of_choir ticksPerDay_choirGame _)
  have hdeclined : quietGame.step 17 = (.ok (), quietGame.stepped 17) :=
    step_of_fits (by decide) (hourFits_of_choir ticksPerDay_quietGame _)
  have herrands : ∀ n : Int64, 0 ≤ n → choirGame.choose errands.id helpOut.id n =
      (.ok (), choirGame.chosen errands helpOut n.toUInt64) :=
    fun n hn => choose_of_offers offers_choirGame hn
      fun _ => hourFits_of_choir ticksPerDay_choirGame _
  have hrecital : ∀ n : Int64, 0 ≤ n → recitalGame.choose recital.id sing.id n =
      (.ok (), recitalGame.chosen recital sing n.toUInt64) :=
    fun n hn => choose_of_offers offers_recitalGame hn
      fun _ => hourFits_of_choir ticksPerDay_recitalGame _
  refine ⟨?_, ?_, ?_, ?_, ?_, ?_⟩
  · exact Passed.of_exists (hstart _ _ _ _ _ start_choirGame) (by decide +kernel)
  · have hlapsing : choirGame.director.lapsing (choirGame.stepped 1).clock.tick = none := by
      decide +kernel
    have h := hstep _ _ 1 hkept
    rw [hlapsing] at h
    exact Passed.of_exists h (by decide +kernel)
  · obtain ⟨settled, hsettled, h⟩ := hchoose _ _ _ _ 30 (by decide) (herrands 30 (by decide))
    obtain ⟨-, rfl⟩ := Prod.mk.inj ((herrands 0 (by decide)).symm.trans hsettled)
    exact Passed.of_exists h (by decide +kernel)
  · rw [offers_recitalGame.active]
    rfl
  · obtain ⟨settled, hsettled, h⟩ := hchoose _ _ _ _ 1 (by decide) (hrecital 1 (by decide))
    obtain ⟨-, rfl⟩ := Prod.mk.inj ((hrecital 0 (by decide)).symm.trans hsettled)
    exact Passed.of_exists h (by decide +kernel)
  · have hidle : quietGame.director.active = none := by decide +kernel
    have h := hstep _ _ 17 hdeclined
    rw [Director.lapsing_of_idle hidle, hidle] at h
    exact Passed.of_exists h (by decide +kernel)

end Session

end LifeStory
