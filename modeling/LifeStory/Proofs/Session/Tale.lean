import LifeStory.Proofs.Session.Audit
import LifeStory.Proofs.Session.Pass

/-!
# The tale of a run

What a run tells is which storylets opened, and which were resolved or lapsed, newest first. It is
read off the calls and the sessions around them, without a look at the history that the director
keeps. That history is what the tale leaves behind, and a tale goes by few rules (`Told`): a storylet
opens while none is open, and only if nothing that was told before keeps it back (`Storylet.Free`);
and what finishes is the storylet that is open.

    (l.history n).recent = ((finished l).take n).reverse                        (recent_history)
    (l.history n).lastResolvedAt? id = l.resolvedAt? id                         (lastResolvedAt?_history)
    d.admits t situation = true → t.Free d.history situation.now situation.ticksPerDay
                                                                                (free_of_admits)
    start seed player catalog config = .ok s →
      Told catalog config (s.tale calls) (the storylet that is open after the run) ∧
      (s.run calls).director.history = (s.tale calls).history config.historyLength.toNat
                                                                                (told_tale)
-/

namespace LifeStory

/-- What becomes of a storylet, and when. -/
inductive Happening where
  | opened (storylet : StoryletId) (tick : Tick)
  | resolved (storylet : StoryletId) (tick : Tick)
  | lapsed (storylet : StoryletId) (tick : Tick)
deriving DecidableEq, Repr

namespace Happening

/-- The storylet, if it finishes. -/
def finished? : Happening → Option StoryletId
  | opened .. => none
  | resolved id _ => some id
  | lapsed id _ => some id

/-- The tick, if a choice resolves the storylet. -/
def resolvedAt? (id : StoryletId) : Happening → Option Tick
  | opened .. => none
  | resolved storylet tick => if id = storylet then some tick else none
  | lapsed .. => none

end Happening

/-- What a run tells, newest first. -/
abbrev Tale := List Happening

namespace Tale

/-- The storylets that finished, newest first. -/
def finished (l : Tale) : List StoryletId := l.filterMap Happening.finished?

/-- The tick of the latest resolution of a storylet. -/
def resolvedAt? (l : Tale) (id : StoryletId) : Option Tick := l.findSome? (Happening.resolvedAt? id)

/-- What a director that keeps the last few storylets remembers of a tale. -/
def history (capacity : Nat) : Tale → StoryHistory
  | [] => .empty capacity
  | .opened .. :: l => history capacity l
  | .resolved id tick :: l => (history capacity l).recordResolved id tick
  | .lapsed id _ :: l => (history capacity l).recordExpired id

/-! ## What is remembered of a tale -/

theorem capacity_history (n : Nat) (l : Tale) : (l.history n).window.capacity = n := by
  fun_induction history n l with
  | case1 => rfl
  | case2 _ _ l ih => exact ih
  | case3 id tick l ih => exact (Window.capacity_push ..).trans ih
  | case4 id _ l ih => exact (Window.capacity_push ..).trans ih

theorem items_history (n : Nat) (l : Tale) : (l.history n).window.items = (finished l).take n := by
  fun_induction history n l with
  | case1 => rw [show finished [] = [] from rfl, List.take_nil]; rfl
  | case2 id tick l ih => exact ih
  | case3 id tick l ih =>
    show ((history n l).window.push id).items = (id :: finished l).take n
    rw [Window.items_push_of_take (by rw [ih, capacity_history]), capacity_history]
  | case4 id tick l ih =>
    show ((history n l).window.push id).items = (id :: finished l).take n
    rw [Window.items_push_of_take (by rw [ih, capacity_history]), capacity_history]

/-- The last storylets that finished are remembered, oldest first. -/
theorem recent_history (n : Nat) (l : Tale) :
    (l.history n).recent = ((finished l).take n).reverse := by
  unfold StoryHistory.recent
  rw [items_history]

/-- The latest resolution is remembered, however long ago it was. -/
theorem lastResolvedAt?_history (n : Nat) (l : Tale) (id : StoryletId) :
    (l.history n).lastResolvedAt? id = l.resolvedAt? id := by
  fun_induction history n l with
  | case1 => rfl
  | case2 _ _ l ih => exact ih
  | case3 storylet tick l ih =>
    have hx : Happening.resolvedAt? id (.resolved storylet tick) =
        if id = storylet then some tick else none := rfl
    rw [StoryHistory.lastResolvedAt?_recordResolved, ih]
    unfold resolvedAt?
    rw [List.findSome?_cons, hx]
    by_cases hid : id = storylet
    · rw [if_pos hid, if_pos hid]
    · rw [if_neg hid, if_neg hid]
  | case4 _ _ l ih => exact ih

end Tale

/-! ## The rules of a tale -/

/-- Nothing that was told keeps the storylet back at a tick. -/
structure Storylet.Free (t : Storylet) (h : StoryHistory) (now : Tick) (ticksPerDay : UInt64) :
    Prop where
  once : t.once = true → h.wasResolved t.id = false
  recent : t.id ∉ h.recent
  cooldown : ∀ r, h.lastResolvedAt? t.id = some r →
    Word.satAdd r (Word.satMul t.cooldownDays.toUInt64 ticksPerDay) ≤ now

theorem Storylet.free_of_admits {d : Director} {t : Storylet} {situation : Situation}
    (h : d.admits t situation = true) :
    t.Free d.history situation.now situation.ticksPerDay := by
  obtain ⟨-, once, recent, -, cooldown, -⟩ := Director.admits_iff.1 h
  exact ⟨once, recent, cooldown⟩

/-- The tale can be told of a catalog, and at its end the storylet is open, if there is one. -/
inductive Told (catalog : Catalog) (config : Config) : Tale → Option StoryletId → Prop
  | nil : Told catalog config [] none
  | opened {l : Tale} {t : Storylet} {now : Tick} (before : Told catalog config l none)
      (mem : t ∈ catalog.storylets)
      (free : t.Free (l.history config.historyLength.toNat) now config.ticksPerDay) :
      Told catalog config (.opened t.id now :: l) (some t.id)
  | resolved {l : Tale} {id : StoryletId} (before : Told catalog config l (some id)) (now : Tick) :
      Told catalog config (.resolved id now :: l) none
  | lapsed {l : Tale} {id : StoryletId} (before : Told catalog config l (some id)) (now : Tick) :
      Told catalog config (.lapsed id now :: l) none

namespace Told

variable {catalog : Catalog} {config : Config} {l : Tale} {shown : Option StoryletId}

/-- What was told up to some point is a tale of its own. -/
theorem of_append {later : Tale} (h : Told catalog config (later ++ l) shown) :
    ∃ shown, Told catalog config l shown := by
  induction later generalizing shown with
  | nil => exact ⟨shown, h⟩
  | cons x later ih =>
    cases h with
    | opened before => exact ih before
    | resolved before => exact ih before
    | lapsed before => exact ih before

/-- When a storylet opened, nothing was open and nothing kept it back. -/
theorem free_of_opened {later : Tale} {id : StoryletId} {now : Tick}
    (h : Told catalog config (later ++ .opened id now :: l) shown) :
    Told catalog config l none ∧ ∃ t ∈ catalog.storylets, t.id = id ∧
      t.Free (l.history config.historyLength.toNat) now config.ticksPerDay := by
  obtain ⟨_, h⟩ := h.of_append
  cases h with
  | opened before mem free => exact ⟨before, _, mem, rfl, free⟩

/-- Nothing of what was told so far keeps back the storylet that is open: since it opened, nothing
was added to the history. -/
theorem free_of_shown {id : StoryletId} (h : Told catalog config l (some id)) :
    ∃ t ∈ catalog.storylets, t.id = id ∧ ∃ now,
      t.Free (l.history config.historyLength.toNat) now config.ticksPerDay := by
  cases h with
  | opened before mem free => exact ⟨_, mem, rfl, _, free⟩

end Told

namespace Session

/-! ## Telling -/

/-- What a session tells of a director that has just looked. -/
def opening (s : Session) : Tale :=
  match s.director.active with
  | none => []
  | some e => [.opened e.storylet s.clock.tick]

/-- What a call tells. A choice resolves the storylet that it names. When time passes, an open event
stays open until its time is over, and nothing else can open as long. -/
def happenings (s : Session) (c : Call) : Tale :=
  match c, s.call c with
  | _, (.error _, _) => []
  | .choose storylet _ _, (.ok _, t) => t.opening ++ [.resolved storylet s.clock.tick]
  | .step _, (.ok _, t) =>
    match s.director.active with
    | none => t.opening
    | some e =>
      if e.expiresAt ≤ t.clock.tick then t.opening ++ [.lapsed e.storylet t.clock.tick] else []

/-- What some calls tell, from the session on, up to one that crashes. -/
def taleFrom (s : Session) : List Call → Tale
  | [] => []
  | c :: rest =>
    match s.after? c with
    | none => []
    | some t => t.taleFrom rest ++ s.happenings c

/-- What a run tells of a game that was just started. -/
def tale (s : Session) (calls : List Call) : Tale := s.taleFrom calls ++ s.opening

/-- The session is one to which the tale leads. -/
structure Follows (s : Session) (l : Tale) : Prop where
  told : Told s.catalog s.config l (s.director.active.map ActiveEvent.storylet)
  history : s.director.history = l.history s.config.historyLength.toNat
  day : s.clock.ticksPerDay = s.config.ticksPerDay

/-! ## Moves -/

theorem opening_of_idle {s : Session} (h : s.director.active = none) : s.opening = [] := by
  unfold opening
  rw [h]

namespace Follows

variable {s : Session} {l : Tale}

theorem congr {t : Session} (h : s.Follows l) (catalog : t.catalog = s.catalog)
    (config : t.config = s.config) (director : t.director = s.director)
    (day : t.clock.ticksPerDay = s.clock.ticksPerDay) : t.Follows l := by
  refine ⟨?_, ?_, ?_⟩
  · rw [catalog, config, director]
    exact h.told
  · rw [director, config]
    exact h.history
  · rw [day, config]
    exact h.day

theorem beginOperation (h : s.Follows l) : s.beginOperation.Follows l := h.congr rfl rfl rfl rfl

theorem record (h : s.Follows l) (entry : JournalEntry) : (s.record entry).Follows l :=
  h.congr rfl rfl rfl rfl

theorem told_of_idle (h : s.Follows l) (idle : s.director.active = none) :
    Told s.catalog s.config l none := by
  have ht := h.told
  rw [idle] at ht
  exact ht

theorem told_of_active (h : s.Follows l) {e : ActiveEvent} (active : s.director.active = some e) :
    Told s.catalog s.config l (some e.storylet) := by
  have ht := h.told
  rw [active] at ht
  exact ht

/-- An idle director opens what it is free to open. -/
theorem pass (h : s.Follows l) (idle : s.director.active = none) (lapsed : Option StoryletId) :
    (s.pass lapsed).Follows ((s.pass lapsed).opening ++ l) := by
  obtain ⟨after, ho, hp⟩ := s.exists_pass_outcome lapsed
  cases ho with
  | busy e active =>
    rw [idle] at active
    cases active
  | barren =>
    rw [opening_of_idle (by rw [hp]; exact idle), hp]
    exact h.congr rfl rfl rfl rfl
  | declined =>
    rw [opening_of_idle (by rw [hp]; exact idle), hp]
    exact h.congr rfl rfl rfl rfl
  | opened c _ eligible =>
    rw [hp]
    obtain ⟨mem, admits, -, -⟩ := (Director.mem_eligible_iff c).1 eligible
    have free : c.storylet.Free s.director.history s.clock.tick s.clock.ticksPerDay :=
      Storylet.free_of_admits admits
    rw [h.history, h.day] at free
    exact ⟨.opened (h.told_of_idle idle) mem free, h.history, h.day⟩

/-- A director whose event is open leaves it open. -/
theorem pass_of_active (h : s.Follows l) {e : ActiveEvent} (active : s.director.active = some e)
    (lapsed : Option StoryletId) : (s.pass lapsed).Follows l := by
  rw [Session.pass_of_active active]
  exact h

theorem elapse_of_standing (h : s.Follows l) {ticks : UInt64}
    (standing : (s.elapse ticks).director = s.director) : (s.elapse ticks).Follows l := by
  refine h.congr (catalog_elapse ..) (config_elapse ..) standing ?_
  rw [clock_elapse]
  rfl

theorem elapse_of_lapsed (h : s.Follows l) {ticks : UInt64} {e : ActiveEvent}
    (active : s.director.active = some e)
    (lapsed : (s.elapse ticks).director = ⟨none, s.director.history.recordExpired e.storylet⟩) :
    (s.elapse ticks).Follows (.lapsed e.storylet (s.clock.advance ticks).tick :: l) := by
  refine ⟨?_, ?_, ?_⟩
  · rw [catalog_elapse, config_elapse, lapsed]
    exact .lapsed (h.told_of_active active) _
  · rw [lapsed, config_elapse, h.history]
    rfl
  · rw [clock_elapse, config_elapse]
    exact h.day

/-- A choice resolves the storylet that is open. -/
theorem settle (h : s.Follows l) {e : ActiveEvent} {t : Storylet} {c : Choice}
    (offers : s.Offers e t c) : (s.settle t c).Follows (.resolved t.id s.clock.tick :: l) := by
  have ht := h.told_of_active offers.active
  rw [offers.storylet] at ht
  refine ⟨.resolved ht _, ?_, h.day⟩
  show s.director.history.recordResolved t.id s.clock.tick = _
  rw [h.history]
  rfl

/-! ## Operations -/

theorem stepped (h : s.Follows l) {n : Int64} (nonneg : 0 ≤ n)
    (fits : (s.clock.advance n.toUInt64).HourFits) :
    (s.stepped n.toUInt64).Follows (s.happenings (.step n) ++ l) := by
  have hcall : s.call (.step n) = (.ok (), s.stepped n.toUInt64) := step_of_fits nonneg fits
  have hclock : (s.stepped n.toUInt64).clock = s.clock.advance n.toUInt64 := clock_stepped ..
  unfold happenings
  rw [hcall]
  dsimp only
  rw [hclock, stepped_eq]
  -- a pass opens something only if nothing was open before, or what was open lapses
  obtain ⟨lapsing, hd⟩ | ⟨e, active, lapsing, hd⟩ :=
    s.beginOperation.director_elapse_cases n.toUInt64
  · change s.director.lapsing (s.clock.advance n.toUInt64).tick = none at lapsing
    have hf := (h.beginOperation.elapse_of_standing hd).record (.step n.toUInt64)
    have hactive : ((s.beginOperation.elapse n.toUInt64).record
        (.step n.toUInt64)).director.active = s.director.active := congrArg Director.active hd
    cases ha : s.director.active with
    | none => exact hf.pass (hactive.trans ha) _
    | some e =>
      rw [Director.lapsing_of_active ha] at lapsing
      split_ifs at lapsing with hdue
      dsimp only
      rw [if_neg hdue]
      exact hf.pass_of_active (hactive.trans ha) _
  · change s.director.active = some e at active
    change s.director.lapsing (s.clock.advance n.toUInt64).tick = some e.storylet at lapsing
    have hf := (h.beginOperation.elapse_of_lapsed active hd).record (.step n.toUInt64)
    have hidle : ((s.beginOperation.elapse n.toUInt64).record
        (.step n.toUInt64)).director.active = none := congrArg Director.active hd
    rw [Director.lapsing_of_active active] at lapsing
    split_ifs at lapsing with hdue
    rw [active]
    dsimp only
    rw [if_pos hdue, List.append_assoc]
    exact hf.pass hidle _

theorem chosen (h : s.Follows l) {e : ActiveEvent} {t : Storylet} {c : Choice}
    (offers : s.Offers e t c) {n : Int64} (nonneg : 0 ≤ n) (looks : s.LooksAfter n.toUInt64) :
    (s.chosen t c n.toUInt64).Follows (s.happenings (.choose t.id c.id n) ++ l) := by
  have hs : (s.beginOperation.settle t c).Follows (.resolved t.id s.clock.tick :: l) :=
    h.beginOperation.settle
      ⟨offers.active, offers.storylet, offers.choice, offers.get?, offers.choice?⟩
  have hcall : s.call (.choose t.id c.id n) = (.ok (), s.chosen t c n.toUInt64) :=
    choose_of_offers offers nonneg looks
  unfold happenings
  rw [hcall]
  dsimp only
  rw [List.append_assoc]
  by_cases hn : n.toUInt64 = 0
  · rw [hn, opening_of_idle (s := s.chosen t c 0) rfl]
    exact hs.record _
  · rw [chosen_eq s t c hn]
    -- the choice left nothing open that could lapse
    obtain ⟨-, hd⟩ | ⟨e, active, -⟩ :=
      (s.beginOperation.settle t c).director_elapse_cases n.toUInt64
    · exact ((hs.elapse_of_standing hd).record _).pass (congrArg Director.active hd) none
    · cases active

/-! ## Runs -/

theorem call (h : s.Follows l) (hr : s.Reachable) {c : Call} {t : Session}
    (after : s.after? c = some t) : t.Follows (s.happenings c ++ l) := by
  have ho := hr.call_outcome c
  generalize hresult : s.call c = result at ho
  cases ho with
  | failed c fault =>
    have hnil : s.happenings c = [] := by
      unfold happenings
      rw [hresult]
    rw [after?_of_refused hresult] at after
    cases after
    rw [hnil]
    exact h
  | stepped n nonneg fits =>
    rw [after?_of_ok hresult] at after
    cases after
    exact h.stepped nonneg fits
  | chosen e t c n offers nonneg looks =>
    rw [after?_of_ok hresult] at after
    cases after
    exact h.chosen offers nonneg looks
  | crashed =>
    rw [after?_of_crashed hresult] at after
    cases after

theorem run (h : s.Follows l) (hr : s.Reachable) (calls : List Call) :
    (s.run calls).Follows (s.taleFrom calls ++ l) := by
  induction calls generalizing s l with
  | nil => exact h
  | cons c rest ih =>
    unfold taleFrom
    cases hc : s.after? c with
    | none =>
      rw [run_cons_of_none hc]
      exact h
    | some t =>
      rw [run_cons_of_some hc, List.append_assoc]
      exact ih (h.call hr hc) (hr.call c hc)

end Follows

/-- A game that was just started has told only of the event that opened, if any. -/
theorem follows_start {seed : UInt64} {player : Player} {catalog : Catalog} {config : Config}
    {s : Session} (started : start seed player catalog config = .ok s) : s.Follows s.opening := by
  obtain ⟨valid, -, -, rfl⟩ := start_eq_ok_iff.1 started
  have hfresh : (fresh seed player catalog config).Follows [] :=
    ⟨.nil, rfl, valid.ticksPerDay_clock⟩
  have hstart := hfresh.pass rfl none
  rw [List.append_nil] at hstart
  exact hstart

/-- Every session is one to which some tale leads. -/
theorem Reachable.exists_follows {s : Session} (h : s.Reachable) : ∃ l, s.Follows l := by
  induction h with
  | start _ started => exact ⟨_, follows_start started⟩
  | call before c after ih =>
    obtain ⟨l, hl⟩ := ih
    exact ⟨_, hl.call before after⟩

/-- What was told since an event opened does not keep back its storylet. -/
theorem Reachable.free_of_active {s : Session} (h : s.Reachable) {e : ActiveEvent}
    (active : s.director.active = some e) :
    ∃ t ∈ s.catalog.storylets, t.id = e.storylet ∧ ∃ now,
      t.Free s.director.history now s.config.ticksPerDay := by
  obtain ⟨l, hl⟩ := h.exists_follows
  rw [hl.history]
  exact (hl.told_of_active active).free_of_shown

/-- The tale of a run goes by the rules, and the history of the session is what is remembered of
it. -/
theorem told_tale {seed : UInt64} {player : Player} {catalog : Catalog} {config : Config}
    {s : Session} (accepted : catalog.Accepted)
    (started : start seed player catalog config = .ok s) (calls : List Call) :
    Told catalog config (s.tale calls)
        ((s.run calls).director.active.map ActiveEvent.storylet) ∧
      (s.run calls).director.history = (s.tale calls).history config.historyLength.toNat := by
  have hf := (follows_start started).run (.start accepted started) calls
  have hc : Continues (fresh seed player catalog config) (s.run calls) := by
    obtain ⟨-, -, -, rfl⟩ := start_eq_ok_iff.1 started
    exact (continues_pass _ _).trans (continues_run _ calls)
  have ht := hf.told
  have hh := hf.history
  rw [hc.catalog, hc.config] at ht
  rw [hc.config] at hh
  exact ⟨ht, hh⟩

/-! ## A home

Chores that come up again after a day, and a tooth that is lost once. Something opens whenever it
can, but nothing twice in a row. -/

def chores : Storylet where
  id := "chores"
  title := "Chores"
  cooldownDays := 1
  choices := [{ id := "do_them", label := "Do them" }]

def lostTooth : Storylet where
  id := "lost_tooth"
  title := "Lost Tooth"
  once := true
  choices := [{ id := "pillow", label := "Put it under the pillow" }]

def homeCatalog : Catalog := .of [chores, lostTooth] [] (by decide)

def homeConfig : Config := { activationChance := 1, historyLength := 1 }

def homeGame : Session := (fresh 5 kneePlayer homeCatalog homeConfig).pass none

theorem accepted_homeCatalog : homeCatalog.Accepted := ⟨[chores, lostTooth], [], rfl⟩

theorem start_homeGame : start 5 kneePlayer homeCatalog homeConfig = .ok homeGame := rfl

theorem hourFits_homeGame (ticks : UInt64) : (homeGame.clock.advance ticks).HourFits := by
  have hclock : homeGame.clock = homeConfig.clock := clock_pass ..
  apply Clock.hourFits_of_usual
  rw [Clock.ticksPerDay_advance, hclock]
  decide

/-- The tooth is left alone at first. -/
def homeCalls : List Call :=
  [.step 72, .choose "chores" "do_them" 1, .choose "lost_tooth" "pillow" 24]

theorem tale_homeGame :
    homeGame.tale homeCalls =
      [.opened "chores" 97, .resolved "lost_tooth" 73, .opened "lost_tooth" 73,
        .resolved "chores" 72, .opened "chores" 72, .lapsed "lost_tooth" 72,
        .opened "lost_tooth" 0] := by
  decide +kernel

end Session

end LifeStory
