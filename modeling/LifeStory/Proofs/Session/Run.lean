import LifeStory.Proofs.Calendar.Readings
import LifeStory.Proofs.Session.Moves

/-!
# Runs

A session is driven by calls, and a run is a list of them, refused ones included. A call that
crashes ends the run, which then leaves the session before that call. The milestones of a run are
the sessions right after each call that succeeds. A session is reachable if a run on a game that
could be started leaves it.

    start seed player catalog config = .ok s ↔ config.Valid ∧ player.fault? = none ∧
      config.Roomy ∧ s = (fresh seed player catalog config).pass none        (start_eq_ok_iff)
    Continues s (s.run calls)                                                (continues_run)
-/

namespace LifeStory

open LifeStory.Random (Stream)

/-- A call of a session from outside. -/
inductive Call where
  | step (ticks : Int64)
  | choose (storylet : StoryletId) (choice : ChoiceId) (ticksAfter : Int64)
deriving DecidableEq, Repr

namespace Session

/-- What a call answers, and the session that it leaves behind. -/
def call (s : Session) : Call → Except Failure Unit × Session
  | .step ticks => s.step ticks
  | .choose storylet choice ticksAfter => s.choose storylet choice ticksAfter

/-- The session after a call, unless the call crashes. -/
def after? (s : Session) (c : Call) : Option Session :=
  match s.call c with
  | (.error (.crashed _), _) => none
  | (_, t) => some t

/-- The session that some calls leave behind, up to one that crashes. -/
def run (s : Session) : List Call → Session
  | [] => s
  | c :: rest =>
    match s.after? c with
    | none => s
    | some t => t.run rest

/-- The sessions right after the calls that succeed, in order, up to a call that crashes. -/
def milestones (s : Session) : List Call → List Session
  | [] => []
  | c :: rest =>
    match s.call c with
    | (.ok _, t) => t :: t.milestones rest
    | (.error (.refused _), t) => t.milestones rest
    | (.error (.crashed _), _) => []

/-- The sessions of the games that can be started on accepted catalogs. -/
inductive Reachable : Session → Prop
  | start {seed : UInt64} {player : Player} {catalog : Catalog} {config : Config} {s : Session}
      (accepted : catalog.Accepted) (started : start seed player catalog config = .ok s) :
      Reachable s
  | call {s t : Session} (before : Reachable s) (c : Call) (after : s.after? c = some t) :
      Reachable t

/-! ## Calls that do not crash -/

section

variable {s t : Session} {c : Call}

theorem after?_of_ok (h : s.call c = (.ok (), t)) : s.after? c = some t := by
  unfold after?
  rw [h]

theorem after?_of_refused {fault : GameError} (h : s.call c = (.error (.refused fault), t)) :
    s.after? c = some t := by
  unfold after?
  rw [h]

theorem after?_of_crashed {crash : Crash} (h : s.call c = (.error (.crashed crash), t)) :
    s.after? c = none := by
  unfold after?
  rw [h]

theorem snd_call_of_after? (h : s.after? c = some t) : (s.call c).2 = t := by
  unfold after? at h
  split at h
  · cases h
  · next r u hcall =>
    rw [hcall]
    exact Option.some.inj h

theorem run_cons (s : Session) (c : Call) (rest : List Call) :
    s.run (c :: rest) = ((s.after? c).map fun t => t.run rest).getD s := by
  show (match s.after? c with | none => s | some t => t.run rest) = _
  cases s.after? c <;> rfl

theorem run_cons_of_some (h : s.after? c = some t) (rest : List Call) :
    s.run (c :: rest) = t.run rest := by
  rw [run_cons, h]
  rfl

theorem run_cons_of_none (h : s.after? c = none) (rest : List Call) : s.run (c :: rest) = s := by
  rw [run_cons, h]
  rfl

theorem milestones_cons_of_ok (h : s.call c = (.ok (), t)) (rest : List Call) :
    s.milestones (c :: rest) = t :: t.milestones rest := by
  conv_lhs => unfold milestones
  rw [h]

theorem milestones_cons_of_refused {fault : GameError}
    (h : s.call c = (.error (.refused fault), t)) (rest : List Call) :
    s.milestones (c :: rest) = t.milestones rest := by
  conv_lhs => unfold milestones
  rw [h]

theorem milestones_cons_of_crashed {crash : Crash}
    (h : s.call c = (.error (.crashed crash), t)) (rest : List Call) :
    s.milestones (c :: rest) = [] := by
  conv_lhs => unfold milestones
  rw [h]

end

/-- What each call keeps that does not crash, a run keeps. -/
theorem run_induct {R : Session → Session → Prop} (refl : ∀ s, R s s)
    (call : ∀ s t u c, s.after? c = some t → R t u → R s u) (s : Session) (calls : List Call) :
    R s (s.run calls) := by
  induction calls generalizing s with
  | nil => exact refl s
  | cons c rest ih =>
    cases h : s.after? c with
    | none =>
      rw [run_cons_of_none h]
      exact refl s
    | some t =>
      rw [run_cons_of_some h]
      exact call s t _ c h (ih t)

theorem Reachable.run {s : Session} (h : s.Reachable) (calls : List Call) :
    (s.run calls).Reachable :=
  run_induct (R := fun s t => s.Reachable → t.Reachable) (fun _ => id)
    (fun _ _ _ c after ih hs => ih (hs.call c after)) s calls h

/-! ## Starting -/

theorem hourFits_clock (config : Config) : config.clock.HourFits := by
  have hzero : config.clock.tickOfDay.toNat = 0 := by
    show ((0 : UInt64) % _).toNat = 0
    rw [UInt64.toNat_mod]
    exact Nat.zero_mod _
  unfold Clock.HourFits
  rw [hzero]
  decide

/-- What is wrong with the configuration is found first, then what is wrong with the player. -/
theorem start_eq (seed : UInt64) (player : Player) (catalog : Catalog) (config : Config) :
    start seed player catalog config =
      match config.fault?, player.fault? with
      | some fault, _ => .error (.refused (.config fault))
      | none, some fault => .error (.refused (.player fault))
      | none, none =>
        if config.Roomy then .ok ((fresh seed player catalog config).pass none)
        else .error (.crashed .capacityOverflow) := by
  have hlook : (fresh seed player catalog config).look none =
      (.ok (), (fresh seed player catalog config).pass none) := if_pos (hourFits_clock config)
  unfold start Config.checked
  cases config.fault? with
  | some fault => rfl
  | none =>
    cases player.fault? with
    | some fault => rfl
    | none =>
      show (if config.Roomy then succeeded ((fresh seed player catalog config).look none)
        else .error (.crashed .capacityOverflow)) = _
      rw [hlook]
      rfl

theorem start_eq_ok_iff {seed : UInt64} {player : Player} {catalog : Catalog} {config : Config}
    {s : Session} :
    start seed player catalog config = .ok s ↔
      config.Valid ∧ player.fault? = none ∧ config.Roomy ∧
        s = (fresh seed player catalog config).pass none := by
  rw [start_eq]
  unfold Config.Valid
  cases config.fault? with
  | some fault => simp
  | none =>
    cases player.fault? with
    | some fault => simp
    | none =>
      by_cases hroomy : config.Roomy
      · simp [hroomy, eq_comm]
      · simp [hroomy]

/-! ## What a run keeps -/

/-- `t` is a session of the life that `s` is a session of. -/
structure Continues (s t : Session) : Prop where
  config : t.config = s.config
  catalog : t.catalog = s.catalog
  player : t.player = s.player
  seed : t.stream.seed = s.stream.seed

theorem Continues.refl (s : Session) : Continues s s := ⟨rfl, rfl, rfl, rfl⟩

theorem Continues.trans {s t u : Session} (h : Continues s t) (h' : Continues t u) :
    Continues s u :=
  ⟨h'.config.trans h.config, h'.catalog.trans h.catalog, h'.player.trans h.player,
    h'.seed.trans h.seed⟩

theorem continues_pass (s : Session) (lapsed : Option StoryletId) :
    Continues s (s.pass lapsed) := by
  obtain ⟨after, ho, hp⟩ := s.exists_pass_outcome lapsed
  rw [hp]
  refine ⟨rfl, rfl, rfl, ?_⟩
  cases ho with
  | busy => rfl
  | barren => rfl
  | declined => exact (Stream.after_skip s.stream 1).seed
  | opened => exact (Stream.after_skip s.stream 2).seed

theorem continues_elapse (s : Session) (ticks : UInt64) : Continues s (s.elapse ticks) := by
  refine ⟨config_elapse .., catalog_elapse .., player_elapse .., ?_⟩
  rw [stream_elapse]

theorem continues_advanced (s : Session) (ticks : UInt64) : Continues s (s.advanced ticks) :=
  (continues_elapse s ticks).trans (continues_pass _ _)

theorem continues_stepped (s : Session) (ticks : UInt64) : Continues s (s.stepped ticks) := by
  have h := continues_advanced s.beginOperation ticks
  exact ⟨h.config, h.catalog, h.player, h.seed⟩

theorem continues_settle (s : Session) (t : Storylet) (c : Choice) :
    Continues s (s.beginOperation.settle t c) :=
  ⟨rfl, rfl, rfl, (after_settle s.beginOperation t c).seed⟩

theorem continues_chosen (s : Session) (t : Storylet) (c : Choice) (ticks : UInt64) :
    Continues s (s.chosen t c ticks) := by
  have hf : Continues (s.beginOperation.settle t c)
      ((s.beginOperation.settle t c).follow ticks) := by
    unfold follow
    split
    · exact Continues.refl _
    · exact continues_advanced _ _
  have h := (continues_settle s t c).trans hf
  exact ⟨h.config, h.catalog, h.player, h.seed⟩

/-- Also a call that fails leaves a session of the same life. -/
theorem continues_call (s : Session) (c : Call) : Continues s (s.call c).2 := by
  cases c with
  | step n =>
    show Continues s (s.step n).2
    have h := s.step_outcome n
    generalize s.step n = after at h
    cases h with
    | refused => exact Continues.refl s
    | made => exact continues_stepped ..
    | crashed =>
      have h := continues_elapse s.beginOperation n.toUInt64
      exact ⟨h.config, h.catalog, h.player, h.seed⟩
  | choose storylet choice n =>
    show Continues s (s.choose storylet choice n).2
    have h := s.choose_outcome storylet choice n
    generalize s.choose storylet choice n = after at h
    cases h with
    | refused => exact Continues.refl s
    | broken => exact ⟨rfl, rfl, rfl, rfl⟩
    | made => exact continues_chosen ..
    | crashed e t c => exact (continues_settle s t c).trans (continues_elapse _ _)

theorem continues_of_after? {s t : Session} {c : Call} (h : s.after? c = some t) :
    Continues s t := by
  rw [← snd_call_of_after? h]
  exact continues_call s c

theorem continues_run (s : Session) (calls : List Call) : Continues s (s.run calls) :=
  run_induct Continues.refl (fun _ _ _ _ after ih => (continues_of_after? after).trans ih) s calls

/-! ## A small game

One storylet with two choices, whose event opens as soon as the game starts. -/

def getUp : Choice where
  id := "get_up"
  label := "Get back up"
  stats := [⟨.health, -2, 1⟩]
  relationships := [⟨"mira", .trust, 2⟩]
  karma := 3
  heat := 12

def scrapedKnee : Storylet where
  id := "scraped_knee"
  title := "Scraped Knee"
  intensity := 1
  choices := [getUp, { id := "sit", label := "Sit a while" }]

def kneeCatalog : Catalog := .of [scrapedKnee] [⟨"mira", "Mira"⟩] (by decide)

def kneePlayer : Player := ⟨"Alex", none, .storyteller, .harsh, false⟩

def kneeConfig : Config := { activationChance := 1 }

def kneeGame : Session := (fresh 42 kneePlayer kneeCatalog kneeConfig).pass none

/-- The first two calls fail: the choice is not offered, and the ticks are negative. -/
def kneeCalls : List Call :=
  [.choose "scraped_knee" "run_home" 5, .step (-1), .choose "scraped_knee" "get_up" 30, .step 200]

theorem accepted_kneeCatalog : kneeCatalog.Accepted := ⟨[scrapedKnee], [⟨"mira", "Mira"⟩], rfl⟩

theorem start_kneeGame : start 42 kneePlayer kneeCatalog kneeConfig = .ok kneeGame := rfl

theorem reachable_kneeGame : kneeGame.Reachable := .start accepted_kneeCatalog start_kneeGame

theorem hourFits_kneeGame (ticks : UInt64) : (kneeGame.clock.advance ticks).HourFits := by
  have hclock : kneeGame.clock = kneeConfig.clock := clock_pass ..
  apply Clock.hourFits_of_usual
  rw [Clock.ticksPerDay_advance, hclock]
  decide

theorem looksAfter_kneeGame (ticks : UInt64) : kneeGame.LooksAfter ticks :=
  fun _ => hourFits_kneeGame ticks

theorem active_kneeGame :
    kneeGame.director.active = some ⟨"scraped_knee", ["get_up", "sit"], 0, 72⟩ := by
  decide +kernel

theorem offers_kneeGame :
    kneeGame.Offers ⟨"scraped_knee", ["get_up", "sit"], 0, 72⟩ scrapedKnee getUp where
  active := active_kneeGame
  storylet := rfl
  choice := by decide
  get? := by
    rw [show kneeGame.catalog = kneeCatalog from (continues_pass ..).catalog]
    rfl
  choice? := rfl

end Session

end LifeStory
