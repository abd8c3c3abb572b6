import LifeStory.Session.Snapshot
import LifeStory.Proofs.Session.Calendar

/-!
# What is displayed

The choices that are displayed are looked up in the catalog, while a choice that is made is checked
against the ids that the active event holds. In a reachable session the two agree: the choices on
display are those that can be made, and a call that names anything else is refused with the first
reason there is. Only the ticks after a choice that can be made may lead to an hour that cannot be
read, and then the call crashes (`crash_of_shown`).

    e.FitsIn catalog →
      ∃ shown, EventView.of? e catalog = some shown ∧ shown shows what e offers     (exists_of?)
    s.Reachable → (s.choose storylet choice n).1 = s.verdict storylet choice n      (choose_eq_verdict)
-/

namespace LifeStory

namespace EventView

/-- The view of an event that was opened for a storylet of the catalog shows what it offers. -/
theorem exists_of? {catalog : Catalog} {e : ActiveEvent} (h : e.FitsIn catalog) :
    ∃ shown, EventView.of? e catalog = some shown ∧ shown.storylet = e.storylet ∧
      shown.choices.map ChoiceView.id = e.offered := by
  obtain ⟨t, ht, hid, -, hsub⟩ := h
  have hget : catalog.get? e.storylet = some t := by
    rw [hid]
    exact Catalog.get?_of_mem ht
  unfold EventView.of?
  rw [hget]
  refine ⟨_, rfl, hid.symm, ?_⟩
  show ((e.offered.filterMap t.choice?).map fun c => (⟨c.id, c.label⟩ : ChoiceView)).map
    ChoiceView.id = _
  rw [List.map_map]
  exact Storylet.map_id_filterMap_choice? fun id hid => hsub.mem hid

end EventView

namespace Session

/-! ## The display -/

theorem availableChoices_of_idle {s : Session} (h : s.director.active = none) :
    s.availableChoices = [] := by
  unfold availableChoices currentEvent
  rw [h]
  rfl

theorem Reachable.currentEvent {s : Session} (h : s.Reachable) {e : ActiveEvent}
    (ha : s.director.active = some e) :
    ∃ shown, s.currentEvent = some shown ∧ shown.storylet = e.storylet ∧
      shown.choices.map ChoiceView.id = e.offered := by
  unfold Session.currentEvent
  rw [ha]
  exact EventView.exists_of? (h.activeFits e ha)

/-- The choices on display are the ones that the active event offers. -/
theorem Reachable.map_id_availableChoices {s : Session} (h : s.Reachable) {e : ActiveEvent}
    (ha : s.director.active = some e) : s.availableChoices.map ChoiceView.id = e.offered := by
  obtain ⟨shown, hs, -, ho⟩ := h.currentEvent ha
  unfold availableChoices
  rw [hs]
  exact ho

theorem Reachable.availableChoices_ne_nil_iff {s : Session} (h : s.Reachable) :
    s.availableChoices ≠ [] ↔ s.director.state = .eventActive := by
  unfold Director.state
  cases ha : s.director.active with
  | none =>
    rw [availableChoices_of_idle ha]
    simp
  | some e =>
    obtain ⟨-, -, -, hne, -⟩ := h.activeFits e ha
    rw [← h.map_id_availableChoices ha, Ne, List.map_eq_nil_iff] at hne
    simp [hne]

/-! ## Choices -/

instance (s : Session) (ticks : UInt64) : Decidable (s.LooksAfter ticks) :=
  inferInstanceAs (Decidable (ticks ≠ 0 → (s.clock.advance ticks).HourFits))

/-- What the display says of a choice: it is accepted, or there is a first reason against it. -/
def verdict (s : Session) (storylet : StoryletId) (choice : ChoiceId) (ticksAfter : Int64) :
    Except Failure Unit :=
  match s.director.active with
  | none => .error (.refused .noActiveEvent)
  | some e =>
    if storylet ≠ e.storylet then .error (.refused (.eventMismatch e.storylet storylet))
    else if choice ∉ s.availableChoices.map ChoiceView.id then
      .error (.refused (.invalidChoice e.storylet choice))
    else if ticksAfter < 0 then
      .error (.refused (.argument (.negativeTicks "ticks_after" ticksAfter)))
    else if s.LooksAfter ticksAfter.toUInt64 then .ok ()
    else .error (.crashed .hourOverflow)

theorem choose_eq_verdict {s : Session} (h : s.Reachable) (storylet : StoryletId)
    (choice : ChoiceId) (n : Int64) :
    (s.choose storylet choice n).1 = s.verdict storylet choice n := by
  unfold verdict
  cases ha : s.director.active with
  | none =>
    have hv : s.director.validate storylet choice = .error .noActiveEvent := by
      unfold Director.validate
      rw [ha]
    rw [choose_of_invalid hv]
  | some e =>
    dsimp only
    rw [h.map_id_availableChoices ha]
    by_cases hs : e.storylet = storylet
    · subst hs
      rw [if_neg (not_not_intro rfl)]
      by_cases ho : choice ∈ e.offered
      · have hv : s.director.validate e.storylet choice = .ok e :=
          Director.validate_eq_ok_iff.2 ⟨ha, rfl, ho⟩
        rw [if_neg (not_not_intro ho)]
        by_cases hn : n < 0
        · rw [if_pos hn, choose_of_neg hv hn]
        · obtain ⟨t, c, hoff, rfl⟩ := h.offers ha ho
          rw [if_neg hn, hoff.storylet]
          have nonneg := Int64.not_lt.1 hn
          by_cases hlooks : s.LooksAfter n.toUInt64
          · rw [if_pos hlooks, choose_of_offers hoff nonneg hlooks]
          · rw [if_neg hlooks, choose_of_not_looks hoff nonneg hlooks]
      · have hv : s.director.validate e.storylet choice =
            .error (.invalidChoice e.storylet choice) := by
          unfold Director.validate ActiveEvent.offers
          rw [ha]
          simp [ho]
        rw [if_pos ho, choose_of_invalid hv]
    · have hv : s.director.validate storylet choice =
          .error (.eventMismatch e.storylet storylet) := by
        unfold Director.validate
        rw [ha]
        exact if_pos hs
      rw [if_pos (Ne.symm hs), choose_of_invalid hv]

theorem verdict_eq_ok_iff {s : Session} (h : s.Reachable) (storylet : StoryletId)
    (choice : ChoiceId) (n : Int64) :
    s.verdict storylet choice n = .ok () ↔
      s.director.state = .eventActive ∧
      (∃ shown, s.currentEvent = some shown ∧ storylet = shown.storylet) ∧
      choice ∈ s.availableChoices.map ChoiceView.id ∧ 0 ≤ n ∧ s.LooksAfter n.toUInt64 := by
  unfold verdict Director.state
  cases ha : s.director.active with
  | none => simp
  | some e =>
    obtain ⟨shown, hs, hid, -⟩ := h.currentEvent ha
    dsimp only
    rw [hs, ← hid]
    constructor
    · intro hok
      split_ifs at hok with hne hmem hneg hlooks
      exact ⟨rfl, ⟨shown, rfl, not_not.1 hne⟩, hmem, Int64.not_lt.1 hneg, hlooks⟩
    · rintro ⟨-, ⟨_, ⟨⟩, hst⟩, hmem, hn, hlooks⟩
      rw [if_neg (not_not_intro hst), if_neg (not_not_intro hmem), if_neg (Int64.not_lt.2 hn),
        if_pos hlooks]

/-- What is on display can be chosen, and nothing else can. A choice is made exactly if an event is
active, it is the one that is named, the choice is on display, the ticks are not negative, and the
hour can be read that they lead to, if there are any; else the answer is the first reason against
it, and without a reason but the hour it is a crash. There is something on display exactly while an event
is active: each choice that the event offers, once, in the order of the content. -/
theorem chosen_iff_shown {s : Session} (h : s.Reachable) :
    (∀ storylet choice n,
      ((s.choose storylet choice n).1 = .ok () ↔
        s.director.state = .eventActive ∧
        (∃ shown, s.currentEvent = some shown ∧ storylet = shown.storylet) ∧
        choice ∈ s.availableChoices.map ChoiceView.id ∧ 0 ≤ n ∧ s.LooksAfter n.toUInt64) ∧
      (s.choose storylet choice n).1 = s.verdict storylet choice n) ∧
    (s.availableChoices ≠ [] ↔ s.director.state = .eventActive) ∧
    ∀ e, s.director.active = some e →
      s.availableChoices.map ChoiceView.id = e.offered ∧ e.offered.Nodup ∧
      ∃ t, s.catalog.get? e.storylet = some t ∧ e.offered.Sublist (t.choices.map Choice.id) := by
  refine ⟨?_, h.availableChoices_ne_nil_iff, ?_⟩
  · intro storylet choice n
    have hv := choose_eq_verdict h storylet choice n
    rw [hv]
    exact ⟨verdict_eq_ok_iff h storylet choice n, rfl⟩
  · intro e ha
    obtain ⟨t, ht, hid, -, hsub⟩ := h.activeFits e ha
    refine ⟨h.map_id_availableChoices ha, hsub.nodup (h.accepted.nodup_choices ht), t, ?_, hsub⟩
    rw [hid]
    exact Catalog.get?_of_mem ht

/-- The knee game: a choice that is on display, and one reason after the other. -/
theorem chosen_iff_shown_kneeGame :
    kneeGame.availableChoices.map ChoiceView.id = ["get_up", "sit"] ∧
    (kneeGame.choose "scraped_knee" "sit" 0).1 = .ok () ∧
    (kneeGame.choose "chores" "sit" (-1)).1 =
      .error (.refused (.eventMismatch "scraped_knee" "chores")) ∧
    (kneeGame.choose "scraped_knee" "run_home" (-1)).1 =
      .error (.refused (.invalidChoice "scraped_knee" "run_home")) ∧
    (kneeGame.choose "scraped_knee" "sit" (-1)).1 =
      .error (.refused (.argument (.negativeTicks "ticks_after" (-1)))) := by
  obtain ⟨hanswer, -, hshown⟩ := chosen_iff_shown reachable_kneeGame
  obtain ⟨hids, -⟩ := hshown _ active_kneeGame
  refine ⟨hids, ?_, ?_, ?_, ?_⟩
  all_goals
    rw [(hanswer _ _ _).2]
    unfold verdict
    rw [active_kneeGame, hids]
    rfl

/-- The knee game on the long day. -/
def longKneeConfig : Config := { longDayConfig with activationChance := 1 }

def longKneeGame : Session := (fresh 42 kneePlayer kneeCatalog longKneeConfig).pass none

/-- On the long day, what is on display cannot be chosen with the ticks until noon: the call
crashes. -/
theorem crash_of_shown :
    start 42 kneePlayer kneeCatalog longKneeConfig = .ok longKneeGame ∧
    longKneeGame.director.state = .eventActive ∧
    (∃ shown, longKneeGame.currentEvent = some shown ∧ shown.storylet = "scraped_knee") ∧
    "sit" ∈ longKneeGame.availableChoices.map ChoiceView.id ∧
    (0 : Int64) ≤ 0x4000000000000000 ∧
    (longKneeGame.choose "scraped_knee" "sit" 0x4000000000000000).1 =
      .error (.crashed .hourOverflow) := by
  have hstart : start 42 kneePlayer kneeCatalog longKneeConfig = .ok longKneeGame := rfl
  have hr : longKneeGame.Reachable := .start accepted_kneeCatalog hstart
  have hactive : longKneeGame.director.active =
      some ⟨"scraped_knee", ["get_up", "sit"], 0, 72⟩ := by
    decide +kernel
  obtain ⟨shown, hshown, hid, -⟩ := hr.currentEvent hactive
  have hids := hr.map_id_availableChoices hactive
  have hblind : ¬longKneeGame.LooksAfter (Int64.toUInt64 0x4000000000000000) := by
    decide +kernel
  refine ⟨hstart, ?_, ⟨shown, hshown, hid⟩, ?_, by decide, ?_⟩
  · unfold Director.state
    rw [hactive]
  · rw [hids]
    decide
  · rw [choose_eq_verdict hr]
    unfold verdict
    rw [hactive, hids]
    dsimp only
    rw [if_neg (by decide), if_neg (by decide), if_neg (by decide), if_neg hblind]

end Session

end LifeStory
