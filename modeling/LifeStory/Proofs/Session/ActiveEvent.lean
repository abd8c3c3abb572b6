import LifeStory.Proofs.Session.Run

/-!
# Active events of reachable sessions

The catalog of a reachable session is accepted, and its active event was opened for a storylet of
the catalog (`ActiveFits`). So a choice that the event offers is always found, and a call of a
reachable session is refused and leaves the session as it was, or ends in `stepped` or `chosen`, or
crashes since the hour that it reaches cannot be read.

    s.Reachable → s.ActiveFits                                               (activeFits)
    s.Reachable → s.CallOutcome c (s.call c)                                 (call_outcome)
    s.Reachable → s.clock.HourFits                                           (hourFits)

`Reachable.induct` is the induction over these outcomes: what holds of every started game and is
kept by `stepped` and `chosen` holds of every reachable session. `Reachable.of_moves` is for what
each move of an operation keeps.
-/

namespace LifeStory

/-- The event was opened for a storylet of the catalog: it offers some of the choices, in order. -/
def ActiveEvent.FitsIn (e : ActiveEvent) (catalog : Catalog) : Prop :=
  ∃ t ∈ catalog.storylets, e.storylet = t.id ∧ e.offered ≠ [] ∧
    e.offered.Sublist (t.choices.map Choice.id)

theorem Candidate.event_fitsIn {d : Director} {catalog : Catalog} {situation : Situation}
    {c : Candidate} (h : c ∈ d.eligible catalog situation) (now : Tick) (config : Config) :
    (c.event now config).FitsIn catalog := by
  obtain ⟨hs, -, ho, hne⟩ := (Director.mem_eligible_iff c).1 h
  refine ⟨c.storylet, hs, rfl, hne, ?_⟩
  show c.offered.Sublist _
  rw [ho]
  exact List.filter_sublist.map _

namespace Session

/-- The active event, if there is one, was opened for a storylet of the catalog. -/
def ActiveFits (s : Session) : Prop := ∀ e, s.director.active = some e → e.FitsIn s.catalog

/-! ## Moves -/

theorem ActiveFits.pass {s : Session} (h : s.ActiveFits) (lapsed : Option StoryletId) :
    (s.pass lapsed).ActiveFits := by
  obtain ⟨after, ho, hp⟩ := s.exists_pass_outcome lapsed
  rw [hp]
  intro e he
  cases ho with
  | busy => exact h e he
  | barren => exact h e he
  | declined => exact h e he
  | opened c _ hc =>
    cases he
    exact Candidate.event_fitsIn hc ..

theorem ActiveFits.elapse {s : Session} (h : s.ActiveFits) (ticks : UInt64) :
    (s.elapse ticks).ActiveFits := by
  intro e he
  rw [catalog_elapse]
  exact h e (active_elapse he)

theorem ActiveFits.advanced {s : Session} (h : s.ActiveFits) (ticks : UInt64) :
    (s.advanced ticks).ActiveFits :=
  (h.elapse ticks).pass _

theorem ActiveFits.stepped {s : Session} (h : s.ActiveFits) (ticks : UInt64) :
    (s.stepped ticks).ActiveFits :=
  ActiveFits.advanced (s := s.beginOperation) h ticks

theorem activeFits_settle (s : Session) (t : Storylet) (c : Choice) :
    (s.settle t c).ActiveFits := by
  intro e he
  cases he

theorem activeFits_chosen (s : Session) (t : Storylet) (c : Choice) (ticks : UInt64) :
    (s.chosen t c ticks).ActiveFits := by
  have h : (s.beginOperation.settle t c).ActiveFits := activeFits_settle _ t c
  show ((s.beginOperation.settle t c).follow ticks).ActiveFits
  unfold follow
  split
  · exact h
  · exact h.advanced ticks

/-! ## Reachable sessions -/

theorem Reachable.accepted {s : Session} (h : s.Reachable) : s.catalog.Accepted := by
  induction h with
  | start accepted started =>
    obtain ⟨-, -, -, rfl⟩ := start_eq_ok_iff.1 started
    exact accepted
  | call before c after ih =>
    rw [(continues_of_after? after).catalog]
    exact ih

theorem Reachable.activeFits {s : Session} (h : s.Reachable) : s.ActiveFits := by
  induction h with
  | start accepted started =>
    obtain ⟨-, -, -, rfl⟩ := start_eq_ok_iff.1 started
    apply ActiveFits.pass
    intro e he
    cases he
  | @call s t before c after ih =>
    cases c with
    | step n =>
      have ho := s.step_outcome n
      generalize hcall : s.step n = result at ho
      rw [← snd_call_of_after? after, show (s.call (.step n)).2 = result.2 from congrArg _ hcall]
      cases ho with
      | refused => exact ih
      | made => exact ih.stepped _
      | crashed => exact ActiveFits.elapse (s := s.beginOperation) ih _
    | choose storylet choice n =>
      have ho := s.choose_outcome storylet choice n
      generalize hcall : s.choose storylet choice n = result at ho
      have hafter : (s.call (.choose storylet choice n)).2 = result.2 := congrArg _ hcall
      rw [← snd_call_of_after? after, hafter]
      cases ho with
      | refused => exact ih
      | broken => exact ih
      | made e t c => exact activeFits_chosen s t c _
      | crashed e t c => exact (activeFits_settle _ t c).elapse _

/-- What the active event offers is in the catalog. -/
theorem Reachable.offers {s : Session} (h : s.Reachable) {e : ActiveEvent}
    (ha : s.director.active = some e) {choice : ChoiceId} (ho : choice ∈ e.offered) :
    ∃ t c, s.Offers e t c ∧ choice = c.id := by
  obtain ⟨t, ht, hid, -, hsub⟩ := h.activeFits e ha
  obtain ⟨c, hc⟩ := Storylet.exists_choice? (hsub.mem ho)
  obtain rfl := Storylet.id_of_choice?_eq_some hc
  exact ⟨t, c, ⟨ha, hid, ho, Catalog.get?_of_mem ht, hc⟩, rfl⟩

/-- The ways in which a call of a reachable session ends. -/
inductive CallOutcome (s : Session) : Call → Except Failure Unit × Session → Prop
  | failed (c : Call) (fault : GameError) : CallOutcome s c (.error (.refused fault), s)
  | stepped (n : Int64) (nonneg : 0 ≤ n) (fits : (s.clock.advance n.toUInt64).HourFits) :
      CallOutcome s (.step n) (.ok (), s.stepped n.toUInt64)
  | chosen (e : ActiveEvent) (t : Storylet) (c : Choice) (n : Int64) (offers : s.Offers e t c)
      (nonneg : 0 ≤ n) (looks : s.LooksAfter n.toUInt64) :
      CallOutcome s (.choose t.id c.id n) (.ok (), s.chosen t c n.toUInt64)
  | crashed (c : Call) (left : Session) : CallOutcome s c (.error (.crashed .hourOverflow), left)

theorem Reachable.call_outcome {s : Session} (h : s.Reachable) (c : Call) :
    s.CallOutcome c (s.call c) := by
  cases c with
  | step n =>
    show s.CallOutcome _ (s.step n)
    have ho := s.step_outcome n
    generalize s.step n = after at ho
    cases ho with
    | refused => exact .failed ..
    | made nonneg fits => exact .stepped n nonneg fits
    | crashed => exact .crashed ..
  | choose storylet choice n =>
    show s.CallOutcome _ (s.choose storylet choice n)
    have ho := s.choose_outcome storylet choice n
    generalize s.choose storylet choice n = after at ho
    cases ho with
    | refused fault => exact .failed _ fault
    | broken fault e active offered missing =>
      obtain ⟨t, c, hoff, rfl⟩ := h.offers active offered
      exact absurd hoff.choice? (missing t c (by rw [hoff.storylet]; exact hoff.get?))
    | made e t c offers hs hc nonneg looks =>
      subst hs hc
      exact .chosen e t c n offers nonneg looks
    | crashed => exact .crashed ..

/-- A call of a reachable session is refused and changes nothing, or succeeds, or crashes. -/
theorem Reachable.call_cases {s : Session} (h : s.Reachable) (c : Call) :
    (∃ fault, s.call c = (.error (.refused fault), s)) ∨ (∃ t, s.call c = (.ok (), t)) ∨
      ∃ left, s.call c = (.error (.crashed .hourOverflow), left) := by
  have ho := h.call_outcome c
  generalize s.call c = result at ho
  cases ho with
  | failed c fault => exact .inl ⟨fault, rfl⟩
  | stepped => exact .inr (.inl ⟨_, rfl⟩)
  | chosen => exact .inr (.inl ⟨_, rfl⟩)
  | crashed c left => exact .inr (.inr ⟨left, rfl⟩)

/-- The ways in which a call leaves a session of the same run. -/
inductive LeadsTo (s : Session) : Call → Session → Prop
  | failed (c : Call) : LeadsTo s c s
  | stepped (n : Int64) (nonneg : 0 ≤ n) (fits : (s.clock.advance n.toUInt64).HourFits) :
      LeadsTo s (.step n) (s.stepped n.toUInt64)
  | chosen (e : ActiveEvent) (t : Storylet) (c : Choice) (n : Int64) (offers : s.Offers e t c)
      (nonneg : 0 ≤ n) (looks : s.LooksAfter n.toUInt64) :
      LeadsTo s (.choose t.id c.id n) (s.chosen t c n.toUInt64)

theorem Reachable.leadsTo {s t : Session} (h : s.Reachable) {c : Call}
    (after : s.after? c = some t) : s.LeadsTo c t := by
  have ho := h.call_outcome c
  unfold after? at after
  generalize s.call c = result at ho after
  cases ho with
  | failed =>
    cases after
    exact .failed c
  | stepped n nonneg fits =>
    cases after
    exact .stepped n nonneg fits
  | chosen e t c n offers nonneg looks =>
    cases after
    exact .chosen e t c n offers nonneg looks
  | crashed => cases after

/-- Induction over the operations that succeed. -/
theorem Reachable.induct {P : (s : Session) → s.Reachable → Prop}
    (start : ∀ seed player catalog config h, catalog.Accepted → Config.Valid config →
      P ((fresh seed player catalog config).pass none) h)
    (stepped : ∀ s n h h', P s h → P (s.stepped n) h')
    (chosen : ∀ s e t c n h h', P s h → s.Offers e t c → P (s.chosen t c n) h')
    {s : Session} (h : s.Reachable) : P s h := by
  induction h with
  | start accepted started =>
    obtain ⟨valid, -, -, rfl⟩ := start_eq_ok_iff.1 started
    exact start _ _ _ _ _ accepted valid
  | @call s t before c after ih =>
    cases before.leadsTo after with
    | failed => exact ih
    | stepped n => exact stepped s _ before _ ih
    | chosen e t c n offers => exact chosen s e t c _ before _ ih offers

/-- A session is left where its hour can be read. -/
theorem Reachable.hourFits {s : Session} (h : s.Reachable) : s.clock.HourFits := by
  induction h with
  | start accepted started =>
    obtain ⟨-, -, -, rfl⟩ := start_eq_ok_iff.1 started
    exact hourFits_clock _
  | @call s t before c after ih =>
    cases before.leadsTo after with
    | failed => exact ih
    | stepped n nonneg fits =>
      rw [clock_stepped]
      exact fits
    | chosen e t c n offers nonneg looks =>
      rw [clock_chosen]
      by_cases hzero : n.toUInt64 = 0
      · rw [hzero, Clock.advance_zero]
        exact ih
      · exact looks hzero

/-- What a started game has, and every move keeps, each reachable session has. -/
theorem Reachable.of_moves {P : Session → Prop}
    (start : ∀ seed player catalog config, P ((fresh seed player catalog config).pass none))
    (beginOperation : ∀ s, P s → P s.beginOperation)
    (advanced : ∀ s ticks, P s → P (s.advanced ticks))
    (settle : ∀ s t c, P s → P (s.settle t c))
    (record : ∀ s entry, P s → P (s.record entry))
    {s : Session} (h : s.Reachable) : P s := by
  induction h using Reachable.induct with
  | start seed player catalog config => exact start seed player catalog config
  | stepped s n _ _ ih => exact record _ _ (advanced _ n (beginOperation s ih))
  | chosen s e t c n _ _ ih =>
    have hsettled := settle _ t c (beginOperation s ih)
    refine record _ _ ?_
    unfold follow
    split
    · exact hsettled
    · exact advanced _ n hsettled

end Session

end LifeStory
