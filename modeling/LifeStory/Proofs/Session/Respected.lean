import LifeStory.Proofs.Session.Replay

/-!
# Maps that the operations respect

To compare two lives call by call, one session is written as the image of the other under a map, and
it is shown that every part of an operation may be done before the map or after it. Then the same
holds of calls, of runs, and of entries that are performed again. That time may pass before the map
or after it follows from the parts of its passing (`advance_of_parts`); since the map leaves the
clock, the two sessions crash at the same hours.

    Respected f P → P s → (f s).call c = ((s.call c).1, f (s.call c).2)          (Respected.call)
    Respected f P → P s → (f s).run calls = f (s.run calls)                      (Respected.run)
    Respected f P → P s → (f s).performAll es = (s.performAll es).map f          (Respected.performAll)
-/

namespace LifeStory

open LifeStory.Random (Stream)

/-! ## Catalogs that agree -/

namespace Director

variable (d : Director)

/-- An event looks the same in two catalogs that have the same storylet for it. -/
theorem expire_congr {c c' : Catalog}
    (h : ∀ e, d.active = some e → c'.get? e.storylet = c.get? e.storylet) (memories : MemoryLog)
    (now : Tick) : d.expire c' memories now = d.expire c memories now := by
  unfold expire lapseText
  cases ha : d.active with
  | none => rfl
  | some e =>
    dsimp only
    rw [h e ha]

/-- So does a choice, if the characters are called the same too. -/
theorem resolve_congr {c c' : Catalog}
    (h : ∀ e, d.active = some e → c'.get? e.storylet = c.get? e.storylet)
    (hnames : ∀ id, c'.npcName? id = c.npcName? id) (storylet : StoryletId) (choice : ChoiceId)
    (config : Config) (difficulty : Difficulty) (now : Tick) (world : World) (stream : Stream) :
    d.resolve c' storylet choice config difficulty now world stream =
      d.resolve c storylet choice config difficulty now world stream := by
  have hname : applyRelationship c' = applyRelationship c := by
    funext g delta
    unfold applyRelationship
    rw [hnames]
  unfold resolve applyChoice
  rw [hname]
  cases hv : d.validate storylet choice with
  | error fault => rfl
  | ok e =>
    dsimp only [bind, Except.bind]
    rw [h e (validate_eq_ok_iff.1 hv).1]

end Director

namespace Session

/-! ## Parts of operations -/

/-- Two sessions whose directors do the same on a pass. -/
theorem pass_congr {s t : Session} {lapsed : Option StoryletId}
    (h : t.director.pass t.catalog (t.situation lapsed) t.config t.stream =
      s.director.pass s.catalog (s.situation lapsed) s.config s.stream) :
    t.pass lapsed =
      { t with director := (s.pass lapsed).director, stream := (s.pass lapsed).stream } := by
  unfold pass
  rw [h]

/-- Two sessions whose directors do the same when events expire, but for what is remembered. -/
theorem expire_congr {s t : Session} {memories : MemoryLog}
    (h : t.director.expire t.catalog t.world.memories t.clock.tick =
      ((s.director.expire s.catalog s.world.memories s.clock.tick).1, memories,
        (s.director.expire s.catalog s.world.memories s.clock.tick).2.2)) :
    t.expire =
      ({ t with director := s.expire.1.director, world := { t.world with memories } },
        s.expire.2) := by
  unfold expire
  rw [h]

/-- Also where time cannot pass to its end, it passes on the same catalog. -/
theorem catalog_advance (s : Session) (ticks : UInt64) : (s.advance ticks).2.catalog = s.catalog := by
  rw [advance_eq]
  unfold look
  split
  · exact (continues_advanced s ticks).catalog
  · exact catalog_elapse s ticks

/-- The director may look before a map or after it if it may do its pass. -/
theorem look_of_pass {f : Session → Session} {s : Session} {lapsed : Option StoryletId}
    (clock : (f s).clock = s.clock) (pass : (f s).pass lapsed = f (s.pass lapsed)) :
    (f s).look lapsed = ((s.look lapsed).1, f (s.look lapsed).2) := by
  unfold look
  rw [clock]
  split
  · rw [pass]
  · rfl

/-- Time may pass before a map or after it if the parts of its passing may. -/
theorem advance_of_parts {f : Session → Session} {s : Session} {ticks : UInt64}
    (clock : ∀ t : Session, (f t).clock = t.clock)
    (setClock : ∀ clock, { f s with clock } = f { s with clock })
    (spendDays : ∀ (t : Session) (days : UInt64), (f t).spendDays days = f (t.spendDays days))
    (expire : ∀ clock days, (f ({ s with clock }.spendDays days)).expire =
      (f ({ s with clock }.spendDays days).expire.1, ({ s with clock }.spendDays days).expire.2))
    (pass : ∀ lapsed, (f (s.elapse ticks)).pass lapsed = f ((s.elapse ticks).pass lapsed)) :
    (f s).advance ticks = ((s.advance ticks).1, f (s.advance ticks).2) := by
  unfold advance
  dsimp only
  rw [clock, setClock, spendDays, expire]
  exact look_of_pass (clock _) (pass _)

/-- The session after a choice took effect, before time passes. -/
def resolve (s : Session) (storylet : StoryletId) (choice : ChoiceId) : Except GameError Session :=
  (s.director.resolve s.catalog storylet choice s.config s.player.difficulty s.clock.tick s.world
    s.stream).map fun (director, world, stream) => { s with director, world, stream }

/-- A choice that takes effect ends the event, and leaves the catalog and the player. -/
theorem resolve_frame {s t : Session} {storylet : StoryletId} {choice : ChoiceId}
    (h : s.resolve storylet choice = .ok t) :
    t.catalog = s.catalog ∧ t.player = s.player ∧ t.director.active = none := by
  unfold resolve at h
  rw [Director.resolve_eq] at h
  cases hfind : s.director.find s.catalog storylet choice with
  | error fault =>
    rw [hfind] at h
    cases h
  | ok found =>
    rw [hfind] at h
    cases h
    exact ⟨rfl, rfl, rfl⟩

/-- Lets the ticks after a choice pass, if there are any. -/
def letPass (s : Session) (ticks : UInt64) : Except Failure Unit × Session :=
  if ticks = 0 then (.ok (), s) else s.advance ticks

/-- A choice is validated, takes effect, and is followed by its ticks. -/
theorem choose_eq (s : Session) (storylet : StoryletId) (choice : ChoiceId) (ticksAfter : Int64) :
    s.choose storylet choice ticksAfter =
      match s.director.validate storylet choice, checkTicks "ticks_after" ticksAfter with
      | .error e, _ => (.error (.refused e), s)
      | .ok _, .error e => (.error (.refused e), s)
      | .ok _, .ok n =>
        match s.beginOperation.resolve storylet choice with
        | .error e => (.error (.refused e), s.beginOperation)
        | .ok t => recorded (.choose storylet choice n) (t.letPass n) := by
  unfold choose resolve
  cases s.director.validate storylet choice with
  | error e => rfl
  | ok event =>
    cases checkTicks "ticks_after" ticksAfter with
    | error e => rfl
    | ok n =>
      dsimp only
      generalize s.beginOperation.director.resolve s.beginOperation.catalog storylet choice
        s.beginOperation.config s.beginOperation.player.difficulty s.beginOperation.clock.tick
        s.beginOperation.world s.beginOperation.stream = outcome
      cases outcome <;> rfl

/-! ## Respected maps -/

/-- On the sessions with `P`, every part of an operation may be done before `f` or after it, and
keeps `P`. -/
structure Respected (f : Session → Session) (P : Session → Prop) : Prop where
  director : ∀ s, (f s).director = s.director
  beginOperation : ∀ {s}, P s → P s.beginOperation ∧ (f s).beginOperation = f s.beginOperation
  resolve : ∀ {s}, P s → ∀ storylet choice,
    (∀ t, s.resolve storylet choice = .ok t → P t) ∧
    (f s).resolve storylet choice = (s.resolve storylet choice).map f
  advance : ∀ {s}, P s → ∀ ticks, P (s.advance ticks).2 ∧
    (f s).advance ticks = ((s.advance ticks).1, f (s.advance ticks).2)
  record : ∀ {s}, P s → ∀ entry, P (s.record entry) ∧ (f s).record entry = f (s.record entry)

namespace Respected

variable {f : Session → Session} {P : Session → Prop} {s : Session}

theorem letPass (h : Respected f P) (hs : P s) (ticks : UInt64) :
    P (s.letPass ticks).2 ∧
      (f s).letPass ticks = ((s.letPass ticks).1, f (s.letPass ticks).2) := by
  unfold Session.letPass
  split
  · exact ⟨hs, rfl⟩
  · exact h.advance hs ticks

theorem recorded (h : Respected f P) (entry : JournalEntry)
    {result result' : Except Failure Unit × Session} (hr : P result.2)
    (himage : result' = (result.1, f result.2)) :
    P (recorded entry result).2 ∧
      recorded entry result' = ((recorded entry result).1, f (recorded entry result).2) := by
  obtain ⟨answer, t⟩ := result
  subst himage
  cases answer with
  | error failure => exact ⟨hr, rfl⟩
  | ok _ =>
    obtain ⟨hrecorded, hrecord⟩ := h.record hr entry
    refine ⟨hrecorded, ?_⟩
    show (_, (f t).record entry) = _
    rw [hrecord]
    rfl

theorem step (h : Respected f P) (hs : P s) (ticks : Int64) :
    P (s.step ticks).2 ∧ (f s).step ticks = ((s.step ticks).1, f (s.step ticks).2) := by
  unfold Session.step
  cases checkTicks "ticks" ticks with
  | error e => exact ⟨hs, rfl⟩
  | ok n =>
    obtain ⟨hbegun, hbegin⟩ := h.beginOperation hs
    obtain ⟨hadvanced, hadvance⟩ := h.advance hbegun n
    dsimp only
    rw [hbegin]
    exact h.recorded (.step n) hadvanced hadvance

theorem choose (h : Respected f P) (hs : P s) (storylet : StoryletId) (choice : ChoiceId)
    (ticks : Int64) :
    P (s.choose storylet choice ticks).2 ∧
      (f s).choose storylet choice ticks =
        ((s.choose storylet choice ticks).1, f (s.choose storylet choice ticks).2) := by
  rw [choose_eq, choose_eq, h.director]
  cases s.director.validate storylet choice with
  | error e => exact ⟨hs, rfl⟩
  | ok event =>
    cases checkTicks "ticks_after" ticks with
    | error e => exact ⟨hs, rfl⟩
    | ok n =>
      obtain ⟨hbegun, hbegin⟩ := h.beginOperation hs
      obtain ⟨hresolved, hresolve⟩ := h.resolve hbegun storylet choice
      dsimp only
      rw [hbegin, hresolve]
      cases ht : s.beginOperation.resolve storylet choice with
      | error e => exact ⟨hbegun, rfl⟩
      | ok t =>
        obtain ⟨hpassed, hpass⟩ := h.letPass (hresolved t ht) n
        exact h.recorded (.choose storylet choice n) hpassed hpass

/-- The image answers a call as the session does, and becomes the image of what the session
becomes. -/
theorem call (h : Respected f P) (hs : P s) (c : Call) :
    P (s.call c).2 ∧ (f s).call c = ((s.call c).1, f (s.call c).2) := by
  cases c with
  | step ticks => exact h.step hs ticks
  | choose storylet choice ticks => exact h.choose hs storylet choice ticks

theorem after? (h : Respected f P) (hs : P s) (c : Call) :
    (∀ t, s.after? c = some t → P t) ∧ (f s).after? c = (s.after? c).map f := by
  obtain ⟨hcalled, hcall⟩ := h.call hs c
  constructor
  · intro t ht
    rw [← snd_call_of_after? ht]
    exact hcalled
  · unfold Session.after?
    rw [hcall]
    obtain ⟨answer, t⟩ := s.call c
    cases answer with
    | ok _ => rfl
    | error failure => cases failure <;> rfl

theorem run (h : Respected f P) (hs : P s) (calls : List Call) :
    P (s.run calls) ∧ (f s).run calls = f (s.run calls) := by
  induction calls generalizing s with
  | nil => exact ⟨hs, rfl⟩
  | cons c rest ih =>
    obtain ⟨hkept, hafter⟩ := h.after? hs c
    cases ht : s.after? c with
    | none =>
      rw [ht] at hafter
      rw [run_cons_of_none ht, run_cons_of_none hafter]
      exact ⟨hs, rfl⟩
    | some t =>
      rw [ht] at hafter
      rw [run_cons_of_some ht, run_cons_of_some hafter]
      exact ih (hkept t ht)

/-- An entry does to the image what it does to the session. -/
theorem perform (h : Respected f P) (hs : P s) (entry : JournalEntry) :
    (∀ t, s.perform entry = .ok t → P t) ∧ (f s).perform entry = (s.perform entry).map f := by
  have key : ∀ {result result' : Except Failure Unit × Session}, P result.2 →
      result' = (result.1, f result.2) →
      (∀ t, succeeded result = .ok t → P t) ∧ succeeded result' = (succeeded result).map f := by
    rintro ⟨answer, t⟩ result' ht rfl
    cases answer with
    | error e => exact ⟨fun t h => (by cases h), rfl⟩
    | ok u => exact ⟨fun t h => (by cases h; exact ht), rfl⟩
  unfold Session.perform
  cases entry with
  | step ticks =>
    dsimp only [bind, Except.bind]
    cases signTicks ticks with
    | error e => exact ⟨fun t h => (by cases h), rfl⟩
    | ok n =>
      obtain ⟨ht, hstep⟩ := h.step hs n
      exact key ht hstep
  | choose storylet choice ticks =>
    dsimp only [bind, Except.bind]
    cases signTicks ticks with
    | error e => exact ⟨fun t h => (by cases h), rfl⟩
    | ok n =>
      obtain ⟨ht, hchoose⟩ := h.choose hs storylet choice n
      exact key ht hchoose

theorem performAll (h : Respected f P) (hs : P s) (entries : List JournalEntry) :
    (f s).performAll entries = (s.performAll entries).map f := by
  induction entries generalizing s with
  | nil => rfl
  | cons entry rest ih =>
    obtain ⟨hperformed, hperform⟩ := h.perform hs entry
    show ((f s).perform entry).bind (fun t => t.performAll rest) =
      ((s.perform entry).bind fun t => t.performAll rest).map f
    rw [hperform]
    cases ht : s.perform entry with
    | error e => rfl
    | ok t => exact ih (hperformed t ht)

end Respected

end Session

end LifeStory
