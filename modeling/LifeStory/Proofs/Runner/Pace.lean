import LifeStory.Runner.Life
import LifeStory.Proofs.Session.Audit
import LifeStory.Proofs.Session.Display
import LifeStory.Proofs.Session.Playable
import LifeStory.Proofs.Toml.Integers

/-!
# The pace of a life without a player

A policy picks from what is on display, so the session takes the choice. No time passes with it, so
the director does not look and nothing is open any more: a day has one choice at most, and the
bound on the choices of a day plays no part. Then the ticks of a day pass. A day ends where the
clock shows midnight, or at its greatest tick: only there the hour may be one that cannot be read,
and only there a day crashes.

    c.Paced → ((c.advance c.ticksPerDay).HourFits ↔
      c.tick.toNat + c.ticksPerDay.toNat ≤ 0xFFFFFFFFFFFFFFFF ∨ c.atEnd.HourFits)
                                                                         (hourFits_advance_day_iff)
    s.Reachable → what is open is resolved, with any bound but zero      (exists_resolved)
    s.Reachable → the day ends as the session after it, or crashes       (exists_playDay)
    s.Reachable → the days are lived with their picks                    (exists_playDays)
    Lived s picks t → the journal of the days is that of their picks     (Lived.entries)
-/

namespace LifeStory

namespace Clock

/-- The clock at its greatest tick. -/
def atEnd (c : Clock) : Clock := { c with tick := 0xFFFFFFFFFFFFFFFF }

/-- The clock stands at the start of a day, or at its greatest tick. -/
def Paced (c : Clock) : Prop := c.tickOfDay.toNat = 0 ∨ c.tick.toNat = 0xFFFFFFFFFFFFFFFF

section Day

variable {c : Clock} (pos : 0 < c.ticksPerDay.toNat)

theorem advance_day_of_past (past : 0xFFFFFFFFFFFFFFFF < c.tick.toNat + c.ticksPerDay.toNat) :
    c.advance c.ticksPerDay = c.atEnd := by
  have htick : (c.advance c.ticksPerDay).tick = c.atEnd.tick := by
    rw [← UInt64.toNat_inj, toNat_tick_advance]
    show min _ _ = 0xFFFFFFFFFFFFFFFF
    omega
  show { c with tick := (c.advance c.ticksPerDay).tick } = { c with tick := c.atEnd.tick }
  rw [htick]

include pos

/-- A day that starts at midnight ends there. -/
theorem toNat_tickOfDay_advance_day (paced : c.Paced)
    (within : c.tick.toNat + c.ticksPerDay.toNat ≤ 0xFFFFFFFFFFFFFFFF) :
    (c.advance c.ticksPerDay).tickOfDay.toNat = 0 := by
  obtain hzero | hlast := paced
  · rw [toNat_tickOfDay] at hzero ⊢
    rw [toNat_tick_advance, Nat.min_eq_left within]
    show (c.tick.toNat + c.ticksPerDay.toNat) % c.ticksPerDay.toNat = 0
    rw [Nat.add_mod_right, hzero]
  · omega

theorem Paced.advance_day (paced : c.Paced) : (c.advance c.ticksPerDay).Paced := by
  by_cases hle : c.tick.toNat + c.ticksPerDay.toNat ≤ 0xFFFFFFFFFFFFFFFF
  · exact .inl (toNat_tickOfDay_advance_day pos paced hle)
  · rw [advance_day_of_past (Nat.lt_of_not_le hle)]
    exact .inr rfl

/-- The hour at the end of a day can be read, unless the clock has come to its greatest tick, and
then it is the hour of that. -/
theorem hourFits_advance_day_iff (paced : c.Paced) :
    (c.advance c.ticksPerDay).HourFits ↔
      c.tick.toNat + c.ticksPerDay.toNat ≤ 0xFFFFFFFFFFFFFFFF ∨ c.atEnd.HourFits := by
  by_cases hle : c.tick.toNat + c.ticksPerDay.toNat ≤ 0xFFFFFFFFFFFFFFFF
  · refine iff_of_true ?_ (.inl hle)
    unfold HourFits
    rw [toNat_tickOfDay_advance_day pos paced hle]
    decide
  · rw [advance_day_of_past (Nat.lt_of_not_le hle), or_iff_right hle]

end Day

end Clock

namespace Runner

open LifeStory.Random (Stream)

/-- A choice that a policy makes. -/
structure Pick where
  storylet : StoryletId
  choice : ChoiceId

/-- What a day adds to the journal: the choice of the day, if there is one, and the ticks. -/
def dayEntries (ticks : UInt64) : Option Pick → List JournalEntry
  | none => [.step ticks]
  | some pick => [.choose pick.storylet pick.choice 0, .step ticks]

/-- `t` is the session `s` after what was open is resolved: nothing, or the active event by one of
the choices that it offers. -/
inductive Resolved (s : Session) : Option Pick → Session → Prop
  | idle (idle : s.director.active = none) : Resolved s none s
  | chosen {e : ActiveEvent} {t : Storylet} {c : Choice} (offers : s.Offers e t c) :
      Resolved s (some ⟨t.id, c.id⟩) (s.chosen t c 0)

/-- The first session is left as the last one by some days, on each of which the pick resolves what
is open in the morning. -/
inductive Lived : Session → List (Option Pick) → Session → Prop
  | nil (s : Session) : Lived s [] s
  | day {s t u : Session} {pick : Option Pick} {picks : List (Option Pick)}
      (resolved : Resolved s pick t) (rest : Lived (t.stepped s.config.ticksPerDay) picks u) :
      Lived s (pick :: picks) u

/-! ## Policies -/

/-- A policy picks something if there is anything. -/
theorem Policy.exists_pick (p : Policy) {choices : List ChoiceView} (h : choices ≠ [])
    (stream : Stream) : ∃ c ∈ choices, (p.pick choices stream).1 = some c := by
  obtain ⟨first, rest, rfl⟩ := List.exists_cons_of_ne_nil h
  cases p with
  | first => exact ⟨first, List.mem_cons_self, rfl⟩
  | random =>
    have hlt : (stream.below (first :: rest).length).1 < (first :: rest).length :=
      Stream.below_lt (List.length_pos_iff.2 h) stream
    exact ⟨_, List.getElem_mem hlt, List.getElem?_eq_getElem hlt⟩

/-! ## Resolving -/

/-- Without ticks after it a choice asks for no hour. -/
theorem looksAfter_zero (s : Session) : s.LooksAfter (Int64.toUInt64 0) := fun h => absurd rfl h

theorem resolveOpen_of_idle (p : Policy) {s : Session} (h : s.director.active = none) (n : Nat)
    (stream : Stream) : resolveOpen p n s stream = .ok (s, stream) := by
  have hnone : s.currentEvent = none := by
    unfold Session.currentEvent
    rw [h]
    rfl
  cases n with
  | zero => rfl
  | succ n =>
    unfold resolveOpen
    rw [hnone]

namespace Resolved

variable {s t : Session} {pick : Option Pick}

/-- Nothing is open any more: the director does not look where no time passes. -/
theorem active (h : Resolved s pick t) : t.director.active = none := by
  cases h with
  | idle idle => exact idle
  | chosen => rfl

theorem reachable (h : Resolved s pick t) (before : s.Reachable) : t.Reachable := by
  cases h with
  | idle => exact before
  | @chosen e t c offers =>
    have hcall : s.call (.choose t.id c.id 0) = (.ok (), s.chosen t c 0) :=
      Session.choose_of_offers offers (Int64.le_refl 0) (looksAfter_zero s)
    exact before.call _ (Session.after?_of_ok hcall)

theorem continues (h : Resolved s pick t) : Session.Continues s t := by
  cases h with
  | idle => exact .refl s
  | chosen => exact Session.continues_chosen ..

theorem config_stepped (h : Resolved s pick t) (ticks : UInt64) :
    (t.stepped ticks).config = s.config :=
  (Session.continues_stepped ..).config.trans h.continues.config

theorem clock (h : Resolved s pick t) : t.clock = s.clock := by
  cases h with
  | idle => rfl
  | chosen => rw [Session.clock_chosen, Clock.advance_zero]

theorem entries_stepped (h : Resolved s pick t) (ticks : UInt64) :
    (t.stepped ticks).journal.entries = s.journal.entries ++ dayEntries ticks pick := by
  rw [Session.entries_stepped]
  cases h with
  | idle => rfl
  | chosen =>
    rw [Session.entries_chosen, List.append_assoc]
    rfl

end Resolved

/-- The policy picks what the session takes, and the second look finds nothing open. -/
theorem exists_resolved (p : Policy) {s : Session} (h : s.Reachable) (stream : Stream) :
    ∃ pick t after, Resolved s pick t ∧
      ∀ n, 0 < n → resolveOpen p n s stream = .ok (t, after) := by
  cases hactive : s.director.active with
  | none =>
    exact ⟨none, s, stream, .idle hactive, fun n _ => resolveOpen_of_idle p hactive n stream⟩
  | some e =>
    obtain ⟨shown, hshown, hid, hchoices⟩ := h.currentEvent hactive
    obtain ⟨-, -, -, hne, -⟩ := h.activeFits e hactive
    rw [← hchoices, Ne, List.map_eq_nil_iff] at hne
    obtain ⟨view, hview, hpick⟩ := p.exists_pick hne stream
    have hoffered : view.id ∈ e.offered := by
      rw [← hchoices]
      exact List.mem_map_of_mem hview
    obtain ⟨t, c, offers, hc⟩ := h.offers hactive hoffered
    have hresolved := Resolved.chosen offers
    refine ⟨_, _, (p.pick shown.choices stream).2, hresolved, fun n hn => ?_⟩
    obtain ⟨n, rfl⟩ := Nat.exists_eq_succ_of_ne_zero (Nat.ne_of_gt hn)
    have hpair : p.pick shown.choices stream = (some view, (p.pick shown.choices stream).2) :=
      Prod.ext hpick rfl
    unfold resolveOpen
    rw [hshown]
    dsimp only
    rw [hpair, hid, offers.storylet]
    dsimp only
    rw [hc, Session.choose_of_offers offers (Int64.le_refl 0) (looksAfter_zero s)]
    exact resolveOpen_of_idle p hresolved.active n _

/-! ## Days -/

theorem dayTicks_nonneg {config : Config} (fits : config.ticksPerDay.toNat < 0x8000000000000000) :
    0 ≤ dayTicks config := by
  unfold dayTicks
  rw [if_pos fits]
  exact toInt64_nonneg fits

theorem toUInt64_dayTicks {config : Config} (fits : config.ticksPerDay.toNat < 0x8000000000000000) :
    (dayTicks config).toUInt64 = config.ticksPerDay := by
  unfold dayTicks
  rw [if_pos fits]
  exact UInt64.toUInt64_toInt64 _

section Days

variable {s : Session} (h : s.Reachable)
  (fits : s.config.ticksPerDay.toNat < 0x8000000000000000)

include h fits

/-- What is open is resolved, then a day passes, unless the hour at its end cannot be read. -/
theorem exists_playDay (p : Policy) (stream : Stream) :
    ∃ pick t after, Resolved s pick t ∧
      ((s.clock.advance s.clock.ticksPerDay).HourFits →
        playDay p s stream = .ok (t.stepped s.config.ticksPerDay, after) ∧
          (t.stepped s.config.ticksPerDay).Reachable) ∧
      (¬(s.clock.advance s.clock.ticksPerDay).HourFits →
        playDay p s stream = .error (.crashed .hourOverflow)) := by
  obtain ⟨pick, t, after, hresolved, hopen⟩ := exists_resolved p h stream
  have hclock : t.clock.advance (dayTicks s.config).toUInt64 =
      s.clock.advance s.clock.ticksPerDay := by
    rw [hresolved.clock, toUInt64_dayTicks fits, h.ticksPerDay]
  refine ⟨pick, t, after, hresolved, ?_, ?_⟩
  · intro hfits
    rw [← hclock] at hfits
    have hstep := Session.step_of_fits (dayTicks_nonneg fits) hfits
    rw [toUInt64_dayTicks fits] at hstep
    constructor
    · unfold playDay
      rw [hopen choicesPerDay (by decide)]
      dsimp only
      rw [hresolved.continues.config, hstep]
    · have hcall : t.call (.step (dayTicks s.config)) =
          (.ok (), t.stepped s.config.ticksPerDay) := hstep
      exact (hresolved.reachable h).call _ (Session.after?_of_ok hcall)
  · intro hover
    rw [← hclock] at hover
    unfold playDay
    rw [hopen choicesPerDay (by decide)]
    dsimp only
    rw [hresolved.continues.config, Session.step_of_not_fits (dayTicks_nonneg fits) hover]

/-- Days that end before the greatest tick, or at it if its hour can be read, are lived; others
crash. -/
theorem exists_playDays (p : Policy) (paced : s.clock.Paced) (days : Nat) (stream : Stream) :
    (s.clock.tick.toNat + days * s.config.ticksPerDay.toNat ≤ 0xFFFFFFFFFFFFFFFF ∨
        s.clock.atEnd.HourFits →
      ∃ t picks, playDays p days s stream = .ok t ∧ t.Reachable ∧ Lived s picks t ∧
        picks.length = days) ∧
    (¬(s.clock.tick.toNat + days * s.config.ticksPerDay.toNat ≤ 0xFFFFFFFFFFFFFFFF ∨
        s.clock.atEnd.HourFits) →
      playDays p days s stream = .error (.crashed .hourOverflow)) := by
  induction days generalizing s stream with
  | zero =>
    refine ⟨fun _ => ⟨s, [], rfl, h, .nil s, rfl⟩, fun hover => ?_⟩
    have hlt := s.clock.tick.toNat_lt
    exact absurd (.inl (by omega)) hover
  | succ days ih =>
    obtain ⟨pick, t, after, hresolved, hday, hcrash⟩ := exists_playDay h fits p stream
    have hticks := h.ticksPerDay
    have hpos : 0 < s.clock.ticksPerDay.toNat := h.reads.ticksPerDay_pos
    have hiff := Clock.hourFits_advance_day_iff hpos paced
    have hnext : (t.stepped s.config.ticksPerDay).clock = s.clock.advance s.clock.ticksPerDay := by
      rw [Session.clock_stepped, hresolved.clock, hticks]
    have hconfig := hresolved.config_stepped s.config.ticksPerDay
    have htick := s.clock.toNat_tick_advance s.clock.ticksPerDay
    by_cases hfits : (s.clock.advance s.clock.ticksPerDay).HourFits
    · obtain ⟨hplay, hreach⟩ := hday hfits
      have hrest := ih hreach (by rwa [hconfig]) (by rw [hnext]; exact paced.advance_day hpos) after
      rw [hnext, hconfig, htick] at hrest
      -- the clock runs on by a day, or stands at its greatest tick, whose hour can be read then
      have hsame : min (s.clock.tick.toNat + s.clock.ticksPerDay.toNat) 0xFFFFFFFFFFFFFFFF +
            days * s.config.ticksPerDay.toNat ≤ 0xFFFFFFFFFFFFFFFF ∨
            (s.clock.advance s.clock.ticksPerDay).atEnd.HourFits ↔
          s.clock.tick.toNat + (days + 1) * s.config.ticksPerDay.toNat ≤ 0xFFFFFFFFFFFFFFFF ∨
            s.clock.atEnd.HourFits := by
        obtain hle | hend := hiff.1 hfits
        · rw [Nat.min_eq_left hle, Nat.succ_mul, hticks, Nat.add_assoc,
            Nat.add_comm s.config.ticksPerDay.toNat]
          rfl
        · exact iff_of_true (.inr hend) (.inr hend)
      rw [hsame] at hrest
      refine ⟨fun hwithin => ?_, fun hover => ?_⟩
      · obtain ⟨u, picks, hdays, hu, hlived, hlength⟩ := hrest.1 hwithin
        refine ⟨u, pick :: picks, ?_, hu, .day hresolved hlived, by rw [List.length_cons, hlength]⟩
        unfold playDays
        rw [hplay]
        exact hdays
      · unfold playDays
        rw [hplay]
        exact hrest.2 hover
    · refine ⟨fun hwithin => ?_, fun _ => ?_⟩
      · rw [hiff, not_or, hticks] at hfits
        obtain hle | hend := hwithin
        · rw [Nat.succ_mul] at hle
          omega
        · exact absurd hend hfits.2
      · unfold playDays
        rw [hcrash hfits]

end Days

/-! ## What the days leave -/

section Entries

variable (ticks : UInt64) (picks : List (Option Pick))

/-- Each day has one entry of passing time. -/
theorem filter_steps_dayEntries :
    (picks.flatMap (dayEntries ticks)).filter (fun e => !e.isChoice) =
      List.replicate picks.length (.step ticks) := by
  induction picks with
  | nil => rfl
  | cons pick picks ih =>
    rw [List.flatMap_cons, List.filter_append, ih, List.length_cons, List.replicate_succ]
    cases pick <;> rfl

theorem countP_dayEntries_le :
    (picks.flatMap (dayEntries ticks)).countP JournalEntry.isChoice ≤ picks.length := by
  induction picks with
  | nil => exact Nat.le_refl 0
  | cons pick picks ih =>
    have hday : (dayEntries ticks pick).countP JournalEntry.isChoice ≤ 1 := by
      cases pick with
      | none => exact Nat.zero_le 1
      | some pick => exact Nat.le_refl 1
    rw [List.flatMap_cons, List.countP_append, List.length_cons]
    omega

end Entries

namespace Lived

variable {s t : Session} {picks : List (Option Pick)}

/-- Each day adds its pick and its ticks to the journal. -/
theorem entries (h : Lived s picks t) :
    t.journal.entries = s.journal.entries ++ picks.flatMap (dayEntries s.config.ticksPerDay) := by
  induction h with
  | nil s => exact (List.append_nil _).symm
  | @day s t u pick picks resolved rest ih =>
    rw [ih, resolved.config_stepped, resolved.entries_stepped, List.flatMap_cons, List.append_assoc]

/-- The clock is as many days on, or at its greatest tick. -/
theorem toNat_tick (h : Lived s picks t) :
    t.clock.tick.toNat =
      min (s.clock.tick.toNat + picks.length * s.config.ticksPerDay.toNat) 0xFFFFFFFFFFFFFFFF := by
  induction h with
  | nil s =>
    have hlt := s.clock.tick.toNat_lt
    show _ = min (_ + 0 * _) _
    omega
  | @day s t u pick picks resolved rest ih =>
    rw [ih, resolved.config_stepped, Session.clock_stepped, resolved.clock,
      Clock.toNat_tick_advance, List.length_cons, Nat.succ_mul]
    omega

end Lived

/-! ## Lives -/

section Life

variable (p : Policy) (days : Nat) (seed : UInt64) {player : Player} {catalog : Catalog}
  {config : Config} (sound : player.fault? = none) (valid : config.Valid)

include sound valid in
/-- Where there is no room for what a session keeps, no life starts. -/
theorem playLife_of_not_roomy (narrow : ¬config.Roomy) :
    playLife p days seed player catalog config = .error (.crashed .capacityOverflow) := by
  have valid : config.fault? = none := valid
  unfold playLife
  rw [Session.start_eq, valid, sound]
  dsimp only
  rw [if_neg narrow]

variable (accepted : catalog.Accepted) (fits : config.ticksPerDay.toNat < 0x8000000000000000)
  (roomy : config.Roomy)

include sound valid accepted fits roomy

/-- A life is its days, from the start of the game on. -/
theorem exists_playLife :
    let s := (Session.fresh seed player catalog config).pass none
    (days * config.ticksPerDay.toNat ≤ 0xFFFFFFFFFFFFFFFF ∨ config.clock.atEnd.HourFits →
      ∃ t picks, playLife p days seed player catalog config = .ok t ∧ t.Reachable ∧
        Lived s picks t ∧ picks.length = days) ∧
    (¬(days * config.ticksPerDay.toNat ≤ 0xFFFFFFFFFFFFFFFF ∨ config.clock.atEnd.HourFits) →
      playLife p days seed player catalog config = .error (.crashed .hourOverflow)) := by
  intro s
  have hstart : Session.start seed player catalog config = .ok s :=
    Session.start_eq_ok_iff.2 ⟨valid, sound, roomy, rfl⟩
  have hplay : playLife p days seed player catalog config =
      playDays p days s (policyStream seed) := by
    unfold playLife
    rw [hstart]
  have hconfig : s.config = config := (Session.continues_pass ..).config
  have hclock : s.clock = config.clock := Session.clock_pass ..
  have hdays := exists_playDays (.start accepted hstart) (by rwa [hconfig]) p
    (by rw [hclock]; exact .inl (UInt64.toNat_mod 0 config.clock.ticksPerDay ▸ Nat.zero_mod _))
    days (policyStream seed)
  rw [hconfig, hclock, show config.clock.tick.toNat = 0 from rfl, Nat.zero_add] at hdays
  rw [hplay]
  exact hdays

end Life

/-- A life of some days is played to its end where there is room for what a session keeps, and where
its last day ends before the greatest tick, or the hour of that can be read; else it crashes. The
clock is then that many days on, or at its greatest tick; the journal has for each day one choice at
most, which the event that was open offered and which takes no time, and then the ticks of the day.
Each choice resolved a storylet. No day comes to the bound on its choices: with any other bound but
zero, what is open is resolved in the same way. Every configuration that a document writes has such
days. -/
theorem playLife_paced (p : Policy) (days : Nat) (seed : UInt64) {player : Player}
    {catalog : Catalog} {config : Config} (sound : player.fault? = none)
    (accepted : catalog.Accepted) (valid : config.Valid)
    (fits : config.ticksPerDay.toNat < 0x8000000000000000) :
    (¬config.Roomy →
      playLife p days seed player catalog config = .error (.crashed .capacityOverflow)) ∧
    (config.Roomy →
      ¬(days * config.ticksPerDay.toNat ≤ 0xFFFFFFFFFFFFFFFF ∨ config.clock.atEnd.HourFits) →
      playLife p days seed player catalog config = .error (.crashed .hourOverflow)) ∧
    (config.Roomy →
      days * config.ticksPerDay.toNat ≤ 0xFFFFFFFFFFFFFFFF ∨ config.clock.atEnd.HourFits →
      ∃ s picks, playLife p days seed player catalog config = .ok s ∧
        s.clock.tick.toNat = min (days * config.ticksPerDay.toNat) 0xFFFFFFFFFFFFFFFF ∧
        Lived ((Session.fresh seed player catalog config).pass none) picks s ∧
        picks.length = days ∧
        s.journal.entries = picks.flatMap (dayEntries config.ticksPerDay) ∧
        s.journal.entries.filter (fun e => !e.isChoice) =
          List.replicate days (.step config.ticksPerDay) ∧
        s.director.history.resolvedCount = s.journal.entries.countP JournalEntry.isChoice ∧
        s.director.history.resolvedCount ≤ days) ∧
    (∀ s : Session, s.Reachable → ∀ stream n, 0 < n →
      resolveOpen p n s stream = resolveOpen p choicesPerDay s stream) ∧
    ∀ text written, Config.ofDocument text = .ok written →
      written.ticksPerDay.toNat < 0x8000000000000000 := by
  refine ⟨playLife_of_not_roomy p days seed sound valid, fun roomy =>
    (exists_playLife p days seed sound valid accepted fits roomy).2, ?_, ?_,
    fun _ _ h => Config.ticksPerDay_lt_of_document h⟩
  · intro roomy within
    obtain ⟨s, picks, hplay, hs, hlived, hlength⟩ :=
      (exists_playLife p days seed sound valid accepted fits roomy).1 within
    have hconfig : ((Session.fresh seed player catalog config).pass none).config = config :=
      (Session.continues_pass ..).config
    have hentries : s.journal.entries = picks.flatMap (dayEntries config.ticksPerDay) := by
      have h := hlived.entries
      rw [hconfig] at h
      exact h
    have hcount := Session.resolvedCount_eq_countP hs
    refine ⟨s, picks, hplay, ?_, hlived, hlength, hentries, ?_, hcount, ?_⟩
    · have htick := hlived.toNat_tick
      rw [hconfig, Session.clock_pass, hlength] at htick
      rw [htick]
      show min (0 + _) _ = _
      rw [Nat.zero_add]
    · rw [hentries, filter_steps_dayEntries, hlength]
    · rw [hcount, hentries, ← hlength]
      exact countP_dayEntries_le ..
  · intro s hs stream n hn
    obtain ⟨pick, t, after, -, hopen⟩ := exists_resolved p hs stream
    rw [hopen n hn, hopen choicesPerDay (by decide)]

/-- Nine days at home with choices drawn at random. -/
theorem playLife_paced_homeGame :
    ∃ s picks,
      playLife .random 9 5 Session.kneePlayer Session.homeCatalog Session.homeConfig = .ok s ∧
      Lived Session.homeGame picks s ∧ s.clock.tick.toNat = 216 ∧
      s.journal.entries.filter (fun e => !e.isChoice) = List.replicate 9 (.step 24) ∧
      s.director.history.resolvedCount = 2 := by
  obtain ⟨-, -, hlife, -⟩ :=
    @playLife_paced .random 9 5 Session.kneePlayer Session.homeCatalog Session.homeConfig rfl
      Session.accepted_homeCatalog rfl (by decide)
  obtain ⟨s, picks, hplay, htick, hlived, -, -, hsteps, -⟩ := hlife (by decide) (by decide)
  refine ⟨s, picks, hplay, hlived, htick, hsteps, ?_⟩
  have hresolved : (match playLife .random 9 5 Session.kneePlayer Session.homeCatalog
      Session.homeConfig with
    | .ok s => s.director.history.resolvedCount
    | .error _ => 0) = 2 := by
    decide +kernel
  rw [hplay] at hresolved
  exact hresolved

/-! ## Lives that crash -/

/-- Days so long that the third one does not end before the greatest tick. -/
def longDaysConfig : Config := { ticksPerDay := 0x7000000000000000, daysPerYear := 1 }

/-- More storylets are to be remembered than there can be room for. -/
def crowdedConfig : Config := { historyLength := 0x7FFFFFFFFFFFFFFF }

theorem crash_of_life :
    longDaysConfig.Valid ∧ crowdedConfig.Valid ∧
    playLife .first 3 5 Session.kneePlayer .empty longDaysConfig =
      .error (.crashed .hourOverflow) ∧
    playLife .first 3 5 Session.kneePlayer .empty crowdedConfig =
      .error (.crashed .capacityOverflow) := by
  refine ⟨rfl, rfl, ?_, playLife_of_not_roomy .first 3 5 rfl rfl (by decide)⟩
  have valid : longDaysConfig.Valid := rfl
  exact (exists_playLife .first 3 5 rfl valid Catalog.accepted_empty (by decide) (by decide)).2
    (by decide)

end Runner

end LifeStory
