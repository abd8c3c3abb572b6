import LifeStory.Proofs.Calendar.Clock
import LifeStory.Proofs.Session.Cooldown
import LifeStory.Proofs.Session.Once

/-!
# Open events

What is known of an event while it is open (`Shows`). It was opened for a storylet of the catalog
and offers some of its choices; its window began by now and is not over, since an event whose window
is over closes before anything is shown; and the gates that the storylet passed still hold: what was
told since keeps it back no more than then, and whether the player wants mature content never
changes.

    catalog.Accepted → config.Valid → t ∈ catalog.storylets → 0 < t.window config   (window_pos)
    s.Reachable → s.Keeps                                                (Reachable.keeps)
    s.Reachable → s.director.active = some e → ∃ t, s.Shows e t          (shows_of_active)
-/

namespace LifeStory

theorem Config.Valid.defaultEventHours_ne_zero {config : Config} (h : config.Valid) :
    config.defaultEventHours ≠ 0 := by
  intro h₀
  unfold Config.Valid Config.fault? at h
  split at h
  · cases h
  · split at h
    · cases h
    · split at h
      · cases h
      · split_ifs at h

theorem Catalog.Accepted.durationHours_ne_zero {catalog : Catalog} (h : catalog.Accepted)
    {t : Storylet} (mem : t ∈ catalog.storylets) : t.durationHours ≠ some 0 :=
  (h.lawful.storylet t mem).duration

/-- How long an event of the storylet stays open. -/
def Storylet.window (t : Storylet) (config : Config) : UInt64 :=
  t.durationHours.getD config.defaultEventHours

/-- The window of an event is not empty. -/
theorem Storylet.window_pos {catalog : Catalog} (accepted : catalog.Accepted) {config : Config}
    (valid : config.Valid) {t : Storylet} (mem : t ∈ catalog.storylets) :
    0 < (t.window config).toNat := by
  have hne : t.window config ≠ 0 := by
    unfold window
    cases hd : t.durationHours with
    | none => exact valid.defaultEventHours_ne_zero
    | some hours =>
      intro h₀
      change hours = 0 at h₀
      rw [h₀] at hd
      exact accepted.durationHours_ne_zero mem hd
  rw [Ne, ← UInt64.toNat_inj] at hne
  exact Nat.pos_of_ne_zero hne

/-- The event was opened for the storylet; its window is that of the storylet, and not over yet
unless the clock stands still. -/
structure ActiveEvent.Within (e : ActiveEvent) (t : Storylet) (config : Config) (player : Player)
    (now : Tick) : Prop where
  activatedAt : e.activatedAt ≤ now
  expiresAt : e.expiresAt.toNat =
    min (e.activatedAt.toNat + (t.window config).toNat) Clock.lastTick.toNat
  pending : now < e.expiresAt ∨ now = Clock.lastTick
  mature : t.mature = true → player.contentMode = true

theorem Candidate.event_within {catalog : Catalog} (accepted : catalog.Accepted) {config : Config}
    (valid : config.Valid) {c : Candidate} (mem : c.storylet ∈ catalog.storylets)
    {player : Player} (mature : c.storylet.mature = true → player.contentMode = true)
    (now : Tick) : (c.event now config).Within c.storylet config player now := by
  have hexp : (c.event now config).expiresAt.toNat =
      min (now.toNat + (c.storylet.window config).toNat) Clock.lastTick.toNat :=
    Word.toNat_satAdd now _
  refine ⟨UInt64.le_refl _, hexp, ?_, mature⟩
  have hpos := Storylet.window_pos accepted valid mem
  have hlt := now.toNat_lt
  have hlast : Clock.lastTick.toNat = 0xFFFFFFFFFFFFFFFF := rfl
  rw [UInt64.lt_iff_toNat_lt, hexp, ← UInt64.toNat_inj, hlast]
  omega

/-- An event that has not lapsed by some later tick is still within its window then. -/
theorem ActiveEvent.Within.later {e : ActiveEvent} {t : Storylet} {config : Config}
    {player : Player} {now later : Tick} (h : e.Within t config player now) (le : now ≤ later)
    (standing : later < e.expiresAt) : e.Within t config player later :=
  ⟨UInt64.le_trans h.activatedAt le, h.expiresAt, .inl standing, h.mature⟩

namespace Session

/-- What is known of an event that is open in a session, and of its storylet. -/
structure Shows (s : Session) (e : ActiveEvent) (t : Storylet) : Prop
    extends e.Within t s.config s.player s.clock.tick where
  get? : s.catalog.get? e.storylet = some t
  offered : e.offered ≠ [] ∧ e.offered.Nodup ∧ e.offered.Sublist (t.choices.map Choice.id)
  recent : e.storylet ∉ s.director.history.recent
  once : t.once = true → s.director.history.wasResolved e.storylet = false ∧ s.uses e.storylet = 0

/-! ## Windows -/

/-- The session stands within the window of its open event, if there is one. -/
def Keeps (s : Session) : Prop :=
  ∀ e, s.director.active = some e →
    ∃ t ∈ s.catalog.storylets, t.id = e.storylet ∧ e.Within t s.config s.player s.clock.tick

/-- An event that opens has its whole window before it, as far as the clock goes. -/
theorem Keeps.pass {s : Session} (h : s.Keeps) (accepted : s.catalog.Accepted)
    (valid : s.config.Valid) (lapsed : Option StoryletId) : (s.pass lapsed).Keeps := by
  obtain ⟨after, ho, hp⟩ := s.exists_pass_outcome lapsed
  rw [hp]
  intro e he
  cases ho with
  | busy => exact h e he
  | barren => exact h e he
  | declined => exact h e he
  | opened c _ eligible =>
    cases he
    obtain ⟨mem, admits, -, -⟩ := (Director.mem_eligible_iff c).1 eligible
    have mature := (Director.admits_iff.1 admits).1
    exact ⟨c.storylet, mem, rfl, Candidate.event_within accepted valid mem mature s.clock.tick⟩

/-- While time passes, an event that stays open stays within its window. -/
theorem Keeps.elapse {s : Session} (h : s.Keeps) (ticks : UInt64) : (s.elapse ticks).Keeps := by
  intro e he
  have active : s.director.active = some e := active_elapse he
  obtain ⟨t, mem, hid, within⟩ := h e active
  obtain ⟨standing, -⟩ | ⟨_, -, -, hd⟩ := s.director_elapse_cases ticks
  · rw [Director.lapsing_of_active active] at standing
    split_ifs at standing with hdue
    rw [catalog_elapse, config_elapse, player_elapse, clock_elapse]
    exact ⟨t, mem, hid, within.later (s.clock.tick_le_advance ticks) (UInt64.not_le.1 hdue)⟩
  · rw [hd] at he
    cases he

theorem Keeps.advanced {s : Session} (h : s.Keeps) (accepted : s.catalog.Accepted)
    (valid : s.config.Valid) (ticks : UInt64) : (s.advanced ticks).Keeps := by
  refine (h.elapse ticks).pass ?_ ?_ _
  · rw [catalog_elapse]
    exact accepted
  · rw [config_elapse]
    exact valid

theorem keeps_settle (s : Session) (t : Storylet) (c : Choice) : (s.settle t c).Keeps := by
  intro e he
  cases he

theorem Reachable.valid {s : Session} (h : s.Reachable) : s.config.Valid := by
  induction h using Reachable.induct with
  | start seed player catalog config _ _ valid => exact valid
  | stepped s n _ _ ih =>
    rw [(continues_stepped s n).config]
    exact ih
  | chosen s e t c n _ _ ih =>
    rw [(continues_chosen s t c n).config]
    exact ih

theorem Reachable.keeps {s : Session} (h : s.Reachable) : s.Keeps := by
  induction h using Reachable.induct with
  | start seed player catalog config _ accepted valid =>
    refine Keeps.pass ?_ accepted valid none
    intro e he
    cases he
  | stepped s n hs _ ih => exact Keeps.advanced (s := s.beginOperation) ih hs.accepted hs.valid n
  | chosen s e t c n hs _ ih offers =>
    show ((s.beginOperation.settle t c).follow n).Keeps
    unfold follow
    split
    · exact keeps_settle _ t c
    · exact (keeps_settle s.beginOperation t c).advanced hs.accepted hs.valid n

/-! ## Open events -/

/-- An event that is open was opened for a storylet of the catalog. It offers choices of it, at
least one and none twice, in order; it opened by now and closes when its window is over, which is
still to come unless the clock stands still; and its storylet has not finished lately, was not
resolved if it happens once, and is mature only where the player wants that. -/
theorem shows_of_active {s : Session} (h : s.Reachable) {e : ActiveEvent}
    (active : s.director.active = some e) : ∃ t, s.Shows e t := by
  obtain ⟨t, mem, hid, within⟩ := h.keeps e active
  have hget : s.catalog.get? e.storylet = some t := by
    rw [← hid]
    exact Catalog.get?_of_mem mem
  obtain ⟨u, hu, hoffered, hne, hsub⟩ := h.activeFits e active
  obtain rfl : u = t := by
    rw [hoffered, Catalog.get?_of_mem hu] at hget
    exact Option.some.inj hget
  obtain ⟨v, hv, hfree, _, free⟩ := h.free_of_active active
  obtain rfl : v = u := by
    rw [← hfree, Catalog.get?_of_mem hv] at hget
    exact Option.some.inj hget
  refine ⟨v, within, hget, ⟨hne, hsub.nodup (h.accepted.nodup_choices hv), hsub⟩, ?_, ?_⟩
  · rw [← hfree]
    exact free.recent
  · intro once
    rw [← hfree]
    exact ⟨free.once once, h.uses_of_active hv once active hfree.symm⟩

/-- At home: the tooth lapsed once, and is open again right after the chores were done. -/
theorem shows_of_active_homeGame :
    let s := homeGame.run [.step 72, .choose "chores" "do_them" 1]
    s.director.active = some ⟨"lost_tooth", ["pillow"], 73, 145⟩ ∧
    ∃ t, s.Shows ⟨"lost_tooth", ["pillow"], 73, 145⟩ t := by
  intro s
  have hr : s.Reachable := (Reachable.start accepted_homeCatalog start_homeGame).run _
  have active : s.director.active = some ⟨"lost_tooth", ["pillow"], 73, 145⟩ := by decide +kernel
  exact ⟨active, shows_of_active hr active⟩

end Session

end LifeStory
