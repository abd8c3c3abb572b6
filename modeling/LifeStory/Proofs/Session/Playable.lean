import LifeStory.Proofs.Session.Replay

/-!
# Journals that can be played

A journal may come from anywhere: it may be cut, edited, or written for other content. It plays to
the end exactly if it is the journal of a session that was lived on the catalog, and then that
session is what it plays to. Nothing is mended: an entry is done as it stands, or the whole journal
is refused. A session does an entry exactly if it admits it (`Admits`).

    s.Reachable → (s.perform entry = .ok t ↔ s.Admits entry ∧ s.call entry.call = (.ok (), t))
                                                                          (perform_eq_ok_iff)
    s.Reachable → s.performAll entries = .ok t →
      t.Reachable ∧ t.log = entries.reverse ++ s.log ∧
      s.callAll (entries.map JournalEntry.call) = .ok t                   (of_performAll)
    replay j catalog = .ok s ↔ s.Reachable ∧ s.catalog = catalog ∧ s.journal = j
                                                                          (replay_iff_reachable)
-/

namespace LifeStory

namespace JournalEntry

/-- The call that an entry records. -/
def call : JournalEntry → Call
  | step ticks => .step ticks.toInt64
  | choose storylet choice ticksAfter => .choose storylet choice ticksAfter.toInt64

/-- The tick count is one that an operation takes: as a word with a sign it is the same number. -/
def InRange (entry : JournalEntry) : Prop := entry.ticks.toNat < 0x8000000000000000

end JournalEntry

theorem toInt64_nonneg {ticks : UInt64} (h : ticks.toNat < 0x8000000000000000) :
    0 ≤ ticks.toInt64 := by
  have hn : ticks.toInt64.toInt = ticks.toNat := by
    show ticks.toBitVec.toInt = ticks.toBitVec.toNat
    apply BitVec.toInt_eq_toNat_of_lt
    show 2 * ticks.toNat < _
    omega
  rw [Int64.le_iff_toInt_le, hn]
  exact Int.natCast_nonneg _

namespace Session

/-- The session after some calls, unless one of them fails. -/
def callAll (s : Session) (calls : List Call) : Except Failure Session :=
  calls.foldlM (fun s c => succeeded (s.call c)) s

/-- What an entry records can be done in the session: its ticks are in range, and a choice is one
that the active event offers. -/
def Admits (s : Session) (entry : JournalEntry) : Prop :=
  entry.InRange ∧
    ∀ storylet choice ticks, entry = .choose storylet choice ticks →
      ∃ e, s.director.active = some e ∧ e.storylet = storylet ∧ choice ∈ e.offered

/-! ## Entries -/

theorem succeeded_eq_ok_iff {result : Except Failure Unit × Session} {t : Session} :
    succeeded result = .ok t ↔ result = (.ok (), t) := by
  obtain ⟨answer, u⟩ := result
  cases answer with
  | error fault =>
    constructor
    · intro h
      cases h
    · intro h
      cases h
  | ok _ =>
    constructor
    · rintro ⟨⟩
      rfl
    · rintro ⟨⟩
      rfl

/-- An entry is done by the call that it records. -/
theorem perform_of_inRange (s : Session) {entry : JournalEntry} (h : entry.InRange) :
    s.perform entry = succeeded (s.call entry.call) := by
  cases entry with
  | step ticks =>
    change ticks.toNat < _ at h
    unfold perform signTicks
    dsimp only
    rw [if_pos h]
    rfl
  | choose storylet choice ticks =>
    change ticks.toNat < _ at h
    unfold perform signTicks
    dsimp only
    rw [if_pos h]
    rfl

theorem perform_of_not_inRange (s : Session) {entry : JournalEntry} (h : ¬entry.InRange) :
    s.perform entry = .error (.refused (.argument (.journalTicks entry.ticks))) := by
  cases entry with
  | step ticks =>
    change ¬ticks.toNat < _ at h
    unfold perform signTicks
    dsimp only
    rw [if_neg h]
    rfl
  | choose storylet choice ticks =>
    change ¬ticks.toNat < _ at h
    unfold perform signTicks
    dsimp only
    rw [if_neg h]
    rfl

/-- A session does only what it admits. -/
theorem admits_of_call_eq_ok {s t : Session} (h : s.Reachable) {entry : JournalEntry}
    (inRange : entry.InRange) (hc : s.call entry.call = (.ok (), t)) : s.Admits entry := by
  refine ⟨inRange, ?_⟩
  rintro storylet choice ticks rfl
  have ho := h.call_outcome (.choose storylet choice ticks.toInt64)
  change s.call (.choose storylet choice ticks.toInt64) = _ at hc
  rw [hc] at ho
  cases ho with
  | chosen e t c n offers => exact ⟨e, offers.active, offers.storylet, offers.choice⟩

theorem perform_eq_ok_iff {s t : Session} (h : s.Reachable) {entry : JournalEntry} :
    s.perform entry = .ok t ↔ s.Admits entry ∧ s.call entry.call = (.ok (), t) := by
  by_cases inRange : entry.InRange
  · rw [perform_of_inRange s inRange, succeeded_eq_ok_iff]
    constructor
    · intro hc
      exact ⟨admits_of_call_eq_ok h inRange hc, hc⟩
    · rintro ⟨-, hc⟩
      exact hc
  · rw [perform_of_not_inRange s inRange]
    constructor
    · intro hp
      cases hp
    · rintro ⟨admits, -⟩
      exact absurd admits.1 inRange

/-- What was done is logged as it stood in the entry. -/
theorem log_of_call {s t : Session} (h : s.Reachable) {entry : JournalEntry}
    (hc : s.call entry.call = (.ok (), t)) : t.log = entry :: s.log := by
  have ho := h.call_outcome entry.call
  rw [hc] at ho
  generalize hcall : entry.call = c at ho
  cases ho with
  | stepped n nonneg =>
    cases entry with
    | step ticks =>
      cases hcall
      rw [log_stepped, UInt64.toUInt64_toInt64]
    | choose storylet choice ticks => cases hcall
  | chosen e t c n offers nonneg =>
    cases entry with
    | step ticks => cases hcall
    | choose storylet choice ticks =>
      cases hcall
      rw [log_chosen, UInt64.toUInt64_toInt64]

/-! ## Journals -/

/-- Entries that can be done lead on by the calls that they record, and each is logged again. -/
theorem of_performAll {s t : Session} (h : s.Reachable) {entries : List JournalEntry}
    (hp : s.performAll entries = .ok t) :
    t.Reachable ∧ t.log = entries.reverse ++ s.log ∧
      s.callAll (entries.map JournalEntry.call) = .ok t := by
  induction entries generalizing s with
  | nil =>
    cases hp
    exact ⟨h, rfl, rfl⟩
  | cons entry rest ih =>
    obtain ⟨u, hu, hrest⟩ := exists_of_bind_eq_ok hp
    obtain ⟨-, hc⟩ := (perform_eq_ok_iff h).1 hu
    have hur : u.Reachable := h.call entry.call (after?_of_ok hc)
    obtain ⟨ht, hlog, hcalls⟩ := ih hur hrest
    refine ⟨ht, ?_, ?_⟩
    · rw [hlog, log_of_call h hc, List.reverse_cons, List.append_assoc]
      rfl
    · show (succeeded (s.call entry.call)).bind (fun u => u.callAll _) = _
      rw [succeeded_eq_ok_iff.2 hc]
      exact hcalls

variable {j : Journal} {catalog : Catalog}

/-- What a journal plays to is a session that has it as its journal. -/
theorem of_replay (accepted : catalog.Accepted) {s : Session} (h : replay j catalog = .ok s) :
    s.Reachable ∧ s.catalog = catalog ∧
      s.journal = { j with version := ArgumentFault.knownJournalVersion } ∧
      ∃ s₀, start j.seed j.player catalog j.config = .ok s₀ ∧
        s₀.callAll (j.entries.map JournalEntry.call) = .ok s := by
  obtain ⟨s₀, started, played⟩ := exists_of_bind_eq_ok h
  obtain ⟨hr, hlog, hcalls⟩ := of_performAll (.start accepted started) played
  have hc := continues_performAll played
  have hj := journal_of_start started
  have hcatalog : s₀.catalog = catalog := by
    obtain ⟨-, -, -, rfl⟩ := start_eq_ok_iff.1 started
    exact (continues_pass _ _).catalog
  refine ⟨hr, hc.catalog.trans hcatalog, ?_, s₀, started, hcalls⟩
  have hs : s.journal = ⟨ArgumentFault.knownJournalVersion, s₀.stream.seed, s₀.player, s₀.config,
      (j.entries.reverse ++ s₀.log).reverse⟩ := by
    rw [← hlog, ← hc.seed, ← hc.player, ← hc.config]
    rfl
  rw [hs, List.reverse_append, List.reverse_reverse, show s₀.stream.seed = j.seed from
    congrArg Journal.seed hj, show s₀.player = j.player from congrArg Journal.player hj,
    show s₀.config = j.config from congrArg Journal.config hj, show s₀.log.reverse = [] from
    congrArg Journal.entries hj]
  rfl

/-- A journal that plays to the end plays to each of its entries, which is admitted there. -/
theorem admits_of_replay (accepted : catalog.Accepted) {s : Session}
    (h : replay j catalog = .ok s) {before after : List JournalEntry} {entry : JournalEntry}
    (entries : j.entries = before ++ entry :: after) :
    ∃ t, replay { j with entries := before } catalog = .ok t ∧ t.Admits entry := by
  obtain ⟨s₀, started, played⟩ := exists_of_bind_eq_ok h
  rw [entries, performAll_append] at played
  obtain ⟨t, hbefore, hafter⟩ := exists_of_bind_eq_ok played
  obtain ⟨u, hentry, -⟩ := exists_of_bind_eq_ok hafter
  have hr : t.Reachable := (of_performAll (.start accepted started) hbefore).1
  refine ⟨t, ?_, ((perform_eq_ok_iff hr).1 hentry).1⟩
  show (start j.seed j.player catalog j.config).bind (fun s => s.performAll before) = _
  rw [started]
  exact hbefore

theorem exists_error_of_replay (h : ∀ s, replay j catalog ≠ .ok s) :
    ∃ fault, replay j catalog = .error fault := by
  cases hr : replay j catalog with
  | error fault => exact ⟨fault, rfl⟩
  | ok s => exact absurd hr (h s)

/-- A journal plays to a session exactly if that session was lived on the catalog and the journal is
its own; then the calls that the entries record, all of which succeed, lead to it from the start of
the game. A journal with a tick count out of range anywhere, or with an entry that the session
before it does not admit, such as a choice that is not offered there, is refused as a whole. -/
theorem replay_iff_reachable (accepted : catalog.Accepted)
    (version : j.version = ArgumentFault.knownJournalVersion) :
    (∀ s, replay j catalog = .ok s ↔ s.Reachable ∧ s.catalog = catalog ∧ s.journal = j) ∧
    (∀ s, replay j catalog = .ok s →
      ∃ s₀, start j.seed j.player catalog j.config = .ok s₀ ∧
        s₀.callAll (j.entries.map JournalEntry.call) = .ok s) ∧
    (∀ entry ∈ j.entries, ¬entry.InRange → ∃ fault, replay j catalog = .error fault) ∧
    ∀ before entry after, j.entries = before ++ entry :: after →
      (∀ s, replay { j with entries := before } catalog = .ok s → ¬s.Admits entry) →
      ∃ fault, replay j catalog = .error fault := by
  have hrefused : ∀ before entry after, j.entries = before ++ entry :: after →
      (∀ s, replay { j with entries := before } catalog = .ok s → ¬s.Admits entry) →
      ∃ fault, replay j catalog = .error fault := by
    intro before entry after entries hnot
    apply exists_error_of_replay
    intro s hs
    obtain ⟨t, hbefore, admits⟩ := admits_of_replay accepted hs entries
    exact hnot t hbefore admits
  refine ⟨?_, ?_, ?_, hrefused⟩
  · intro s
    constructor
    · intro h
      obtain ⟨hr, hcatalog, hj, -⟩ := of_replay accepted h
      rw [← version] at hj
      exact ⟨hr, hcatalog, hj⟩
    · rintro ⟨hr, rfl, rfl⟩
      exact hr.replay_journal
  · intro s h
    exact (of_replay accepted h).2.2.2
  · intro entry mem hrange
    obtain ⟨before, after, entries⟩ := List.append_of_mem mem
    exact hrefused before entry after entries fun _ _ admits => hrange admits.1

/-- The knee game: its journal plays to it; with a choice added that is not offered there any more,
or with a tick count beyond the words with a sign, it does not play. -/
theorem replay_iff_reachable_kneeGame :
    let s := kneeGame.run kneeCalls
    let sitAgain := { s.journal with
      entries := s.journal.entries ++ [.choose "scraped_knee" "sit" 0] }
    let tooLong := { s.journal with
      entries := .step 0x8000000000000000 :: s.journal.entries }
    replay s.journal kneeCatalog = .ok s ∧
    (∃ fault, replay sitAgain kneeCatalog = .error fault) ∧
    ∃ fault, replay tooLong kneeCatalog = .error fault := by
  intro s sitAgain tooLong
  have hr : s.Reachable := reachable_kneeGame.run kneeCalls
  have hcatalog : s.catalog = kneeCatalog := by
    rw [(continues_run kneeGame kneeCalls).catalog]
    exact (continues_pass ..).catalog
  have hplay := ((replay_iff_reachable accepted_kneeCatalog (j := s.journal) rfl).1 s).2
    ⟨hr, hcatalog, rfl⟩
  have hidle : s.director.active = none := by decide +kernel
  -- what follows looks at the session only through these facts
  clear_value s
  refine ⟨hplay, ?_, ?_⟩
  · refine (replay_iff_reachable accepted_kneeCatalog (j := sitAgain) rfl).2.2.2
      s.journal.entries (.choose "scraped_knee" "sit" 0) [] rfl ?_
    intro t ht admits
    change replay s.journal kneeCatalog = .ok t at ht
    rw [hplay] at ht
    cases ht
    obtain ⟨e, active, -⟩ := admits.2 _ _ _ rfl
    rw [hidle] at active
    cases active
  · exact (replay_iff_reachable accepted_kneeCatalog (j := tooLong) rfl).2.2.1
      (.step 0x8000000000000000) List.mem_cons_self (Nat.lt_irrefl _)

end Session

end LifeStory
