import LifeStory.Proofs.Steps
import LifeStory.Proofs.Session.ActiveEvent

/-!
# Replaying a journal

What a call does when it succeeds is done again by the entry that it logs, and a call that is
refused logs nothing and changes nothing. So the first entries of a journal lead through the
milestones of the run that wrote it, and all of them to the session that was left.

    s.call c = (.ok (), t) → ∃ entry, t.log = entry :: s.log ∧ s.perform entry = .ok t
                                                                    (perform_of_call_eq_ok)
    replay j catalog = .ok s → s.config = j.config                  (config_replay)
    s.Reachable → replay s.journal s.catalog = .ok s                (Reachable.replay_journal)
    replay (cut journal k) catalog = .ok t, where t is the k-th milestone   (replay_journal_take)
-/

namespace LifeStory

namespace Session

/-! ## One call -/

theorem perform_step (s : Session) {n : Int64} (nonneg : 0 ≤ n) :
    s.perform (.step n.toUInt64) = succeeded (s.step n) := by
  show ((signTicks n.toUInt64).mapError Failure.refused).bind (fun n => succeeded (s.step n)) = _
  rw [signTicks_toUInt64 nonneg]
  rfl

theorem perform_choose (s : Session) (storylet : StoryletId) (choice : ChoiceId) {n : Int64}
    (nonneg : 0 ≤ n) :
    s.perform (.choose storylet choice n.toUInt64) = succeeded (s.choose storylet choice n) := by
  show ((signTicks n.toUInt64).mapError Failure.refused).bind
    (fun n => succeeded (s.choose storylet choice n)) = _
  rw [signTicks_toUInt64 nonneg]
  rfl

/-- What a successful call did is done again by the entry that it logged. -/
theorem perform_of_call_eq_ok {s t : Session} {c : Call} (h : s.Reachable)
    (hc : s.call c = (.ok (), t)) :
    ∃ entry, t.log = entry :: s.log ∧ s.perform entry = .ok t := by
  have ho := h.call_outcome c
  rw [hc] at ho
  cases ho with
  | stepped n nonneg fits =>
    refine ⟨.step n.toUInt64, log_stepped .., ?_⟩
    rw [perform_step s nonneg, step_of_fits nonneg fits]
    rfl
  | chosen e t c n offers nonneg looks =>
    refine ⟨.choose t.id c.id n.toUInt64, log_chosen .., ?_⟩
    rw [perform_choose s _ _ nonneg, choose_of_offers offers nonneg looks]
    rfl

/-! ## What is played again -/

theorem continues_of_succeeded {s t : Session} {result : Except Failure Unit × Session}
    (h : Continues s result.2) (ht : succeeded result = .ok t) : Continues s t := by
  obtain ⟨answer, u⟩ := result
  cases answer with
  | error fault => cases ht
  | ok _ =>
    cases ht
    exact h

theorem continues_perform {s t : Session} {entry : JournalEntry} (h : s.perform entry = .ok t) :
    Continues s t := by
  cases entry with
  | step ticks =>
    obtain ⟨n, -, hn⟩ := exists_of_bind_eq_ok h
    exact continues_of_succeeded (continues_call s (.step n)) hn
  | choose storylet choice ticks =>
    obtain ⟨n, -, hn⟩ := exists_of_bind_eq_ok h
    exact continues_of_succeeded (continues_call s (.choose storylet choice n)) hn

theorem continues_performAll {s t : Session} {entries : List JournalEntry}
    (h : s.performAll entries = .ok t) : Continues s t := by
  induction entries generalizing s with
  | nil =>
    cases h
    exact Continues.refl _
  | cons entry rest ih =>
    obtain ⟨u, hu, ht⟩ := exists_of_bind_eq_ok h
    exact (continues_perform hu).trans (ih ht)

/-- A journal is played with its own configuration. -/
theorem config_replay {j : Journal} {catalog : Catalog} {s : Session}
    (h : replay j catalog = .ok s) : s.config = j.config := by
  obtain ⟨s₀, started, played⟩ := exists_of_bind_eq_ok h
  obtain ⟨-, -, -, rfl⟩ := start_eq_ok_iff.1 started
  have hp := continues_pass (fresh j.seed j.player catalog j.config) none
  exact (continues_performAll played).config.trans hp.config

/-- The journal of a game that was just started has no entries. -/
theorem journal_of_start {seed : UInt64} {player : Player} {catalog : Catalog} {config : Config}
    {s : Session} (h : start seed player catalog config = .ok s) :
    s.journal = ⟨ArgumentFault.knownJournalVersion, seed, player, config, []⟩ := by
  obtain ⟨-, -, -, rfl⟩ := start_eq_ok_iff.1 h
  have hp := continues_pass (fresh seed player catalog config) none
  unfold journal
  rw [hp.seed, hp.player, hp.config]
  rfl

/-! ## Runs -/

/-- The last milestone is the session that the run leaves. -/
theorem getLast?_milestones {s : Session} (h : s.Reachable) (calls : List Call) :
    (s :: s.milestones calls).getLast? = some (s.run calls) := by
  induction calls generalizing s with
  | nil => rfl
  | cons c rest ih =>
    obtain ⟨fault, hc⟩ | ⟨t, hc⟩ | ⟨left, hc⟩ := h.call_cases c
    · rw [milestones_cons_of_refused hc, run_cons_of_some (after?_of_refused hc)]
      exact ih h
    · have hafter := after?_of_ok hc
      rw [milestones_cons_of_ok hc, run_cons_of_some hafter, List.getLast?_cons_cons]
      exact ih (h.call c hafter)
    · rw [milestones_cons_of_crashed hc, run_cons_of_none (after?_of_crashed hc)]
      rfl

/-- A run logs one entry for each milestone, and the first of these entries lead to it. -/
theorem performAll_take {s : Session} (h : s.Reachable) (calls : List Call) :
    ∃ entries : List JournalEntry, (s.run calls).log = entries.reverse ++ s.log ∧
      entries.length = (s.milestones calls).length ∧
      ∀ k ≤ entries.length, ∃ t, (s :: s.milestones calls)[k]? = some t ∧
        s.performAll (entries.take k) = .ok t := by
  induction calls generalizing s with
  | nil =>
    refine ⟨[], rfl, rfl, fun k hk => ?_⟩
    obtain rfl := Nat.le_zero.1 hk
    exact ⟨s, rfl, rfl⟩
  | cons c rest ih =>
    obtain ⟨fault, hc⟩ | ⟨t, hc⟩ | ⟨left, hc⟩ := h.call_cases c
    · -- the call left the session as it was, and so the rest of the run has the entries
      rw [milestones_cons_of_refused hc, run_cons_of_some (after?_of_refused hc)]
      exact ih h
    · have hafter := after?_of_ok hc
      obtain ⟨entries, hlog, hlen, hk⟩ := ih (h.call c hafter)
      obtain ⟨entry, hentry, hperform⟩ := perform_of_call_eq_ok h hc
      rw [milestones_cons_of_ok hc, run_cons_of_some hafter]
      refine ⟨entry :: entries, ?_, ?_, ?_⟩
      · rw [hlog, hentry, List.reverse_cons, List.append_assoc]
        rfl
      · rw [List.length_cons, List.length_cons, hlen]
      · intro k hle
        cases k with
        | zero => exact ⟨s, rfl, rfl⟩
        | succ k =>
          obtain ⟨u, hget, hall⟩ := hk k (Nat.le_of_succ_le_succ hle)
          refine ⟨u, hget, ?_⟩
          show (s.perform entry).bind (fun s => s.performAll (entries.take k)) = _
          rw [hperform]
          exact hall
    · rw [milestones_cons_of_crashed hc, run_cons_of_none (after?_of_crashed hc)]
      refine ⟨[], rfl, rfl, fun k hk => ?_⟩
      obtain rfl := Nat.le_zero.1 hk
      exact ⟨s, rfl, rfl⟩

/-! ## Journals -/

/-- The journal of a reachable session leads to it. -/
theorem Reachable.replay_journal {s : Session} (h : s.Reachable) :
    replay s.journal s.catalog = .ok s := by
  induction h with
  | @start seed player catalog config s accepted started =>
    obtain ⟨-, -, -, rfl⟩ := start_eq_ok_iff.1 started
    have hp := continues_pass (fresh seed player catalog config) none
    unfold replay journal
    dsimp only
    rw [hp.seed, hp.player, hp.config, hp.catalog]
    show (Session.start seed player catalog config).bind (fun s => s.performAll []) = _
    rw [started]
    rfl
  | @call s t before c after ih =>
    have hc := continues_of_after? after
    obtain ⟨fault, hcall⟩ | ⟨u, hcall⟩ | ⟨left, hcall⟩ := before.call_cases c
    · rw [after?_of_refused hcall] at after
      cases after
      exact ih
    · rw [after?_of_ok hcall] at after
      cases after
      obtain ⟨entry, hlog, hperform⟩ := perform_of_call_eq_ok before hcall
      unfold replay journal at ih ⊢
      dsimp only at ih ⊢
      rw [hc.seed, hc.player, hc.config, hc.catalog, hlog, List.reverse_cons]
      -- the entries before the last lead to the session before the call
      show (Session.start s.stream.seed s.player s.catalog s.config).bind
        (fun s₀ => s₀.performAll (s.log.reverse ++ [entry])) = _
      change (Session.start s.stream.seed s.player s.catalog s.config).bind
        (fun s₀ => s₀.performAll s.log.reverse) = _ at ih
      cases hs : Session.start s.stream.seed s.player s.catalog s.config with
      | error fault =>
        rw [hs] at ih
        cases ih
      | ok s₀ =>
        rw [hs] at ih
        change s₀.performAll s.log.reverse = .ok s at ih
        show s₀.performAll (s.log.reverse ++ [entry]) = .ok t
        rw [performAll_append, ih]
        show (s.perform entry).bind (fun t => t.performAll []) = _
        rw [hperform]
        rfl
    · rw [after?_of_crashed hcall] at after
      cases after

/-- A journal cut to its first entries. -/
def cut (j : Journal) (k : Nat) : Journal := { j with entries := j.entries.take k }

/-- A run journals the calls that succeed, one entry each. Cut after any number of them, the journal
plays again to the session right after that many; as a whole, to the session that the run left. -/
theorem replay_journal_take {seed : UInt64} {player : Player} {catalog : Catalog}
    {config : Config} {s : Session} (accepted : catalog.Accepted)
    (started : start seed player catalog config = .ok s) (calls : List Call) :
    (s.run calls).journal.entries.length = (s.milestones calls).length ∧
    (∀ k ≤ (s.run calls).journal.entries.length,
      ∃ t, (s :: s.milestones calls)[k]? = some t ∧
        replay (cut (s.run calls).journal k) catalog = .ok t) ∧
    replay (s.run calls).journal catalog = .ok (s.run calls) := by
  have h : s.Reachable := .start accepted started
  obtain ⟨entries, hlog, hlen, hk⟩ := performAll_take h calls
  have hentries : (s.run calls).journal.entries = entries := by
    obtain ⟨-, -, -, rfl⟩ := start_eq_ok_iff.1 started
    show (run _ calls).log.reverse = _
    rw [hlog]
    show (entries.reverse ++ []).reverse = _
    rw [List.append_nil, List.reverse_reverse]
  have hplay : ∀ k, replay (cut (s.run calls).journal k) catalog =
      s.performAll (entries.take k) := by
    intro k
    have hstart : start (s.run calls).stream.seed (s.run calls).player catalog
        (s.run calls).config = .ok s := by
      have hc := continues_run s calls
      obtain ⟨-, -, -, rfl⟩ := start_eq_ok_iff.1 started
      have hp := (continues_pass (fresh seed player catalog config) none).trans hc
      rw [hp.seed, hp.player, hp.config]
      exact started
    unfold replay
    show (start (s.run calls).stream.seed (s.run calls).player catalog
      (s.run calls).config).bind (fun s => s.performAll _) = _
    rw [hstart]
    show s.performAll ((s.run calls).journal.entries.take k) = _
    rw [hentries]
  have hcut : ∀ k ≤ (s.run calls).journal.entries.length,
      ∃ t, (s :: s.milestones calls)[k]? = some t ∧
        replay (cut (s.run calls).journal k) catalog = .ok t := by
    intro k hle
    rw [hplay]
    rw [hentries] at hle
    exact hk k hle
  refine ⟨by rw [hentries, hlen], hcut, ?_⟩
  -- nothing is cut off at the length of the journal, and the last milestone is where the run ends
  obtain ⟨t, hget, hreplay⟩ := hcut _ (Nat.le_refl _)
  have hlast := getLast?_milestones h calls
  rw [List.getLast?_eq_getElem?, List.length_cons, Nat.add_sub_cancel, ← hlen, ← hentries, hget]
    at hlast
  cases hlast
  unfold cut at hreplay
  rw [List.take_length] at hreplay
  exact hreplay

theorem replay_journal_take_kneeGame :
    (kneeGame.run kneeCalls).journal.entries.length = 2 ∧
    (∀ k ≤ (kneeGame.run kneeCalls).journal.entries.length,
      ∃ t, (kneeGame :: kneeGame.milestones kneeCalls)[k]? = some t ∧
        replay (cut (kneeGame.run kneeCalls).journal k) kneeCatalog = .ok t) ∧
    replay (kneeGame.run kneeCalls).journal kneeCatalog = .ok (kneeGame.run kneeCalls) := by
  obtain ⟨-, hcut, hall⟩ := replay_journal_take accepted_kneeCatalog start_kneeGame kneeCalls
  exact ⟨by decide +kernel, hcut, hall⟩

end Session

end LifeStory
