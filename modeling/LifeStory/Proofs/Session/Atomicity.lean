import LifeStory.Host.Engine
import LifeStory.Proofs.Session.ActiveEvent

/-!
# Failed calls

A call that is refused leaves everything as it was. For a session this rests on its active event:
once a choice is validated it cannot be refused any more, although the heat at which the operation
begins is remembered before the choice is looked up in the catalog. An engine keeps the session that
was there unless there is a new one.

    s.Reachable → (s.call c).1 = .error (.refused fault) → (s.call c).2 = s   (unchanged_of_error)
-/

namespace LifeStory

namespace Engine

/-- Where no session was made, the engine is as before. -/
theorem install_of_error {h : Engine} {made : Except Failure Session} {failure : Failure}
    (hf : (h.install made).1 = .error failure) : (h.install made).2 = h := by
  unfold install at hf ⊢
  cases made with
  | error e => rfl
  | ok s => cases hf

end Engine

namespace Session

/-- A choice that was validated is resolved. -/
theorem Reachable.exists_resolve {s : Session} (h : s.Reachable) {storylet : StoryletId}
    {choice : ChoiceId} {e : ActiveEvent} (hv : s.director.validate storylet choice = .ok e)
    (world : World) :
    ∃ after, s.director.resolve s.catalog storylet choice s.config s.player.difficulty
      s.clock.tick world s.stream = .ok after := by
  obtain ⟨ha, -, ho⟩ := Director.validate_eq_ok_iff.1 hv
  obtain ⟨t, c, hoff, rfl⟩ := h.offers ha ho
  exact ⟨_, Director.resolve_of_found hv (by rw [hoff.storylet]; exact hoff.get?) hoff.choice?⟩

theorem Reachable.call_of_error {s : Session} (h : s.Reachable) {c : Call} {fault : GameError}
    (hf : (s.call c).1 = .error (.refused fault)) : (s.call c).2 = s := by
  obtain ⟨_, hc⟩ | ⟨t, hc⟩ | ⟨left, hc⟩ := h.call_cases c
  · rw [hc]
  · rw [hc] at hf
    cases hf
  · rw [hc] at hf
    cases hf

/-- A refused call changes nothing: not a session, where a validated choice cannot be refused after
the operation has begun, and not an engine that starts a game or loads a journal, which is left also
where that crashes. -/
theorem unchanged_of_error :
    (∀ (s : Session) (c : Call) (fault : GameError), s.Reachable →
      (s.call c).1 = .error (.refused fault) → (s.call c).2 = s) ∧
    (∀ (s : Session) (storylet : StoryletId) (choice : ChoiceId) (e : ActiveEvent), s.Reachable →
      s.director.validate storylet choice = .ok e →
      ∃ after, s.beginOperation.director.resolve s.catalog storylet choice s.config
        s.player.difficulty s.clock.tick s.beginOperation.world s.stream = .ok after) ∧
    (∀ (h : Engine) (seed : UInt64) (raw : RawPlayer) (failure : Failure),
      (h.newGame seed raw).1 = .error failure → (h.newGame seed raw).2 = h) ∧
    (∀ (h : Engine) (source : Except FileFault String) (failure : Failure),
      (h.load source).1 = .error failure → (h.load source).2 = h) := by
  refine ⟨?_, ?_, ?_, ?_⟩
  · intro s c fault h hf
    exact h.call_of_error hf
  · intro s storylet choice e h hv
    exact h.exists_resolve hv _
  · intro h seed raw failure hf
    exact Engine.install_of_error hf
  · intro h source failure hf
    exact Engine.install_of_error hf

/-- A choice that is not offered, one that is, a player without a name, and an empty journal. -/
theorem unchanged_of_error_kneeGame :
    let h : Engine := ⟨kneeCatalog, kneeConfig, some kneeGame⟩
    let raw : RawPlayer := ⟨none, none, none, none, none⟩
    (kneeGame.call (.choose "scraped_knee" "run_home" 5)).2 = kneeGame ∧
    (∃ after, kneeGame.beginOperation.director.resolve kneeGame.catalog "scraped_knee" "sit"
      kneeGame.config kneeGame.player.difficulty kneeGame.clock.tick kneeGame.beginOperation.world
      kneeGame.stream = .ok after) ∧
    (h.newGame 7 raw).2 = h ∧ (h.load (.ok "")).2 = h := by
  have hrun : kneeGame.director.validate "scraped_knee" "run_home" =
      .error (.invalidChoice "scraped_knee" "run_home") := by
    unfold Director.validate
    rw [active_kneeGame]
    rfl
  have hsit : kneeGame.director.validate "scraped_knee" "sit" =
      .ok ⟨"scraped_knee", ["get_up", "sit"], 0, 72⟩ :=
    Director.validate_eq_ok_iff.2 ⟨active_kneeGame, rfl, by decide⟩
  have hcall : (kneeGame.call (.choose "scraped_knee" "run_home" 5)).1 =
      .error (.refused (.invalidChoice "scraped_knee" "run_home")) := by
    show (kneeGame.choose "scraped_knee" "run_home" 5).1 = _
    unfold choose
    rw [hrun]
  exact ⟨unchanged_of_error.1 _ _ _ reachable_kneeGame hcall,
    unchanged_of_error.2.1 _ _ _ _ reachable_kneeGame hsit,
    unchanged_of_error.2.2.1 _ _ _ (.refused (.player .nameMissing)) rfl,
    unchanged_of_error.2.2.2 _ _ (.refused (.journalText .empty)) rfl⟩

end Session

end LifeStory
