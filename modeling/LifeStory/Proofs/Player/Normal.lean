import LifeStory.Proofs.Session.Run

/-!
# Players as chosen outside

A raw choice means a player exactly if its parts that are needed are there and can be read
(`RawPlayer.Means`). The name and the pronouns of the player are trimmed then, so the player is its
own normal form: read again it means itself, and the check that a game makes of it finds nothing.

    p.fault? = none ↔ ProperName p.name                                      (fault?_eq_none_iff)
    ofRaw raw = .ok p ↔ raw.Means p                                          (ofRaw_eq_ok_iff)
    (∃ p, raw.Means p) ↔ raw.Proper                                          (exists_means_iff)
    raw.Means p → p.Normal                                                   (normal_of_means)
    p.Normal → p.toRaw.Means p                                               (Normal.means_toRaw)
-/

namespace LifeStory

/-- Blanks at its ends left aside, a name has one to forty characters, and none of them is a control
character. -/
structure ProperName (name : String) : Prop where
  length_pos : 1 ≤ (Text.trim name).length
  length_le : (Text.trim name).length ≤ 40
  controls : ∀ c ∈ (Text.trim name).toList, Text.isControl c = false

theorem properName_trim {name : String} : ProperName (Text.trim name) ↔ ProperName name := by
  constructor
  · rintro ⟨hpos, hle, hcontrols⟩
    rw [Text.trim_trim] at hpos hle hcontrols
    exact ⟨hpos, hle, hcontrols⟩
  · rintro ⟨hpos, hle, hcontrols⟩
    rw [← Text.trim_trim] at hpos hle hcontrols
    exact ⟨hpos, hle, hcontrols⟩

theorem Archetype.named?_name (a : Archetype) : named? a.name = some a := by
  cases a <;> decide

theorem Difficulty.named?_name (d : Difficulty) : named? d.name = some d := by
  cases d <;> decide

namespace RawPlayer

/-- What is needed of a raw choice is there and can be read. -/
structure Proper (raw : RawPlayer) : Prop where
  name : ∃ name, raw.name = some name ∧ ProperName name
  archetype : ∃ given a, raw.archetype = some given ∧ Archetype.named? given = some a
  difficulty : ∃ given d, raw.difficulty = some given ∧ Difficulty.named? given = some d

/-- The raw choice says what the player is. -/
structure Means (raw : RawPlayer) (p : Player) : Prop where
  name : ∃ name, raw.name = some name ∧ ProperName name ∧ p.name = Text.trim name
  pronouns : p.pronouns = raw.pronouns.bind Player.nonBlank?
  archetype : raw.archetype.bind Archetype.named? = some p.archetype
  difficulty : raw.difficulty.bind Difficulty.named? = some p.difficulty
  contentMode : p.contentMode = raw.contentMode.getD false

end RawPlayer

namespace Player

/-- The raw choice of a player, in the names of its data. -/
def toRaw (p : Player) : RawPlayer where
  name := some p.name
  pronouns := p.pronouns
  archetype := some p.archetype.name
  difficulty := some p.difficulty.name
  contentMode := some p.contentMode

theorem nonBlank?_eq_some_iff (s t : String) :
    nonBlank? s = some t ↔ t = Text.trim s ∧ t ≠ "" := by
  unfold nonBlank?
  dsimp only
  split
  · next h =>
    rw [String.isEmpty_iff] at h
    constructor
    · intro h'
      cases h'
    · rintro ⟨rfl, hne⟩
      exact absurd h hne
  · next h =>
    rw [String.isEmpty_iff] at h
    constructor
    · rintro ⟨⟩
      exact ⟨rfl, h⟩
    · rintro ⟨rfl, -⟩
      rfl

theorem fault?_eq_none_iff (p : Player) : p.fault? = none ↔ ProperName p.name := by
  have hlist : Text.trimList p.name.toList = (Text.trim p.name).toList :=
    (Text.toList_trim p.name).symm
  unfold fault?
  rw [hlist]
  dsimp only
  constructor
  · intro h
    split_ifs at h with hempty hlong hcontrol
    refine ⟨?_, ?_, ?_⟩
    · rw [← String.length_toList]
      exact List.length_pos_iff.2 fun hnil => hempty (List.isEmpty_iff.2 hnil)
    · rw [← String.length_toList]
      exact Nat.le_of_not_lt hlong
    · intro c hc
      rw [List.any_eq_true, not_exists] at hcontrol
      exact Bool.eq_false_iff.2 fun h => hcontrol c ⟨hc, h⟩
  · intro h
    have hpos := h.length_pos
    have hle := h.length_le
    rw [← String.length_toList] at hpos hle
    rw [if_neg, if_neg, if_neg]
    · rw [List.any_eq_true]
      rintro ⟨c, hc, hcontrol⟩
      exact Bool.eq_false_iff.1 (h.controls c hc) hcontrol
    · exact Nat.not_lt.2 hle
    · rw [List.isEmpty_iff]
      exact List.length_pos_iff.1 hpos

section Means

variable {raw : RawPlayer} {p q : Player}

theorem bind_nonBlank?_of_means (h : raw.Means p) : raw.name.bind nonBlank? = some p.name := by
  obtain ⟨given, hgiven, hproper, hname⟩ := h.name
  refine Option.bind_eq_some_iff.2 ⟨given, hgiven, (nonBlank?_eq_some_iff given _).2 ⟨hname, ?_⟩⟩
  intro hempty
  have hpos := hproper.length_pos
  rw [← hname, hempty] at hpos
  exact absurd hpos (by decide)

/-- A raw choice means one player at most. -/
theorem eq_of_means (h : raw.Means p) (h' : raw.Means q) : p = q := by
  have hname : p.name = q.name :=
    Option.some.inj ((bind_nonBlank?_of_means h).symm.trans (bind_nonBlank?_of_means h'))
  have hpronouns : p.pronouns = q.pronouns := h.pronouns.trans h'.pronouns.symm
  have harchetype : p.archetype = q.archetype :=
    Option.some.inj (h.archetype.symm.trans h'.archetype)
  have hdifficulty : p.difficulty = q.difficulty :=
    Option.some.inj (h.difficulty.symm.trans h'.difficulty)
  have hmode : p.contentMode = q.contentMode := h.contentMode.trans h'.contentMode.symm
  cases p
  cases q
  exact mk.injEq .. ▸ ⟨hname, hpronouns, harchetype, hdifficulty, hmode⟩

end Means

/-- A raw choice is read as the player that it means, and there is a fault if it means none. -/
theorem ofRaw_eq_ok_iff (raw : RawPlayer) (p : Player) : ofRaw raw = .ok p ↔ raw.Means p := by
  have refused : ∀ fault, ¬raw.Means p → ((throw fault : Except PlayerFault Player) = .ok p ↔
      raw.Means p) := fun fault h => iff_of_false (fun h' => nomatch h') h
  fun_cases ofRaw raw with
  | case1 name hname _ _ _ _ _ _ _ _ player fault hfault =>
    refine refused fault fun h => ?_
    have hproper : ProperName name := by
      obtain ⟨given, -, hproper, hgiven⟩ := h.name
      obtain rfl : name = p.name := Option.some.inj (hname.symm.trans (bind_nonBlank?_of_means h))
      rw [hgiven]
      exact properName_trim.2 hproper
    have hnone := (fault?_eq_none_iff player).2 hproper
    rw [hnone] at hfault
    cases hfault
  | case2 name hname _ harchetype _ hnamed _ hdifficulty _ hnamed' player hfault =>
    have hmeans : raw.Means player := by
      obtain ⟨given, hgiven, hblank⟩ := Option.bind_eq_some_iff.1 hname
      obtain ⟨htrim, -⟩ := (nonBlank?_eq_some_iff given name).1 hblank
      have hproper : ProperName name := (fault?_eq_none_iff player).1 hfault
      rw [htrim] at hproper
      refine ⟨⟨given, hgiven, properName_trim.1 hproper, htrim⟩, rfl, ?_, ?_, rfl⟩
      · exact Option.bind_eq_some_iff.2 ⟨_, harchetype, hnamed⟩
      · exact Option.bind_eq_some_iff.2 ⟨_, hdifficulty, hnamed'⟩
    constructor
    · intro h
      rw [← Except.ok.inj h]
      exact hmeans
    · exact fun h => congrArg Except.ok (eq_of_means hmeans h)
  | case3 _ _ _ _ _ _ stated hstated unknown =>
    refine refused _ fun h => ?_
    have hdifficulty := h.difficulty
    rw [hstated, Option.bind_some] at hdifficulty
    exact unknown _ hdifficulty
  | case4 _ _ _ _ _ _ missing =>
    refine refused _ fun h => ?_
    obtain ⟨given, hgiven, -⟩ := Option.bind_eq_some_iff.1 h.difficulty
    exact missing given hgiven
  | case5 _ _ stated hstated unknown =>
    refine refused _ fun h => ?_
    have harchetype := h.archetype
    rw [hstated, Option.bind_some] at harchetype
    exact unknown _ harchetype
  | case6 _ _ missing =>
    refine refused _ fun h => ?_
    obtain ⟨given, hgiven, -⟩ := Option.bind_eq_some_iff.1 h.archetype
    exact missing given hgiven
  | case7 missing =>
    exact refused _ fun h => missing p.name (bind_nonBlank?_of_means h)

theorem exists_means_iff (raw : RawPlayer) : (∃ p, raw.Means p) ↔ raw.Proper := by
  constructor
  · rintro ⟨p, h⟩
    obtain ⟨name, hname, hproper, -⟩ := h.name
    obtain ⟨given, hgiven, harchetype⟩ := Option.bind_eq_some_iff.1 h.archetype
    obtain ⟨stated, hstated, hdifficulty⟩ := Option.bind_eq_some_iff.1 h.difficulty
    exact ⟨⟨name, hname, hproper⟩, ⟨given, _, hgiven, harchetype⟩, stated, _, hstated, hdifficulty⟩
  · rintro ⟨⟨name, hname, hproper⟩, ⟨given, a, hgiven, harchetype⟩, stated, d, hstated, hdifficulty⟩
    refine ⟨⟨Text.trim name, raw.pronouns.bind nonBlank?, a, d, raw.contentMode.getD false⟩,
      ⟨name, hname, hproper, rfl⟩, rfl, ?_, ?_, rfl⟩
    · exact Option.bind_eq_some_iff.2 ⟨given, hgiven, harchetype⟩
    · exact Option.bind_eq_some_iff.2 ⟨stated, hstated, hdifficulty⟩

/-! ## Normal form -/

/-- What a raw choice means is checked already: its name is proper and trimmed, and so are its
pronouns, if there are any. -/
structure Normal (p : Player) : Prop where
  name : ProperName p.name
  trim_name : Text.trim p.name = p.name
  pronouns : ∀ t, p.pronouns = some t → t ≠ "" ∧ Text.trim t = t

theorem normal_of_means {raw : RawPlayer} {p : Player} (h : raw.Means p) : p.Normal := by
  obtain ⟨name, -, hproper, hname⟩ := h.name
  refine ⟨?_, ?_, fun t ht => ?_⟩
  · rw [hname]
    exact properName_trim.2 hproper
  · rw [hname]
    exact Text.trim_trim name
  · rw [h.pronouns] at ht
    obtain ⟨given, -, hgiven⟩ := Option.bind_eq_some_iff.1 ht
    obtain ⟨rfl, hne⟩ := (nonBlank?_eq_some_iff given t).1 hgiven
    exact ⟨hne, Text.trim_trim given⟩

/-- A player in normal form is what its own raw choice means. -/
theorem Normal.means_toRaw {p : Player} (h : p.Normal) : p.toRaw.Means p where
  name := ⟨p.name, rfl, h.name, h.trim_name.symm⟩
  pronouns := by
    show p.pronouns = p.pronouns.bind nonBlank?
    cases hp : p.pronouns with
    | none => rfl
    | some t =>
      obtain ⟨hne, htrim⟩ := h.pronouns t hp
      rw [Option.bind_some]
      exact ((nonBlank?_eq_some_iff t t).2 ⟨htrim.symm, hne⟩).symm
  archetype := Option.bind_eq_some_iff.2 ⟨_, rfl, p.archetype.named?_name⟩
  difficulty := Option.bind_eq_some_iff.2 ⟨_, rfl, p.difficulty.named?_name⟩
  contentMode := rfl

/-- A game of a player without faults fails only on the configuration: on what is wrong with it, or
on the room that it asks for. -/
theorem config_of_start_eq_error {p : Player} (h : p.fault? = none) {seed : UInt64}
    {catalog : Catalog} {config : Config} {failure : Failure}
    (failed : Session.start seed p catalog config = .error failure) :
    (∃ f, config.fault? = some f ∧ failure = .refused (.config f)) ∨
      config.fault? = none ∧ ¬config.Roomy ∧ failure = .crashed .capacityOverflow := by
  rw [Session.start_eq, h] at failed
  cases hc : config.fault? with
  | none =>
    rw [hc] at failed
    dsimp only at failed
    split at failed
    · cases failed
    · next hroom =>
      cases failed
      exact .inr ⟨rfl, hroom, rfl⟩
  | some f =>
    rw [hc] at failed
    cases failed
    exact .inl ⟨f, rfl, rfl⟩

/-- A raw choice is accepted exactly if it is proper, and what it means is in normal form: no check
finds a fault in it, nothing is left to trim, and its own raw choice means the same player. -/
theorem ofRaw_normal (raw : RawPlayer) :
    ((∃ p, ofRaw raw = .ok p) ↔ raw.Proper) ∧
    ∀ p, ofRaw raw = .ok p →
      p.fault? = none ∧
      (∀ seed catalog config failure, Session.start seed p catalog config = .error failure →
        (∃ f, config.fault? = some f ∧ failure = .refused (.config f)) ∨
          config.fault? = none ∧ ¬config.Roomy ∧ failure = .crashed .capacityOverflow) ∧
      Text.trim p.name = p.name ∧
      (∀ t, p.pronouns = some t → t ≠ "" ∧ Text.trim t = t) ∧
      ofRaw p.toRaw = .ok p := by
  constructor
  · rw [← exists_means_iff]
    exact exists_congr (ofRaw_eq_ok_iff raw)
  · intro p hp
    have hnormal := normal_of_means ((ofRaw_eq_ok_iff raw p).1 hp)
    have hnone := (fault?_eq_none_iff p).2 hnormal.name
    exact ⟨hnone, fun _ _ _ _ failed => config_of_start_eq_error hnone failed, hnormal.trim_name,
      hnormal.pronouns, (ofRaw_eq_ok_iff p.toRaw p).2 hnormal.means_toRaw⟩

/-- Blanks around a name that has one inside, blank pronouns, and two readings of names in other
letters than theirs. -/
def adaRaw : RawPlayer where
  name := some "\u2003Ada Lovelace\n"
  pronouns := some " \t"
  archetype := some "\u00A0analyst "
  difficulty := some "har\u017Fh"
  contentMode := none

def ada : Player := ⟨"Ada Lovelace", none, .analyst, .harsh, false⟩

theorem ofRaw_normal_ada :
    ofRaw adaRaw = .ok ada ∧ adaRaw.Proper ∧ ada.fault? = none ∧ ofRaw ada.toRaw = .ok ada := by
  have hada : ofRaw adaRaw = .ok ada := by decide +kernel
  obtain ⟨hproper, hnormal⟩ := ofRaw_normal adaRaw
  obtain ⟨hnone, -, -, -, hagain⟩ := hnormal ada hada
  exact ⟨hada, hproper.1 ⟨ada, hada⟩, hnone, hagain⟩

end Player

end LifeStory
