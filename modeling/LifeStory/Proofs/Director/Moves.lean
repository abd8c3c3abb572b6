import LifeStory.Director
import LifeStory.Proofs.Random.Draws
import LifeStory.Proofs.Catalog.Accepted

/-!
# What a director does

The moves of a director, each said once. A pass ends in one of four ways (`PassOutcome`): an event
is open already; nothing is eligible; something is, but the roll keeps it back; an eligible
storylet opens. The first two draw nothing, the third draws once and the last twice. A choice is
valid for the active event alone. What it means is looked up first (`find`): all that can fail is in
the look-up, which does not read the world. An expiry resolves nothing.

    d.PassOutcome catalog situation config stream (d.pass catalog situation config stream)
                                                                           (pass_outcome)
    d.validate storylet choice = .ok e ↔
      d.active = some e ∧ e.storylet = storylet ∧ choice ∈ e.offered       (validate_eq_ok_iff)
    d.find catalog storylet choice = .ok (e, t, c) ↔
      d.Found catalog storylet choice e t c                                (find_eq_ok_iff)
    d.resolve catalog storylet choice .. world stream =
      (d.find catalog storylet choice).map (the changes of what was found) (resolve_eq)
-/

namespace LifeStory

open LifeStory.Random (Stream)

/-! ## Weighted selection -/

namespace Selection

variable {α β : Type} [Add α] [LT α] [DecidableLT α]

theorem mem_of_firstPast? {target : α} {b : β} (items : List (β × α)) :
    ∀ sum, firstPast? target sum items = some b → b ∈ items.map Prod.fst := by
  induction items with
  | nil => intro sum h; cases h
  | cons item rest ih =>
    intro sum h
    obtain ⟨a, weight⟩ := item
    unfold firstPast? at h
    split at h
    · cases h
      exact List.mem_cons_self
    · exact List.mem_cons_of_mem _ (ih _ h)

variable [Mul α] [∀ n : Nat, OfNat α n]

theorem mem_of_pick {draw : α} {items : List (β × α)} {b : β} (h : pick draw items = some b) :
    b ∈ items.map Prod.fst := by
  unfold pick at h
  split at h
  · next hf =>
    cases h
    exact mem_of_firstPast? items _ hf
  · obtain ⟨item, hl, rfl⟩ := Option.map_eq_some_iff.1 h
    exact List.mem_map.2 ⟨item, List.mem_of_getLast? hl, rfl⟩

/-- Something is picked where there is something to pick. -/
theorem exists_pick (draw : α) {items : List (β × α)} (h : items ≠ []) :
    ∃ b, pick draw items = some b := by
  unfold pick
  split
  · next b _ => exact ⟨b, rfl⟩
  · rw [List.getLast?_eq_some_getLast h]
    exact ⟨_, rfl⟩

end Selection

namespace Director

variable {d : Director} {catalog : Catalog} {situation : Situation} {config : Config}
  {stream : Stream}

/-! ## Passes -/

theorem mem_eligible_iff (c : Candidate) :
    c ∈ d.eligible catalog situation ↔ c.storylet ∈ catalog.storylets ∧
      d.admits c.storylet situation = true ∧
      c.offered = c.storylet.offered (situation.standing d.history) ∧ c.offered ≠ [] := by
  obtain ⟨s, offered⟩ := c
  unfold eligible
  rw [List.mem_filterMap]
  constructor
  · rintro ⟨t, ht, hc⟩
    unfold candidate? at hc
    dsimp only at hc
    split at hc
    · next h =>
      cases hc
      rw [Bool.and_eq_true, Bool.not_eq_true', List.isEmpty_eq_false_iff] at h
      exact ⟨ht, h.1, rfl, h.2⟩
    · cases hc
  · rintro ⟨hs, ha, ho, hne⟩
    refine ⟨s, hs, ?_⟩
    dsimp only at ha ho hne
    unfold candidate?
    dsimp only
    rw [← ho, if_pos]
    rw [Bool.and_eq_true, Bool.not_eq_true', List.isEmpty_eq_false_iff]
    exact ⟨ha, hne⟩

/-- The ways in which a pass ends. -/
inductive PassOutcome (d : Director) (catalog : Catalog) (situation : Situation) (config : Config)
    (stream : Stream) : Director × Stream → Prop
  | busy (e : ActiveEvent) (active : d.active = some e) :
      PassOutcome d catalog situation config stream (d, stream)
  | barren (idle : d.active = none) (eligible : d.eligible catalog situation = []) :
      PassOutcome d catalog situation config stream (d, stream)
  | declined (idle : d.active = none) (eligible : d.eligible catalog situation ≠ []) :
      PassOutcome d catalog situation config stream (d, stream.skip 1)
  | opened (c : Candidate) (idle : d.active = none)
      (eligible : c ∈ d.eligible catalog situation) :
      PassOutcome d catalog situation config stream
        ({ d with active := some (c.event situation.now config) }, stream.skip 2)

theorem pass_outcome (d : Director) (catalog : Catalog) (situation : Situation) (config : Config)
    (stream : Stream) :
    d.PassOutcome catalog situation config stream (d.pass catalog situation config stream) := by
  unfold pass
  cases hd : d.active with
  | some e => exact .busy e hd
  | none =>
    cases he : d.eligible catalog situation with
    | nil => exact .barren hd he
    | cons c rest =>
      dsimp only
      split
      · exact .declined hd (by rw [he]; exact List.cons_ne_nil _ _)
      · have hne : ((c :: rest).map fun c =>
            (c, c.storylet.weightAt situation.pressure.heat config)) ≠ [] := by
          rw [List.map_cons]
          exact List.cons_ne_nil _ _
        obtain ⟨picked, hp⟩ := Selection.exists_pick stream.unit.2.unit.1 hne
        have hm := Selection.mem_of_pick hp
        rw [List.map_map] at hm
        obtain ⟨c', hc', rfl⟩ := List.mem_map.1 hm
        rw [hp]
        exact .opened c' hd (by rw [he]; exact hc')

@[simp] theorem history_pass : (d.pass catalog situation config stream).1.history = d.history := by
  have h := d.pass_outcome catalog situation config stream
  generalize d.pass catalog situation config stream = after at h
  cases h <;> rfl

/-! ## Choices -/

theorem validate_eq_ok_iff {storylet : StoryletId} {choice : ChoiceId} {e : ActiveEvent} :
    d.validate storylet choice = .ok e ↔
      d.active = some e ∧ e.storylet = storylet ∧ choice ∈ e.offered := by
  unfold validate
  cases hd : d.active with
  | none => simp
  | some event =>
    dsimp only
    by_cases hs : event.storylet = storylet
    · rw [if_neg (not_not_intro hs)]
      by_cases ho : choice ∈ event.offered
      · have : event.offers choice = true := List.contains_iff_mem.2 ho
        rw [if_pos this]
        constructor
        · rintro ⟨⟩
          exact ⟨rfl, hs, ho⟩
        · rintro ⟨⟨⟩, -, -⟩
          rfl
      · have : ¬event.offers choice = true := fun h => ho (List.contains_iff_mem.1 h)
        rw [if_neg this]
        constructor
        · intro h
          cases h
        · rintro ⟨⟨⟩, -, h⟩
          exact absurd h ho
    · rw [if_pos hs]
      constructor
      · intro h
        cases h
      · rintro ⟨⟨⟩, h, -⟩
        exact absurd h hs

/-- What a choice means with some catalog: the active event, its storylet, and the choice. -/
def find (d : Director) (catalog : Catalog) (storylet : StoryletId) (choice : ChoiceId) :
    Except GameError (ActiveEvent × Storylet × Choice) := do
  let event ← d.validate storylet choice
  let some s := catalog.get? event.storylet | throw (.content (.activeMissing event.storylet))
  let some c := s.choice? choice | throw (.invalidChoice event.storylet choice)
  return (event, s, c)

/-- The choice can be made: the active event is the one that is meant and offers it, and the catalog
has the storylet with the choice. -/
structure Found (d : Director) (catalog : Catalog) (storylet : StoryletId) (choice : ChoiceId)
    (e : ActiveEvent) (t : Storylet) (c : Choice) : Prop where
  active : d.active = some e
  meant : e.storylet = storylet
  offered : choice ∈ e.offered
  get? : catalog.get? storylet = some t
  choice? : t.choice? choice = some c

theorem find_eq_ok_iff {storylet : StoryletId} {choice : ChoiceId} {e : ActiveEvent} {t : Storylet}
    {c : Choice} :
    d.find catalog storylet choice = .ok (e, t, c) ↔ d.Found catalog storylet choice e t c := by
  constructor
  · intro h
    unfold find at h
    cases hv : d.validate storylet choice with
    | error fault =>
      rw [hv] at h
      cases h
    | ok event =>
      obtain ⟨active, hid, offered⟩ := validate_eq_ok_iff.1 hv
      rw [hv] at h
      dsimp only [bind, Except.bind] at h
      rw [hid] at h
      cases ht : catalog.get? storylet with
      | none =>
        rw [ht] at h
        cases h
      | some s =>
        rw [ht] at h
        dsimp only at h
        cases hc : s.choice? choice with
        | none =>
          rw [hc] at h
          cases h
        | some c' =>
          rw [hc] at h
          cases h
          exact ⟨active, hid, offered, ht, hc⟩
  · rintro ⟨active, hid, offered, ht, hc⟩
    have hv : d.validate storylet choice = .ok e := validate_eq_ok_iff.2 ⟨active, hid, offered⟩
    unfold find
    rw [hv]
    dsimp only [bind, Except.bind]
    rw [hid, ht]
    dsimp only
    rw [hc]
    rfl

theorem resolve_eq {storylet : StoryletId} {choice : ChoiceId} (config : Config)
    (difficulty : Difficulty) (now : Tick) (world : World) (stream : Stream) :
    d.resolve catalog storylet choice config difficulty now world stream =
      (d.find catalog storylet choice).map fun (event, s, c) =>
        (⟨none, d.history.recordResolved event.storylet now⟩,
          applyChoice catalog config difficulty now s c world stream) := by
  unfold resolve find
  cases d.validate storylet choice with
  | error fault => rfl
  | ok event =>
    dsimp only [bind, Except.bind]
    cases catalog.get? event.storylet with
    | none => rfl
    | some s =>
      dsimp only
      cases s.choice? choice with
      | none => rfl
      | some c => rfl

theorem resolve_of_found {storylet : StoryletId} {choice : ChoiceId} {difficulty : Difficulty}
    {now : Tick} {world : World} {e : ActiveEvent} {s : Storylet} {c : Choice}
    (hv : d.validate storylet choice = .ok e) (hs : catalog.get? e.storylet = some s)
    (hc : s.choice? choice = some c) :
    d.resolve catalog storylet choice config difficulty now world stream =
      .ok (⟨none, d.history.recordResolved e.storylet now⟩,
        applyChoice catalog config difficulty now s c world stream) := by
  obtain ⟨active, rfl, offered⟩ := validate_eq_ok_iff.1 hv
  rw [resolve_eq, find_eq_ok_iff.2 ⟨active, rfl, offered, hs, hc⟩]
  rfl

/-- A choice that the catalog lacks fails, although the active event offers it. -/
theorem resolve_of_missing {storylet : StoryletId} {choice : ChoiceId} {difficulty : Difficulty}
    {now : Tick} {world : World} {e : ActiveEvent} (hv : d.validate storylet choice = .ok e)
    (hm : ∀ s c, catalog.get? e.storylet = some s → s.choice? choice ≠ some c) :
    ∃ fault, d.resolve catalog storylet choice config difficulty now world stream =
      .error fault := by
  obtain ⟨active, rfl, -⟩ := validate_eq_ok_iff.1 hv
  rw [resolve_eq]
  cases hfind : d.find catalog e.storylet choice with
  | error fault => exact ⟨fault, rfl⟩
  | ok found =>
    obtain ⟨e', s, c⟩ := found
    have hfound := find_eq_ok_iff.1 hfind
    exact absurd hfound.choice? (hm s c hfound.get?)

theorem memories_applyChoice_of_none {c : Choice} (h : c.memory = none) (difficulty : Difficulty)
    (now : Tick) (s : Storylet) (world : World) :
    (applyChoice catalog config difficulty now s c world stream).1.memories = world.memories := by
  unfold applyChoice
  rw [h]

theorem memories_applyChoice_of_some {c : Choice} {text : String} (h : c.memory = some text)
    (difficulty : Difficulty) (now : Tick) (s : Storylet) (world : World) :
    (applyChoice catalog config difficulty now s c world stream).1.memories =
      MemoryLog.record world.memories now text := by
  unfold applyChoice
  rw [h]

theorem capacity_applyChoice (difficulty : Difficulty) (now : Tick) (s : Storylet) (c : Choice)
    (world : World) :
    (applyChoice catalog config difficulty now s c world stream).1.memories.capacity =
      world.memories.capacity := by
  cases h : c.memory with
  | none => rw [memories_applyChoice_of_none h]
  | some text =>
    rw [memories_applyChoice_of_some h]
    exact Window.capacity_push ..

/-- A change draws once if it has any jitter. -/
theorem after_applyStat (difficulty : Difficulty) (before : StatLedger × Stream)
    (delta : StatDelta) :
    Stream.After (if 0 < delta.jitter then 1 else 0) before.2
      (applyStat difficulty before delta).2 := by
  show Stream.After _ before.2 (drawJitter delta before.2).2
  unfold drawJitter
  split
  · next h =>
    -- the range around zero is not empty
    have hpositive : 0 < delta.jitter.toInt := Int32.lt_iff_toInt_lt.1 h
    apply Stream.after_between
    rw [Int32.lt_iff_toInt_lt, Word.toInt_neg_of_nonneg (Int32.le_of_lt h)]
    omega
  · exact Stream.After.refl _

/-- The number of draws that the changes of a choice make. -/
def jitters (c : Choice) : Nat := c.stats.countP fun delta => 0 < delta.jitter

theorem after_applyChoice (catalog : Catalog) (config : Config) (difficulty : Difficulty)
    (now : Tick) (s : Storylet) (c : Choice) (world : World) (stream : Stream) :
    Stream.After (jitters c) stream
      (applyChoice catalog config difficulty now s c world stream).2 := by
  have key : ∀ (deltas : List StatDelta) (before : StatLedger × Stream),
      Stream.After (deltas.countP fun delta => 0 < delta.jitter) before.2
        (deltas.foldl (applyStat difficulty) before).2 := by
    intro deltas
    induction deltas with
    | nil => intro before; exact Stream.After.refl _
    | cons delta rest ih =>
      intro before
      rw [List.foldl_cons, List.countP_cons, Nat.add_comm]
      simp only [decide_eq_true_eq]
      exact (after_applyStat difficulty before delta).trans (ih _)
  exact key c.stats (world.stats, stream)

/-! ## Expiry -/

/-- The storylet whose event closes at a tick, if the active event is over by then. -/
def lapsing (d : Director) (now : Tick) : Option StoryletId :=
  match d.active with
  | none => none
  | some e => if e.expiresAt ≤ now then some e.storylet else none

theorem lapsing_of_idle {now : Tick} (h : d.active = none) : d.lapsing now = none := by
  unfold lapsing
  rw [h]

theorem lapsing_of_active {now : Tick} {e : ActiveEvent} (h : d.active = some e) :
    d.lapsing now = if e.expiresAt ≤ now then some e.storylet else none := by
  unfold lapsing
  rw [h]

/-- The ways in which an expiry ends. -/
inductive ExpireOutcome (d : Director) (catalog : Catalog) (memories : MemoryLog) (now : Tick) :
    Director × MemoryLog × Option StoryletId → Prop
  | standing (lapsing : d.lapsing now = none) :
      ExpireOutcome d catalog memories now (d, memories, none)
  | lapsed (e : ActiveEvent) (active : d.active = some e)
      (lapsing : d.lapsing now = some e.storylet) :
      ExpireOutcome d catalog memories now
        (⟨none, d.history.recordExpired e.storylet⟩,
          MemoryLog.record memories now (lapseText catalog e.storylet), some e.storylet)

theorem expire_outcome (d : Director) (catalog : Catalog) (memories : MemoryLog) (now : Tick) :
    d.ExpireOutcome catalog memories now (d.expire catalog memories now) := by
  unfold expire
  cases hd : d.active with
  | none => exact .standing (lapsing_of_idle hd)
  | some e =>
    dsimp only
    split
    · next h => exact .lapsed e hd (by rw [lapsing_of_active hd, if_pos h])
    · next h => exact .standing (by rw [lapsing_of_active hd, if_neg h])

theorem expire_of_standing {now : Tick} (h : d.lapsing now = none) (catalog : Catalog)
    (memories : MemoryLog) : d.expire catalog memories now = (d, memories, none) := by
  have ho := d.expire_outcome catalog memories now
  generalize d.expire catalog memories now = after at ho
  cases ho with
  | standing => rfl
  | lapsed e _ lapsing =>
    rw [h] at lapsing
    cases lapsing

theorem expire_of_due {now : Tick} {e : ActiveEvent} (active : d.active = some e)
    (due : e.expiresAt ≤ now) (catalog : Catalog) (memories : MemoryLog) :
    d.expire catalog memories now =
      (⟨none, d.history.recordExpired e.storylet⟩,
        MemoryLog.record memories now (lapseText catalog e.storylet), some e.storylet) := by
  unfold expire
  rw [active]
  exact if_pos due

theorem capacity_expire (d : Director) (catalog : Catalog) (memories : MemoryLog) (now : Tick) :
    (d.expire catalog memories now).2.1.capacity = memories.capacity := by
  have h := d.expire_outcome catalog memories now
  generalize d.expire catalog memories now = after at h
  cases h with
  | standing => rfl
  | lapsed => exact Window.capacity_push ..

theorem expire_lapsed (d : Director) (catalog : Catalog) (memories : MemoryLog) (now : Tick) :
    (d.expire catalog memories now).2.2 = d.lapsing now := by
  have h := d.expire_outcome catalog memories now
  generalize d.expire catalog memories now = after at h
  cases h with
  | standing h => exact h.symm
  | lapsed e _ h => exact h.symm

/-- An expiry resolves nothing. -/
theorem lastResolvedAt?_expire (d : Director) (catalog : Catalog) (memories : MemoryLog)
    (now : Tick) (id : StoryletId) :
    (d.expire catalog memories now).1.history.lastResolvedAt? id =
      d.history.lastResolvedAt? id := by
  have h := d.expire_outcome catalog memories now
  generalize d.expire catalog memories now = after at h
  cases h <;> rfl

theorem resolvedCount_expire (d : Director) (catalog : Catalog) (memories : MemoryLog)
    (now : Tick) :
    (d.expire catalog memories now).1.history.resolvedCount = d.history.resolvedCount := by
  have h := d.expire_outcome catalog memories now
  generalize d.expire catalog memories now = after at h
  cases h <;> rfl

end Director

end LifeStory
