import Mathlib.Algebra.Order.BigOperators.Group.List
import Mathlib.Order.Interval.Set.Basic
import Mathlib.Tactic.GCongr
import Mathlib.Tactic.IntervalCases
import Mathlib.Tactic.Ring
import LifeStory.Proofs.Catalog.Accepted
import LifeStory.Proofs.Precision.Fraction
import LifeStory.Director

/-!
# Picking in proportion

The rules of selection are read over fractions here, without rounding. A draw from `[0, 1)` walks
along the weights and stops at the first item that takes their sum past its share of the total, so
each item is picked on an interval as long as its share, one interval after the other, and the walk
never runs off the end. The weights of storylets in a catalog are positive whatever the heat, and
no storylet loses weight when heat rises.

    sum + before items i ≤ target → target < sum + before items (i + 1) →
      firstPast? target sum items = some items[i].1                        (firstPast?_of_between)
    items ≠ [] → all weights positive → no item twice → Proportional items         (proportional)
    s.weightOver fraction heat config =
      fraction s.weight * max floor (1 + bias * (heat / 200 - 1 / 2) * intensity)
                                                                         (weightOver_fraction)
-/

namespace LifeStory

open Precision (fraction)

namespace Selection

variable {β : Type}

/-- The sum of the weights that stand before an item. -/
def before (items : List (β × ℚ)) (i : Nat) : ℚ := ((items.take i).map Prod.snd).sum

/-- Draws pick every item in proportion to its weight. -/
structure Proportional (items : List (β × ℚ)) : Prop where
  positive : ∀ item ∈ items, 0 < item.2
  pick_iff : ∀ draw, 0 ≤ draw → draw < 1 → ∀ (i : Nat) (h : i < items.length),
    pick draw items = some items[i].1 ↔
      before items i ≤ draw * total items ∧ draw * total items < before items (i + 1)
  /-- The draws that pick an item are an interval. -/
  picked : ∀ (i : Nat) (h : i < items.length),
    {draw | (0 ≤ draw ∧ draw < 1) ∧ pick draw items = some items[i].1} =
      Set.Ico (before items i / total items) (before items (i + 1) / total items)
  /-- It is as long as the item's share. -/
  share : ∀ (i : Nat) (h : i < items.length),
    before items (i + 1) / total items - before items i / total items =
      items[i].2 / total items
  /-- The walk decides; what is left at its end is never taken. -/
  decided : ∀ draw, 0 ≤ draw → draw < 1 →
    ∃ b, firstPast? (draw * total items) 0 items = some b ∧ pick draw items = some b

/-! ## Sums of weights -/

theorem before_zero (items : List (β × ℚ)) : before items 0 = 0 := rfl

theorem before_cons (item : β × ℚ) (rest : List (β × ℚ)) (i : Nat) :
    before (item :: rest) (i + 1) = item.2 + before rest i := by
  unfold before
  rw [List.take_succ_cons, List.map_cons, List.sum_cons]

theorem before_succ {items : List (β × ℚ)} {i : Nat} (h : i < items.length) :
    before items (i + 1) = before items i + items[i].2 := by
  induction items generalizing i with
  | nil => exact absurd h (Nat.not_lt_zero i)
  | cons item rest ih =>
    cases i with
    | zero => rw [before_cons, before_zero, before_zero, List.getElem_cons_zero, add_comm]
    | succ i =>
      have hi : i < rest.length := Nat.lt_of_succ_lt_succ h
      rw [before_cons, before_cons, ih hi, List.getElem_cons_succ, add_assoc]

theorem total_eq_before (items : List (β × ℚ)) : total items = before items items.length := by
  have hfold : ∀ (l : List (β × ℚ)) (sum : ℚ),
      l.foldl (fun sum item => sum + item.2) sum = sum + before l l.length := by
    intro l
    induction l with
    | nil =>
      intro sum
      exact (add_zero sum).symm
    | cons item rest ih =>
      intro sum
      rw [List.foldl_cons, ih, List.length_cons, before_cons, add_assoc]
  unfold total
  rw [hfold]
  exact zero_add _

variable {items : List (β × ℚ)} (positive : ∀ item ∈ items, 0 < item.2)

include positive

theorem before_nonneg (i : Nat) : 0 ≤ before items i := by
  unfold before
  apply List.sum_nonneg
  intro weight hweight
  obtain ⟨item, hitem, rfl⟩ := List.mem_map.1 hweight
  exact (positive item (List.mem_of_mem_take hitem)).le

theorem before_le_total (i : Nat) : before items i ≤ total items := by
  rw [total_eq_before]
  induction items generalizing i with
  | nil => cases i <;> exact le_rfl
  | cons item rest ih =>
    obtain ⟨hitem, hrest⟩ := List.forall_mem_cons.1 positive
    cases i with
    | zero => exact before_nonneg positive _
    | succ i =>
      rw [before_cons, List.length_cons, before_cons]
      exact add_le_add_right (ih hrest i) item.2

theorem total_pos (nonempty : items ≠ []) : 0 < total items := by
  cases items with
  | nil => exact absurd rfl nonempty
  | cons item rest =>
    obtain ⟨hitem, hrest⟩ := List.forall_mem_cons.1 positive
    have hbefore := before_nonneg hrest rest.length
    rw [total_eq_before, List.length_cons, before_cons]
    linarith

/-! ## The walk -/

/-- The walk stops at the item whose weight takes the sum past the target. -/
theorem firstPast?_of_between {target sum : ℚ} {i : Nat} (hi : i < items.length)
    (reached : sum + before items i ≤ target) (passed : target < sum + before items (i + 1)) :
    firstPast? target sum items = some items[i].1 := by
  induction items generalizing sum i with
  | nil => exact absurd hi (Nat.not_lt_zero i)
  | cons item rest ih =>
    obtain ⟨hitem, hrest⟩ := List.forall_mem_cons.1 positive
    unfold firstPast?
    cases i with
    | zero =>
      rw [before_cons, before_zero, add_zero] at passed
      exact if_pos passed
    | succ i =>
      have hi' : i < rest.length := Nat.lt_of_succ_lt_succ hi
      have hbefore := before_nonneg hrest i
      rw [before_cons] at reached passed
      have hnot : ¬target < sum + item.2 := by linarith
      rw [if_neg hnot, List.getElem_cons_succ]
      exact ih hrest hi' (by linarith) (by linarith)

omit positive in
/-- A target between two sums is passed at some item between them. -/
theorem exists_between {target sum : ℚ} (reached : sum ≤ target)
    (passed : target < sum + before items items.length) :
    ∃ i, i < items.length ∧ sum + before items i ≤ target ∧
      target < sum + before items (i + 1) := by
  induction items generalizing sum with
  | nil =>
    rw [List.length_nil, before_zero, add_zero] at passed
    exact absurd reached passed.not_ge
  | cons item rest ih =>
    by_cases hfirst : target < sum + item.2
    · refine ⟨0, Nat.succ_pos _, ?_, ?_⟩
      · rwa [before_zero, add_zero]
      · rwa [before_cons, before_zero, add_zero]
    · rw [List.length_cons, before_cons, ← add_assoc] at passed
      obtain ⟨i, hi, hreached, hpassed⟩ := ih (not_lt.1 hfirst) passed
      refine ⟨i + 1, Nat.succ_lt_succ hi, ?_, ?_⟩
      · rwa [before_cons, ← add_assoc]
      · rwa [before_cons, ← add_assoc]

/-- Every draw is decided by the walk. -/
theorem exists_picked (nonempty : items ≠ []) {draw : ℚ} (h₀ : 0 ≤ draw) (h₁ : draw < 1) :
    ∃ (i : Nat) (h : i < items.length),
      before items i ≤ draw * total items ∧ draw * total items < before items (i + 1) ∧
      firstPast? (draw * total items) 0 items = some items[i].1 := by
  have htotal := total_pos positive nonempty
  have hreached : 0 ≤ draw * total items := mul_nonneg h₀ htotal.le
  have hpassed : draw * total items < 0 + before items items.length := by
    rw [zero_add, ← total_eq_before]
    exact mul_lt_of_lt_one_left htotal h₁
  obtain ⟨i, hi, hlow, hhigh⟩ := exists_between hreached hpassed
  have hfirst := firstPast?_of_between positive hi hlow hhigh
  rw [zero_add] at hlow hhigh
  exact ⟨i, hi, hlow, hhigh, hfirst⟩

omit positive in
theorem pick_of_firstPast? {draw : ℚ} {b : β}
    (h : firstPast? (draw * total items) 0 items = some b) : pick draw items = some b := by
  unfold pick
  rw [h]

theorem pick_eq_some_iff (nodup : (items.map Prod.fst).Nodup) {draw : ℚ} (h₀ : 0 ≤ draw)
    (h₁ : draw < 1) {i : Nat} (hi : i < items.length) :
    pick draw items = some items[i].1 ↔
      before items i ≤ draw * total items ∧ draw * total items < before items (i + 1) := by
  constructor
  · intro hpick
    have nonempty : items ≠ [] := List.ne_nil_of_length_pos (Nat.zero_lt_of_lt hi)
    obtain ⟨j, hj, hreached, hpassed, hfirst⟩ := exists_picked positive nonempty h₀ h₁
    rw [pick_of_firstPast? hfirst, Option.some.injEq] at hpick
    have hsame : j = i := by
      have hj' : j < (items.map Prod.fst).length := by rwa [List.length_map]
      have hi' : i < (items.map Prod.fst).length := by rwa [List.length_map]
      have hkeys : (items.map Prod.fst)[j] = (items.map Prod.fst)[i] := by
        rwa [List.getElem_map, List.getElem_map]
      exact nodup.getElem_inj_iff.1 hkeys
    rw [← hsame]
    exact ⟨hreached, hpassed⟩
  · rintro ⟨hreached, hpassed⟩
    refine pick_of_firstPast? (firstPast?_of_between positive hi ?_ ?_)
    · rwa [zero_add]
    · rwa [zero_add]

/-- Items with positive weights, each there once, are picked in proportion. -/
theorem proportional (nonempty : items ≠ []) (nodup : (items.map Prod.fst).Nodup) :
    Proportional items := by
  have htotal := total_pos positive nonempty
  constructor
  case positive => exact positive
  case pick_iff =>
    intro draw h₀ h₁ i hi
    exact pick_eq_some_iff positive nodup h₀ h₁ hi
  case picked =>
    intro i hi
    ext draw
    rw [Set.mem_Ico, div_le_iff₀ htotal, lt_div_iff₀ htotal]
    constructor
    · rintro ⟨⟨h₀, h₁⟩, hpick⟩
      exact (pick_eq_some_iff positive nodup h₀ h₁ hi).1 hpick
    · rintro ⟨hreached, hpassed⟩
      have hleast : 0 * total items ≤ draw * total items := by
        rw [zero_mul]
        exact (before_nonneg positive i).trans hreached
      have hgreatest : draw * total items < 1 * total items := by
        rw [one_mul]
        exact hpassed.trans_le (before_le_total positive (i + 1))
      have h₀ : 0 ≤ draw := le_of_mul_le_mul_right hleast htotal
      have h₁ : draw < 1 := lt_of_mul_lt_mul_right hgreatest htotal.le
      exact ⟨⟨h₀, h₁⟩, (pick_eq_some_iff positive nodup h₀ h₁ hi).2 ⟨hreached, hpassed⟩⟩
  case share =>
    intro i hi
    rw [before_succ hi]
    ring
  case decided =>
    intro draw h₀ h₁
    obtain ⟨i, hi, -, -, hfirst⟩ := exists_picked positive nonempty h₀ h₁
    exact ⟨_, hfirst, pick_of_firstPast? hfirst⟩

end Selection

/-! ## Weights -/

namespace Storylet

section Over

variable {α : Type} [Add α] [Sub α] [Mul α] [Div α] [LT α] [DecidableLT α] [∀ n : Nat, OfNat α n]

/-- The weight of the storylet at some heat, in numbers of a kind that doubles are read as. -/
def weightOver (s : Storylet) (read : Float → α) (heat : α) (config : Config) : α :=
  read s.weight * Selection.heatFactor (read config.heatBias) (read config.minWeightFactor) heat
    (read (Float.ofNat s.intensity.toNat))

end Over

/-- Read as themselves, doubles give the weight that a game computes with. -/
theorem weightOver_id (s : Storylet) (heat : Float32) (config : Config) :
    s.weightOver (fun x => x) (Precision.widen heat) config = s.weightAt heat config := rfl

/-- Read as fractions, they give the weight without rounding. -/
theorem weightOver_fraction {s : Storylet} (h : s.intensity ≤ greatestIntensity) (heat : ℚ)
    (config : Config) :
    s.weightOver fraction heat config =
      fraction s.weight * max (fraction config.minWeightFactor)
        (1 + fraction config.heatBias * (heat / 200 - 1 / 2) * s.intensity.toNat) := by
  have hintensity : fraction (Float.ofNat s.intensity.toNat) = s.intensity.toNat := by
    have hle : s.intensity.toNat ≤ 3 := UInt8.le_iff_toNat_le.1 h
    generalize s.intensity.toNat = n at hle
    interval_cases n <;> decide +kernel
  unfold weightOver Selection.heatFactor Selection.share
  rw [hintensity, max_def_lt]

end Storylet

/-! ## What the rules of content and configuration give -/

theorem Catalog.Accepted.weight_pos {catalog : Catalog} (h : catalog.Accepted) {s : Storylet}
    (hs : s ∈ catalog.storylets) : 0 < fraction s.weight := by
  have hlawful := h.lawful.storylet s hs
  exact (Precision.zero_lt_iff hlawful.isFinite_weight).1 hlawful.weight_pos

theorem Config.Valid.selection {config : Config} (h : config.Valid) :
    0 ≤ fraction config.heatBias ∧ 0 < fraction config.minWeightFactor := by
  unfold Config.Valid Config.fault? at h
  split at h
  · cases h
  · split at h
    · cases h
    · split at h
      · cases h
      · next hrates =>
        rw [List.find?_eq_none] at hrates
        have hbias : config.heatBias.isFinite = true := by
          simpa using hrates ("heat_bias", config.heatBias) (by simp [Config.rates])
        have hfloor : config.minWeightFactor.isFinite = true := by
          simpa using hrates ("min_weight_factor", config.minWeightFactor) (by simp [Config.rates])
        split_ifs at h with _ _ hselection hleast
        rw [not_or, Precision.lt_zero_iff hbias] at hselection
        rw [Precision.le_zero_iff hfloor] at hleast
        exact ⟨not_lt.1 hselection.2, not_le.1 hleast⟩

/-! ## Candidates -/

/-- The storylets of the candidates are some of the catalog, in its order. -/
theorem Director.map_storylet_eligible (d : Director) (catalog : Catalog) (situation : Situation) :
    (d.eligible catalog situation).map Candidate.storylet =
      catalog.storylets.filter fun s => (d.candidate? situation s).isSome := by
  unfold eligible
  induction catalog.storylets with
  | nil => rfl
  | cons s rest ih =>
    cases hs : d.candidate? situation s with
    | none => rw [List.filterMap_cons_none hs, List.filter_cons_of_neg (by simp [hs]), ih]
    | some c =>
      have hstorylet : c.storylet = s := by
        unfold candidate? at hs
        dsimp only at hs
        split_ifs at hs
        cases hs
        rfl
      rw [List.filterMap_cons_some hs, List.filter_cons_of_pos (by simp [hs]), List.map_cons,
        hstorylet, ih]

theorem Director.sublist_eligible (d : Director) (catalog : Catalog) (situation : Situation) :
    ((d.eligible catalog situation).map Candidate.storylet).Sublist catalog.storylets := by
  rw [map_storylet_eligible]
  exact List.filter_sublist

namespace Catalog.Accepted

variable {catalog : Catalog} {config : Config}

theorem weightOver_pos (accepted : catalog.Accepted) (valid : config.Valid) {s : Storylet}
    (hs : s ∈ catalog.storylets) (heat : ℚ) : 0 < s.weightOver fraction heat config := by
  rw [Storylet.weightOver_fraction (accepted.lawful.storylet s hs).intensity]
  exact mul_pos (accepted.weight_pos hs) (lt_max_of_lt_left valid.selection.2)

theorem monotone_weightOver (accepted : catalog.Accepted) (valid : config.Valid) {s : Storylet}
    (hs : s ∈ catalog.storylets) : Monotone fun heat => s.weightOver fraction heat config := by
  intro heat heat' hle
  have hweight := accepted.weight_pos hs
  have hbias := valid.selection.1
  have hintensity : (0 : ℚ) ≤ s.intensity.toNat := Nat.cast_nonneg _
  dsimp only
  rw [Storylet.weightOver_fraction (accepted.lawful.storylet s hs).intensity,
    Storylet.weightOver_fraction (accepted.lawful.storylet s hs).intensity]
  gcongr

/-- Candidates are picked in proportion to their weights, in the order of their ids, and none loses
weight when heat rises. -/
theorem picks_proportional (accepted : catalog.Accepted) (valid : config.Valid)
    {candidates : List Candidate} (nonempty : candidates ≠ [])
    (listed : (candidates.map Candidate.storylet).Sublist catalog.storylets) :
    (∀ heat, Selection.Proportional
      (candidates.map fun c => (c, c.storylet.weightOver fraction heat config))) ∧
    (candidates.Pairwise fun b c => b.storylet.id < c.storylet.id) ∧
    ∀ c ∈ candidates, Monotone fun heat => c.storylet.weightOver fraction heat config := by
  have hmem : ∀ c ∈ candidates, c.storylet ∈ catalog.storylets := by
    intro c hc
    exact listed.mem (List.mem_map_of_mem hc)
  have hordered : candidates.Pairwise fun b c => b.storylet.id < c.storylet.id := by
    have hids := accepted.pairwise_ids_lt.sublist listed
    rwa [List.pairwise_map] at hids
  refine ⟨?_, hordered, fun c hc => accepted.monotone_weightOver valid (hmem c hc)⟩
  intro heat
  apply Selection.proportional
  · intro item hitem
    obtain ⟨c, hc, rfl⟩ := List.mem_map.1 hitem
    exact accepted.weightOver_pos valid (hmem c hc) heat
  · simpa using nonempty
  · rw [List.map_map]
    show (candidates.map fun c => c).Nodup
    rw [List.map_id']
    refine hordered.imp ?_
    rintro b c hlt rfl
    exact String.lt_irrefl _ hlt

/-- A quiet storylet and a loud one that weighs less. -/
def weatherCatalog : Catalog :=
  .of
    [{ id := "storm", title := "Storm", intensity := 3, weight := 0.5
       choices := [{ id := "shelter", label := "Take shelter" }] },
     { id := "stroll", title := "Stroll", choices := [{ id := "walk", label := "Walk on" }] }]
    [] (by decide)

/-- A morning on which nothing has happened yet. -/
def firstMorning : Situation where
  stats := .resting
  relationships := .empty
  pressure := .initial
  age := 6
  stage := .child
  period := .morning
  now := 0
  ticksPerDay := 24
  contentMode := false
  lapsed := none

/-- Both storylets are eligible. At the greatest heat the storm has five quarters of the weight of
the stroll, and so the lower five ninths of the draws. -/
theorem picks_proportional_weather :
    weatherCatalog.Accepted ∧ Config.Valid {} ∧
    ∃ storm stroll,
      (Director.initial 4).eligible weatherCatalog firstMorning = [storm, stroll] ∧
      (∀ heat, Selection.Proportional
        [(storm, storm.storylet.weightOver fraction heat {}),
          (stroll, stroll.storylet.weightOver fraction heat {})]) ∧
      storm.storylet.id < stroll.storylet.id ∧
      (Monotone fun heat => storm.storylet.weightOver fraction heat {}) ∧
      storm.storylet.weightOver fraction 200 {} = 5 / 4 ∧
      stroll.storylet.weightOver fraction 200 {} = 1 := by
  have accepted : weatherCatalog.Accepted := ⟨weatherCatalog.storylets, [], rfl⟩
  have valid : Config.Valid {} := rfl
  have listed := (Director.initial 4).sublist_eligible weatherCatalog firstMorning
  obtain ⟨hproportional, hordered, hmonotone⟩ := picks_proportional accepted valid
    (List.cons_ne_nil _ _) listed
  have hids := (List.pairwise_cons.1 hordered).1 _ List.mem_cons_self
  exact ⟨accepted, valid, _, _, rfl, hproportional, hids, hmonotone _ List.mem_cons_self,
    by decide +kernel, by decide +kernel⟩

end Catalog.Accepted

end LifeStory
