import LifeStory.Proofs.Precision.Single
import LifeStory.Proofs.Session.ActiveEvent

/-!
# Bounds of heat and relationships

Heat and the axes of relationships are sums that are held in their ranges. What is added may be
infinite: a product of rates and days can pass all singles. Heat turns down an amount that is no
number, and is finite, so the sum is a number; an axis turns down the sum itself. So neither is ever
left by a value that is no number, or past its bounds.

    p.InRange → (p.addHeat amount).InRange                  (Pressure.InRange.addHeat)
    r.InRange → (r.applyDelta axis amount).InRange          (Relationship.InRange.applyDelta)
    g.InRange → (g.touch npc name axis amount).InRange      (RelationshipGraph.InRange.touch)
    s.Reachable → s.Bounded                                 (Session.Reachable.bounded)
-/

namespace LifeStory

/-! ## Heat -/

namespace Pressure

/-- Heat is a number in its range. -/
def InRange (p : Pressure) : Prop := Precision.Within leastHeat greatestHeat p.heat

theorem bounds_heat : Precision.Bounds leastHeat greatestHeat where
  finite_least := by decide
  finite_greatest := by decide
  least_le_greatest := by decide

theorem inRange_initial : initial.InRange where
  isNaN := by decide
  least_le := by decide
  le_greatest := by decide

theorem InRange.addHeat {p : Pressure} (h : p.InRange) (amount : Float32) :
    (p.addHeat amount).InRange := by
  unfold Pressure.addHeat
  split
  · exact h
  · next hnumber =>
    have hsum := Precision.isNaN_add (h.isFinite bounds_heat) (Bool.eq_false_iff.2 hnumber)
    exact bounds_heat.within_hold hsum

theorem InRange.decayHeat {p : Pressure} (h : p.InRange) (days : UInt64) (rate : Float32) :
    (p.decayHeat days rate).InRange := by
  unfold Pressure.decayHeat
  split
  · exact h
  · exact h.addHeat _

end Pressure

/-! ## Relationships -/

namespace Relationship

/-- Every axis is a number in its range. -/
def InRange (r : Relationship) : Prop :=
  ∀ axis : Axis, Precision.Within axis.least axis.greatest (r.get axis)

theorem bounds_axis (axis : Axis) : Precision.Bounds axis.least axis.greatest := by
  constructor <;> cases axis <;> decide

theorem inRange_zero (npc : NpcId) (name : String) : (zero npc name).InRange := by
  have hzero : ∀ axis : Axis, Precision.Within axis.least axis.greatest 0 := by
    intro axis
    constructor <;> cases axis <;> decide
  intro axis
  cases axis <;> exact hzero _

theorem InRange.applyDelta {r : Relationship} (h : r.InRange) (axis : Axis) (amount : Float32) :
    (r.applyDelta axis amount).InRange := by
  unfold Relationship.applyDelta
  dsimp only
  split
  · exact h
  · next hnumber =>
    intro other
    rw [get_set]
    split
    · next hsame =>
      rw [hsame]
      exact (bounds_axis axis).within_hold (Bool.eq_false_iff.2 hnumber)
    · exact h other

end Relationship

namespace RelationshipGraph

/-- Every relationship is in range. -/
def InRange (g : RelationshipGraph) : Prop := ∀ r ∈ g.records, r.InRange

theorem inRange_empty : empty.InRange := fun _ h => nomatch h

theorem InRange.ensure {g : RelationshipGraph} (h : g.InRange) (npc : NpcId) (name : String) :
    (g.ensure npc name).InRange := by
  intro r hr
  cases hknown : g.contains npc with
  | true =>
    rw [ensure_of_known hknown] at hr
    exact h r hr
  | false =>
    rw [ensure_of_new hknown] at hr
    obtain hr | hr := List.mem_append.1 hr
    · exact h r hr
    · rw [List.mem_singleton.1 hr]
      exact Relationship.inRange_zero npc name

theorem InRange.touch {g : RelationshipGraph} (h : g.InRange) (npc : NpcId) (name : String)
    (axis : Axis) (amount : Float32) : (g.touch npc name axis amount).InRange := by
  intro r hr
  unfold RelationshipGraph.touch at hr
  rw [records_modify] at hr
  obtain ⟨before, hbefore, rfl⟩ := List.mem_map.1 hr
  have hrange := h.ensure npc name before hbefore
  split
  · exact hrange.applyDelta axis amount
  · exact hrange

end RelationshipGraph

/-! ## Sessions -/

namespace Session

/-- Heat and every axis of every relationship are numbers in their ranges. -/
structure Bounded (s : Session) : Prop where
  pressure : s.world.pressure.InRange
  relationships : s.world.relationships.InRange

/-- Days take heat, and a pass leaves both alone. -/
theorem Bounded.advanced {s : Session} (h : s.Bounded) (ticks : UInt64) :
    (s.advanced ticks).Bounded := by
  constructor
  · show (s.elapse ticks).world.pressure.InRange
    rw [pressure_elapse]
    exact h.pressure.decayHeat _ _
  · show (s.elapse ticks).world.relationships.InRange
    rw [relationships_elapse]
    exact h.relationships

theorem Bounded.settle {s : Session} (h : s.Bounded) (t : Storylet) (c : Choice) :
    (s.settle t c).Bounded where
  pressure :=
    Pressure.InRange.addHeat (p := s.world.pressure.addKarma c.karma) h.pressure _
  relationships :=
    List.foldlRecOn c.relationships _ h.relationships fun _ hg _ _ => hg.touch _ _ _ _

theorem Reachable.bounded {s : Session} (h : s.Reachable) : s.Bounded :=
  h.of_moves (fun _ _ _ _ => ⟨Pressure.inRange_initial, RelationshipGraph.inRange_empty⟩)
    (fun _ h => ⟨h.pressure, h.relationships⟩) (fun _ ticks h => h.advanced ticks)
    (fun _ t c h => h.settle t c) (fun _ _ h => ⟨h.pressure, h.relationships⟩)

/-- Heat and relationships stay in their ranges, and are numbers, whatever amounts the content and
the configuration have and however many days pass: heat from 0 to 200, familiarity from 0 to 10 and
every other axis from -10 to 10. -/
theorem bounded_numbers {s : Session} (h : s.Reachable) :
    (s.world.pressure.heat.isNaN = false ∧
      0 ≤ s.world.pressure.heat ∧ s.world.pressure.heat ≤ 200) ∧
    ∀ r ∈ s.world.relationships.records,
      (r.familiarity.isNaN = false ∧ 0 ≤ r.familiarity ∧ r.familiarity ≤ 10) ∧
      ∀ axis, axis ≠ .familiarity →
        (r.get axis).isNaN = false ∧ -10 ≤ r.get axis ∧ r.get axis ≤ 10 := by
  have hbounded := h.bounded
  constructor
  · exact ⟨hbounded.pressure.isNaN, hbounded.pressure.least_le, hbounded.pressure.le_greatest⟩
  · intro r hr
    have hrange := hbounded.relationships r hr
    have hfamiliarity := hrange .familiarity
    refine ⟨⟨hfamiliarity.isNaN, hfamiliarity.least_le, hfamiliarity.le_greatest⟩, ?_⟩
    intro axis hne
    have hleast : axis.least = -10 := by
      cases axis with
      | familiarity => exact absurd rfl hne
      | _ => rfl
    have haxis := hrange axis
    exact ⟨haxis.isNaN, hleast ▸ haxis.least_le, haxis.le_greatest⟩

/-- Eight days of this decay are infinite. -/
def coolConfig : Config := { activationChance := 1, heatDecayPerDay := 3e38 }

def coolGame : Session := (fresh 42 kneePlayer kneeCatalog coolConfig).pass none

/-- A choice adds heat and trust, and then eight days take all heat. -/
theorem bounded_numbers_coolGame :
    let s := coolGame.run kneeCalls
    (coolConfig.heatDecayPerDay * 8).isInf = true ∧ s.world.relationships.records.length = 1 ∧
    s.world.pressure.heat.isNaN = false ∧ 0 ≤ s.world.pressure.heat ∧
    ∀ r ∈ s.world.relationships.records, -10 ≤ r.trust ∧ r.trust ≤ 10 := by
  intro s
  have valid : coolConfig.fault? = none := by decide +kernel
  have hgame : coolGame.Reachable :=
    .start accepted_kneeCatalog (start_eq_ok_iff.2 ⟨valid, rfl, by decide, rfl⟩)
  obtain ⟨⟨hnumber, hleast, -⟩, haxes⟩ :=
    bounded_numbers (s := s) (hgame.run kneeCalls)
  refine ⟨by decide +kernel, by decide +kernel, hnumber, hleast, fun r hr => ?_⟩
  exact ((haxes r hr).2 .trust (by decide)).2

end Session

end LifeStory
