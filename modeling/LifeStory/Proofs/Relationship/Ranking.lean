import LifeStory.Proofs.Precision.TotalOrder
import LifeStory.Relationship.Graph

/-!
# The ranking of relationships

The ranking is the graph's relationships in another order: by affection plus trust in the total order
of singles, greatest first, and of two that are equal the one that was touched first.

    rankedBefore x y = true ↔ rank y ≤ rank x                                (rankedBefore_iff)
    g.ranked.Perm g.records                                                  (ranked_perm)
    g.ranked.Pairwise (.Precedes g.records)                                  (pairwise_ranked)
-/

namespace LifeStory

open LifeStory.Precision

/-- Of two relationships of a list the first has more affection and trust, or as much and is the
earlier one in the list. -/
def Relationship.Precedes (records : List Relationship) (r s : Relationship) : Prop :=
  totalCompare (r.affection + r.trust) (s.affection + s.trust) = .gt ∨
  totalCompare (r.affection + r.trust) (s.affection + s.trust) = .eq ∧ [r, s].Sublist records

namespace RelationshipGraph

theorem rankedBefore_iff (x y : Float32) : rankedBefore x y = true ↔ rank y ≤ rank x := by
  unfold rankedBefore
  rw [Bool.or_eq_true, decide_eq_true_iff]
  by_cases hx : x.isNaN = true
  · refine iff_of_true (.inl hx) ?_
    by_cases hy : y.isNaN = true
    · exact (rankOf_of_isNaN hy hx).le
    · exact (rankOf_lt_of_isNaN (Bool.eq_false_iff.2 hy) hx).le
  · rw [or_iff_right hx]
    by_cases hy : y.isNaN = true
    · exact iff_of_false (fun hle => absurd hy (Bool.eq_false_iff.1 (isNaN_of_le hle).1))
        (rankOf_lt_of_isNaN (Bool.eq_false_iff.2 hx) hy).not_ge
    · exact le_iff_rank (Bool.eq_false_iff.2 hy) (Bool.eq_false_iff.2 hx)

theorem ranked_perm (g : RelationshipGraph) : g.ranked.Perm g.records := sortBy_perm ..

theorem pairwise_ranked (g : RelationshipGraph) :
    g.ranked.Pairwise (Relationship.Precedes g.records) := by
  have hsorted : g.ranked.Pairwise fun r s => rank s.rankKey ≤ rank r.rankKey := by
    refine (pairwise_sortBy ?_ ?_ g.records).imp fun h => (rankedBefore_iff _ _).1 h
    · intro r s
      rw [rankedBefore_iff, rankedBefore_iff]
      exact le_total _ _
    · intro r s t hrs hst
      rw [rankedBefore_iff] at hrs hst ⊢
      exact hst.trans hrs
  have hstable : g.ranked.Pairwise fun r s => rank r.rankKey ≤ rank s.rankKey →
      [r, s].Sublist g.records :=
    (stable_sortBy _ g.records).imp fun h hle => h ((rankedBefore_iff _ _).2 hle)
  refine hsorted.imp₂ (fun r s hle hfirst => ?_) hstable
  unfold Relationship.Precedes
  rw [totalCompare_eq_compare, compare_gt_iff_gt, compare_eq_iff_eq]
  obtain hlt | heq := hle.lt_or_eq
  · exact .inl hlt
  · exact .inr ⟨heq.symm, hfirst heq.ge⟩

end RelationshipGraph

end LifeStory
