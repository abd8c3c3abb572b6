import LifeStory.Catalog.Basic
import LifeStory.Content.Builtin.Childhood
import LifeStory.Content.Builtin.Adolescence
import LifeStory.Content.Builtin.Adulthood

/-!
# The built-in catalog

The content that a game has where no other is given.
-/

namespace LifeStory

/-- The characters of the built-in content. -/
def Builtin.npcs : List Npc :=
  [⟨"mom", "Mom"⟩,
    ⟨"dad", "Dad"⟩,
    ⟨"mira", "Mira"⟩,
    ⟨"theo", "Theo"⟩,
    ⟨"coach", "Coach Reyes"⟩,
    ⟨"sam", "Sam"⟩]

/-- The storylets of the built-in content. -/
def Builtin.storylets : List Storylet :=
  Builtin.childhood ++ Builtin.adolescence ++ Builtin.adulthood

theorem Builtin.nodup_ids : (Builtin.storylets.map Storylet.id).Nodup := by
  decide +kernel

/-- The built-in content, in order. -/
def Catalog.builtin : Catalog :=
  .of (sortBy (fun s t => s.id ≤ t.id) Builtin.storylets) Builtin.npcs <|
    ((sortBy_perm _ _).map Storylet.id).nodup_iff.2 Builtin.nodup_ids

end LifeStory
