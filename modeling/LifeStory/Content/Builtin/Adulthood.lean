import LifeStory.Storylet.Basic

/-!
# Adulthood

Scenes of grown-up life.
-/

namespace LifeStory.Builtin

/-- First Paycheck. -/
def firstPaycheck : Storylet where
  id := "first_paycheck"
  title := "First Paycheck"
  body := "It isn't much, but it's yours."
  intensity := 1
  weight := 3
  conditions := [.lifeStageIn [.adult]]
  once := true
  choices := [
    { id := "save_it"
      label := "Put it in savings"
      stats := [⟨.stability, 2, 0⟩, ⟨.wealth, 5, 0⟩] },
    { id := "treat_parents"
      label := "Take your parents to dinner"
      stats := [⟨.mood, 2, 0⟩, ⟨.wealth, 2, 0⟩]
      relationships := [⟨"mom", .affection, 2⟩, ⟨"dad", .affection, 2⟩]
      karma := 2 }]

/-- An Old Friend Returns. -/
def oldFriendReturns : Storylet where
  id := "old_friend_returns"
  title := "An Old Friend Returns"
  body := "Theo is back in town and asks if you want to grab coffee."
  intensity := 1
  weight := 2
  conditions := [.lifeStageIn [.adult, .elder], .knowsNpc "theo"]
  cooldownDays := 365
  choices := [
    { id := "coffee"
      label := "Grab coffee"
      stats := [⟨.mood, 2, 0⟩]
      relationships := [⟨"theo", .affection, 2⟩, ⟨"theo", .familiarity, 2⟩] },
    { id := "too_busy"
      label := "Say you're too busy"
      relationships := [⟨"theo", .affection, -1⟩] }]

/-- The scenes of this module. -/
def adulthood : List Storylet :=
  [firstPaycheck, oldFriendReturns]

end LifeStory.Builtin
