import LifeStory.Storylet.Basic

/-!
# Adolescence

Scenes of the teenage years: secrets, parties, and temptations.
-/

namespace LifeStory.Builtin

/-- Late Night Call. -/
def lateNightCall : Storylet where
  id := "late_night_call"
  title := "Late Night Call"
  body := "Your phone buzzes after midnight. It's Mira."
  intensity := 2
  weight := 2
  conditions := [.lifeStageIn [.teen], .timeOfDay [.night, .evening], .knowsNpc "mira"]
  cooldownDays := 60
  choices := [
    { id := "pick_up"
      label := "Pick up"
      stats := [⟨.energy, -10, 0⟩, ⟨.mood, 1, 0⟩]
      relationships := [⟨"mira", .affection, 1⟩, ⟨"mira", .trust, 1⟩, ⟨"mira", .attraction, 2⟩] },
    { id := "let_it_ring"
      label := "Let it ring"
      relationships := [⟨"mira", .trust, -1⟩] }]

/-- Party at the Quarry. -/
def partyInvite : Storylet where
  id := "party_invite"
  title := "Party at the Quarry"
  body := "Someone's older brother is buying. Everyone's going."
  intensity := 3
  weight := 1
  conditions := [.lifeStageIn [.teen]]
  cooldownDays := 90
  mature := true
  choices := [
    { id := "go_wild"
      label := "Go and drink"
      stats := [⟨.health, -4, 2⟩, ⟨.mood, 3, 0⟩, ⟨.reputation, 3, 0⟩]
      karma := -2
      heat := 15
      memory := "The quarry party was a blur." },
    { id := "designated_driver"
      label := "Go, but stay sober"
      stats := [⟨.reputation, 1, 0⟩, ⟨.wisdom, 2, 0⟩]
      karma := 3
      heat := 5 },
    { id := "stay_home"
      label := "Stay home"
      stats := [⟨.mood, -1, 0⟩, ⟨.stability, 1, 0⟩] }]

/-- Caught. -/
def caughtShoplifting : Storylet where
  id := "caught_shoplifting"
  title := "Caught"
  body := "The store guard's hand lands on your shoulder."
  intensity := 3
  weight := 1
  conditions := [.karmaAtMost (-10), .ageAtLeast 12]
  once := true
  choices := [
    { id := "come_clean"
      label := "Come clean"
      stats := [⟨.reputation, -5, 0⟩, ⟨.stability, 2, 0⟩]
      relationships := [⟨"dad", .affection, 1⟩, ⟨"dad", .trust, -2⟩]
      karma := 8
      heat := 10
      memory := "You got caught, and you told the truth." },
    { id := "bolt"
      label := "Bolt for the door"
      stats := [⟨.health, -3, 0⟩, ⟨.reputation, -8, 0⟩]
      karma := -5
      heat := 25 }]

/-- Quiet Evening. -/
def quietEvening : Storylet where
  id := "quiet_evening"
  title := "Quiet Evening"
  body := "Nothing much happens. Sometimes that is a gift."
  weight := 2
  conditions := [.heatAtLeast 60]
  cooldownDays := 7
  choices := [
    { id := "breathe"
      label := "Take a breath"
      stats := [⟨.mood, 1, 0⟩, ⟨.stability, 2, 0⟩]
      heat := -20 }]

/-- The scenes of this module. -/
def adolescence : List Storylet :=
  [lateNightCall, partyInvite, caughtShoplifting, quietEvening]

end LifeStory.Builtin
