import LifeStory.Storylet.Basic

/-!
# Childhood

Scenes of the early years: school, family, and the first friends. A few of them stay open to
later ages.
-/

namespace LifeStory.Builtin

/-- First Day of School. -/
def firstDayOfSchool : Storylet where
  id := "first_day_of_school"
  title := "First Day of School"
  body :=
    "The classroom smells of crayons and floor polish. A girl with a gap-toothed grin waves at " ++
      "you."
  intensity := 1
  weight := 4
  conditions := [.lifeStageIn [.child]]
  once := true
  choices := [
    { id := "wave_back"
      label := "Wave back and sit next to her"
      stats := [⟨.charisma, 2, 0⟩, ⟨.mood, 2, 0⟩]
      relationships := [⟨"mira", .affection, 2⟩, ⟨"mira", .familiarity, 2⟩]
      memory := "On your first day of school you met Mira." },
    { id := "sit_alone"
      label := "Find a desk by the window"
      stats := [⟨.curiosity, 2, 0⟩, ⟨.mood, -1, 0⟩]
      memory := "You spent your first day of school watching clouds." }]

/-- Scraped Knee. -/
def scrapedKnee : Storylet where
  id := "scraped_knee"
  title := "Scraped Knee"
  body := "You misjudge the curb and hit the pavement hard."
  intensity := 1
  weight := 3
  conditions := [.lifeStageIn [.child]]
  cooldownDays := 30
  choices := [
    { id := "get_back_up"
      label := "Get back up and keep running"
      stats := [⟨.health, -2, 0⟩, ⟨.stability, 2, 0⟩]
      memory := "You fell hard and got right back up." },
    { id := "run_home"
      label := "Run home crying"
      stats := [⟨.health, -1, 0⟩, ⟨.mood, -1, 0⟩]
      relationships := [⟨"mom", .affection, 1⟩, ⟨"mom", .trust, 1⟩]
      memory := "Mom patched up your knee." }]

/-- The Kite in the Oak. -/
def lostKite : Storylet where
  id := "lost_kite"
  title := "The Kite in the Oak"
  body := "Theo's new kite is tangled in the highest branches of the old oak."
  intensity := 1
  weight := 2
  conditions := [.lifeStageIn [.child], .statAtLeast .curiosity 40]
  cooldownDays := 60
  choices := [
    { id := "climb"
      label := "Climb up after it"
      stats := [⟨.health, -3, 1⟩, ⟨.reputation, 2, 0⟩, ⟨.strength, 2, 0⟩]
      relationships := [⟨"theo", .affection, 2⟩, ⟨"theo", .trust, 1⟩, ⟨"theo", .familiarity, 1⟩]
      heat := 3
      memory := "You climbed the old oak for Theo's kite." },
    { id := "fetch_adult"
      label := "Go find a grown-up"
      stats := [⟨.wisdom, 1, 0⟩]
      relationships := [⟨"theo", .familiarity, 1⟩] },
    { id := "laugh"
      label := "Laugh at Theo"
      stats := [⟨.charisma, -1, 0⟩]
      relationships := [⟨"theo", .affection, -2⟩, ⟨"theo", .resentment, 2⟩]
      karma := -3
      heat := 4 }]

/-- A Library Card of Your Own. -/
def libraryCard : Storylet where
  id := "library_card"
  title := "A Library Card of Your Own"
  body := "The librarian slides a laminated card across the counter."
  weight := 2
  conditions := [.ageAtLeast 7]
  once := true
  choices := [
    { id := "borrow_stack"
      label := "Borrow as many books as allowed"
      stats := [⟨.curiosity, 2, 0⟩, ⟨.energy, -5, 0⟩, ⟨.intelligence, 3, 0⟩]
      memory := "You carried home a tower of library books." },
    { id := "just_comics"
      label := "Head straight for the comics"
      stats := [⟨.curiosity, 1, 0⟩, ⟨.mood, 2, 0⟩] }]

/-- The Broken Vase. -/
def brokenVase : Storylet where
  id := "broken_vase"
  title := "The Broken Vase"
  body := "A ball, a living room, and now Grandma's vase in three pieces."
  intensity := 2
  weight := 2
  conditions := [.lifeStageIn [.child, .teen]]
  cooldownDays := 120
  choices := [
    { id := "confess"
      label := "Tell Dad the truth"
      stats := [⟨.mood, -2, 0⟩, ⟨.stability, 1, 0⟩]
      relationships := [⟨"dad", .trust, 2⟩]
      karma := 4
      memory := "You owned up to breaking the vase." },
    { id := "blame_sam"
      label := "Blame Sam"
      stats := [⟨.mood, 1, 0⟩]
      relationships := [⟨"dad", .trust, -1⟩, ⟨"sam", .trust, -2⟩, ⟨"sam", .resentment, 3⟩]
      karma := -6
      heat := 8
      memory := "You let Sam take the blame for the vase." }]

/-- Rainy Saturday. -/
def rainySaturday : Storylet where
  id := "rainy_saturday"
  title := "Rainy Saturday"
  body := "Rain drums on the windows all day."
  weight := 3
  conditions := [.lifeStageIn [.child, .teen], .timeOfDay [.morning, .afternoon]]
  cooldownDays := 14
  choices := [
    { id := "board_game"
      label := "Drag out a board game with Mom"
      stats := [⟨.intelligence, 1, 0⟩, ⟨.mood, 2, 0⟩]
      relationships := [⟨"mom", .affection, 1⟩, ⟨"mom", .familiarity, 1⟩] },
    { id := "puddles"
      label := "Go jump in puddles"
      stats := [⟨.health, -1, 0⟩, ⟨.mood, 3, 1⟩] }]

/-- Mira's Secret. -/
def miraSecret : Storylet where
  id := "mira_secret"
  title := "Mira's Secret"
  body := "Mira pulls you aside at recess. She made you promise not to tell anyone."
  intensity := 2
  weight := 2
  conditions := [.relationshipAtLeast "mira" .affection 2, .resolved "first_day_of_school"]
  once := true
  choices := [
    { id := "keep_it"
      label := "Keep her secret"
      relationships := [⟨"mira", .affection, 1⟩, ⟨"mira", .trust, 3⟩]
      karma := 3
      memory := "Mira trusted you with a secret, and you kept it." },
    { id := "tell_everyone"
      label := "Whisper it to the class"
      stats := [⟨.reputation, 2, 0⟩]
      relationships := [⟨"mira", .trust, -5⟩, ⟨"mira", .resentment, 4⟩]
      karma := -8
      heat := 10
      memory := "You told everyone Mira's secret." }]

/-- Team Tryouts. -/
def tryouts : Storylet where
  id := "tryouts"
  title := "Team Tryouts"
  body := "Coach Reyes blows the whistle. Twenty kids, twelve spots."
  intensity := 1
  weight := 2
  conditions := [.ageAtLeast 9]
  cooldownDays := 365
  choices := [
    { id := "give_everything"
      label := "Give it everything"
      stats := [⟨.energy, -15, 0⟩, ⟨.reputation, 2, 0⟩, ⟨.strength, 3, 1⟩]
      relationships := [⟨"coach", .affection, 1⟩, ⟨"coach", .familiarity, 2⟩]
      memory := "You left everything on the field at tryouts." },
    { id := "skip"
      label := "Skip it"
      stats := [⟨.mood, -1, 0⟩] }]

/-- Shove on the Playground. -/
def playgroundShove : Storylet where
  id := "playground_shove"
  title := "Shove on the Playground"
  body := "Sam shoves you into the fence. Everyone is watching."
  intensity := 2
  weight := 1
  conditions := [.lifeStageIn [.child], .relationshipAtLeast "sam" .resentment 2]
  cooldownDays := 45
  choices := [
    { id := "shove_back"
      label := "Shove back"
      stats := [⟨.health, -2, 0⟩, ⟨.reputation, 1, 0⟩, ⟨.strength, 1, 0⟩]
      relationships := [⟨"sam", .familiarity, 1⟩, ⟨"sam", .resentment, 2⟩]
      karma := -2
      heat := 6 },
    { id := "apologize"
      label := "Apologize about the vase"
      conditions := [.resolved "broken_vase"]
      relationships := [⟨"sam", .trust, 2⟩, ⟨"sam", .resentment, -3⟩]
      karma := 5
      memory := "You finally said sorry to Sam." },
    { id := "walk_away"
      label := "Walk away"
      stats := [⟨.mood, -1, 0⟩, ⟨.stability, 1, 0⟩] }]

/-- Birthday Party. -/
def birthdayParty : Storylet where
  id := "birthday_party"
  title := "Birthday Party"
  body := "Balloons, cake, and everyone from class."
  weight := 1
  conditions := [.lifeStageIn [.child, .teen]]
  cooldownDays := 300
  choices := [
    { id := "invite_everyone"
      label := "Invite the whole class"
      stats := [⟨.charisma, 1, 0⟩, ⟨.mood, 3, 0⟩, ⟨.wealth, -2, 0⟩]
      relationships := [⟨"mira", .familiarity, 1⟩, ⟨"theo", .familiarity, 1⟩] },
    { id := "small_party"
      label := "Just family"
      stats := [⟨.mood, 1, 0⟩]
      relationships := [⟨"mom", .affection, 1⟩, ⟨"dad", .affection, 1⟩] }]

/-- Grocery Run. -/
def groceryTrip : Storylet where
  id := "grocery_trip"
  title := "Grocery Run"
  body := "Mom needs help carrying bags, and the candy aisle is right there."
  weight := 2
  conditions := [.lifeStageIn [.child]]
  cooldownDays := 10
  choices := [
    { id := "help_out"
      label := "Carry the heavy bags"
      stats := [⟨.energy, -5, 0⟩, ⟨.strength, 1, 0⟩]
      relationships := [⟨"mom", .affection, 1⟩, ⟨"mom", .trust, 1⟩]
      karma := 1 },
    { id := "beg_for_candy"
      label := "Beg for candy"
      stats := [⟨.mood, 1, 0⟩]
      relationships := [⟨"mom", .affection, -1⟩] }]

/-- Long Division. -/
def homeworkStruggle : Storylet where
  id := "homework_struggle"
  title := "Long Division"
  body := "The numbers refuse to line up, and the worksheet is due tomorrow."
  weight := 2
  conditions := [.lifeStageIn [.child, .teen]]
  cooldownDays := 14
  choices := [
    { id := "ask_dad"
      label := "Ask Dad for help"
      stats := [⟨.intelligence, 2, 0⟩]
      relationships := [⟨"dad", .trust, 1⟩, ⟨"dad", .familiarity, 1⟩] },
    { id := "stick_with_it"
      label := "Stick with it alone"
      stats := [⟨.energy, -5, 0⟩, ⟨.intelligence, 1, 1⟩, ⟨.stability, 1, 0⟩] },
    { id := "copy_theo"
      label := "Copy Theo's answers"
      relationships := [⟨"theo", .familiarity, 1⟩]
      karma := -2
      heat := 3 }]

/-- Bad Dream. -/
def badDream : Storylet where
  id := "bad_dream"
  title := "Bad Dream"
  body := "You wake with your heart pounding. The hallway is very dark."
  intensity := 1
  weight := 1
  conditions := [.lifeStageIn [.child]]
  cooldownDays := 20
  choices := [
    { id := "wake_parents"
      label := "Pad down the hall to your parents"
      stats := [⟨.energy, -3, 0⟩, ⟨.mood, 1, 0⟩]
      relationships := [⟨"mom", .affection, 1⟩, ⟨"dad", .affection, 1⟩] },
    { id := "night_light"
      label := "Turn on the night light and wait it out"
      stats := [⟨.energy, -5, 0⟩, ⟨.stability, 2, 0⟩] }]

/-- Lunch Trade. -/
def lunchTrade : Storylet where
  id := "lunch_trade"
  title := "Lunch Trade"
  body := "Sam eyes your pudding cup and offers two cookies for it."
  weight := 2
  conditions := [.lifeStageIn [.child]]
  cooldownDays := 21
  choices := [
    { id := "trade"
      label := "Make the trade"
      stats := [⟨.mood, 1, 0⟩]
      relationships := [⟨"sam", .affection, 1⟩, ⟨"sam", .familiarity, 1⟩] },
    { id := "refuse"
      label := "Keep your pudding"
      relationships := [⟨"sam", .resentment, 1⟩] },
    { id := "share"
      label := "Split it with Sam"
      stats := [⟨.charisma, 1, 0⟩]
      relationships := [⟨"sam", .affection, 2⟩, ⟨"sam", .trust, 1⟩, ⟨"sam", .familiarity, 1⟩]
      karma := 2 }]

/-- Stray Dog. -/
def strayDog : Storylet where
  id := "stray_dog"
  title := "Stray Dog"
  body := "A skinny dog follows you home from school, tail low."
  intensity := 1
  weight := 1
  conditions := [.lifeStageIn [.child, .teen]]
  cooldownDays := 90
  choices := [
    { id := "feed_it"
      label := "Sneak it some dinner"
      stats := [⟨.mood, 2, 0⟩, ⟨.wisdom, 1, 0⟩]
      karma := 3 },
    { id := "shoo_it"
      label := "Shoo it away"
      stats := [⟨.mood, -1, 0⟩]
      karma := -1 }]

/-- Sleepover. -/
def sleepover : Storylet where
  id := "sleepover"
  title := "Sleepover"
  body := "Mira's parents said yes. Sleeping bags, flashlights, and far too much popcorn."
  intensity := 1
  weight := 2
  conditions := [.lifeStageIn [.child, .teen], .relationshipAtLeast "mira" .affection 1]
  cooldownDays := 45
  choices := [
    { id := "ghost_stories"
      label := "Tell ghost stories until dawn"
      stats := [⟨.charisma, 1, 0⟩, ⟨.energy, -15, 0⟩, ⟨.mood, 2, 0⟩]
      relationships := [⟨"mira", .affection, 1⟩, ⟨"mira", .familiarity, 2⟩] },
    { id := "go_home_early"
      label := "Call home and leave early"
      stats := [⟨.energy, 5, 0⟩]
      relationships := [⟨"mira", .affection, -1⟩] }]

/-- The School Play. -/
def schoolPlay : Storylet where
  id := "school_play"
  title := "The School Play"
  body := "Auditions for the winter play are posted on the office door."
  intensity := 1
  weight := 1
  conditions := [.lifeStageIn [.child]]
  cooldownDays := 180
  choices := [
    { id := "audition"
      label := "Audition for the lead"
      stats := [⟨.appearance, 1, 0⟩, ⟨.charisma, 3, 1⟩, ⟨.stability, -1, 0⟩]
      memory := "You stood on stage under the hot lights." },
    { id := "stage_crew"
      label := "Join the stage crew"
      stats := [⟨.intelligence, 1, 0⟩, ⟨.strength, 1, 0⟩]
      relationships := [⟨"theo", .familiarity, 1⟩] }]

/-- Practice Drills. -/
def practiceDrills : Storylet where
  id := "practice_drills"
  title := "Practice Drills"
  body := "Coach Reyes runs you through sprints until your legs burn."
  intensity := 1
  weight := 2
  conditions := [.lifeStageIn [.teen], .knowsNpc "coach"]
  cooldownDays := 14
  choices := [
    { id := "push_through"
      label := "Push through"
      stats := [⟨.energy, -10, 0⟩, ⟨.health, -1, 0⟩, ⟨.strength, 2, 0⟩]
      relationships := [⟨"coach", .trust, 1⟩] },
    { id := "fake_cramp"
      label := "Fake a cramp"
      stats := [⟨.energy, 5, 0⟩]
      relationships := [⟨"coach", .trust, -2⟩]
      karma := -1 }]

/-- The scenes of this module. -/
def childhood : List Storylet :=
  [firstDayOfSchool, scrapedKnee, lostKite, libraryCard, brokenVase, rainySaturday, miraSecret,
    tryouts, playgroundShove, birthdayParty, groceryTrip, homeworkStruggle, badDream, lunchTrade,
    strayDog, sleepover, schoolPlay, practiceDrills]

end LifeStory.Builtin
