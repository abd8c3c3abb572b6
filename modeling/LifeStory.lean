import LifeStory.Main
import LifeStory.Host.SessionTable
import LifeStory.Storylet.Data
import LifeStory.Proofs.Random.Draws
import LifeStory.Proofs.Catalog.Accepted
import LifeStory.Proofs.Session.Atomicity
import LifeStory.Proofs.Session.Replay
import LifeStory.Proofs.Session.Audit
import LifeStory.Proofs.Session.Pass
import LifeStory.Proofs.Session.Display
import LifeStory.Proofs.Session.Cooldown
import LifeStory.Proofs.Session.Recurrence
import LifeStory.Proofs.Session.Once
import LifeStory.Proofs.Session.Respected
import LifeStory.Proofs.Session.Wording
import LifeStory.Proofs.Session.Maturity
import LifeStory.Proofs.Session.Reordered
import LifeStory.Proofs.Catalog.Canonical
import LifeStory.Proofs.Session.Playable
import LifeStory.Proofs.Session.OpenEvent
import LifeStory.Proofs.Session.Pacing
import LifeStory.Proofs.Host.Saving
import LifeStory.Proofs.Host.Isolation
import LifeStory.Proofs.Session.Calendar
import LifeStory.Proofs.Runner.Pace
import LifeStory.Proofs.Session.ExactLedger
import LifeStory.Proofs.Session.Bounds
import LifeStory.Proofs.Stats.Order
import LifeStory.Proofs.Stats.DayByDay
import LifeStory.Proofs.Relationship.Touches
import LifeStory.Proofs.Director.Envelope
import LifeStory.Proofs.Session.Lapse
import LifeStory.Proofs.Director.Proportions
import LifeStory.Proofs.Content.Meaning
import LifeStory.Proofs.Content.Completeness
import LifeStory.Proofs.Content.Choices
import LifeStory.Proofs.Session.Views
import LifeStory.Proofs.Player.Normal
import LifeStory.Proofs.Relationship.Roles
import LifeStory.Proofs.Relationship.Calls
import LifeStory.Proofs.Session.Chronicle
