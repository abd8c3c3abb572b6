import LifeStory.Session.Snapshot

/-!
# Lives without a player

A life is played day by day by a policy: the events of a day are resolved at once, then the ticks
of a day pass. It ends early where an operation fails. A policy that draws has a stream of its own, so that what the session draws does
not depend on the policy.
-/

namespace LifeStory.Runner

open LifeStory.Random (Stream)

/-- How choices are made. -/
inductive Policy where
  | first
  | random
deriving DecidableEq, Repr

/-- The greatest number of choices in a day. -/
def choicesPerDay : Nat := 8

/-- The stream of a policy. -/
def policyStream (seed : UInt64) : Stream := .ofSeed (seed ^^^ 0x5eedcafe)

/-- The choice that a policy makes. -/
def Policy.pick (p : Policy) (choices : List ChoiceView) (stream : Stream) :
    Option ChoiceView × Stream :=
  match p, choices with
  | _, [] => (none, stream)
  | .first, c :: _ => (some c, stream)
  | .random, choices =>
    let (n, stream) := stream.below choices.length
    (choices[n]?, stream)

/-- Resolves what is open, up to some number of events. -/
def resolveOpen (p : Policy) : Nat → Session → Stream → Except Failure (Session × Stream)
  | 0, s, stream => .ok (s, stream)
  | n + 1, s, stream =>
    match s.currentEvent with
    | none => .ok (s, stream)
    | some event =>
      match p.pick event.choices stream with
      | (none, stream) => .ok (s, stream)
      | (some choice, stream) =>
        match s.choose event.storylet choice.id 0 with
        | (.error e, _) => .error e
        | (.ok (), s) => resolveOpen p n s stream

/-- The ticks of a day; 24 where a signed word does not hold them. -/
def dayTicks (config : Config) : Int64 :=
  if config.ticksPerDay.toNat < 0x8000000000000000 then config.ticksPerDay.toInt64 else 24

/-- Plays one day. -/
def playDay (p : Policy) (s : Session) (stream : Stream) : Except Failure (Session × Stream) :=
  match resolveOpen p choicesPerDay s stream with
  | .error e => .error e
  | .ok (s, stream) =>
    match s.step (dayTicks s.config) with
    | (.error e, _) => .error e
    | (.ok (), s) => .ok (s, stream)

/-- Plays some days. -/
def playDays (p : Policy) : Nat → Session → Stream → Except Failure Session
  | 0, s, _ => .ok s
  | n + 1, s, stream =>
    match playDay p s stream with
    | .error e => .error e
    | .ok (s, stream) => playDays p n s stream

/-- Plays a life of some days. -/
def playLife (p : Policy) (days : Nat) (seed : UInt64) (player : Player) (catalog : Catalog)
    (config : Config) : Except Failure Session :=
  match Session.start seed player catalog config with
  | .error e => .error e
  | .ok s => playDays p days s (policyStream seed)

end LifeStory.Runner
