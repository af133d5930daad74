import AuthGateway.Cache.Memory

namespace AuthGateway

/-!
The sweeper, which frees the places of expired entries in regular intervals until it is told to
stop.

It waits for its next tick and for news on the shutdown channel at once.  When both are there, it may
take either first.
-/

open Time (Duration Instant)

inductive Sweeper where
  /-- The first tick is still to come. -/
  | waiting
  /-- The next tick is at this instant. -/
  | running (next : Instant)
  | stopped
deriving DecidableEq, Repr

namespace Sweeper

/-- The time between two ticks. -/
def interval : Duration :=
  .ofSeconds 30

/-- The ticks that are due: the first one at once, a late one as soon as the sweeper runs again. -/
def wake (s : Sweeper) (now : Instant) (m : Memory) : Sweeper × Memory :=
  match s with
  | waiting => (running (now + interval.nanos), m.sweep now)
  | running next =>
    if next ≤ now then
      let due := (now - next) / interval.nanos + 1
      (running (next + due * interval.nanos), m.sweep now)
    else (running next, m)
  | stopped => (stopped, m)

/-- The instant of the next tick, if it is not after `limit`. -/
def tickBy? (s : Sweeper) (limit : Instant) : Option Instant :=
  match s with
  | running next => if next ≤ limit then some next else none
  | _ => none

/-- So many ticks, each at its own instant, as long as they are not after `limit`. -/
def runTicks (limit : Instant) : Nat → Sweeper → Memory → Sweeper × Memory
  | 0, s, m => (s, m)
  | count + 1, s, m =>
    match s.tickBy? limit with
    | some tick =>
      let (s, m) := s.wake tick m
      runTicks limit count s m
    | none => (s, m)

/-- All ticks from `now` to `limit`, while nothing else happens. -/
def runUntil (s : Sweeper) (now limit : Instant) (m : Memory) : Sweeper × Memory :=
  let (s, m) := s.wake now m
  runTicks limit ((limit - now) / interval.nanos + 1) s m

/-- What a message on the shutdown channel does: only `true` stops the sweeper. -/
def signal (s : Sweeper) (stop : Bool) : Sweeper :=
  if stop then stopped else s

/-- The sweeper counts its ticks from the instant at which it first runs. -/
def begin (s : Sweeper) (now : Instant) : Sweeper :=
  match s with
  | waiting => running now
  | running next => running next
  | stopped => stopped

/-- The next tick, if it is due. -/
def tick (s : Sweeper) (now : Instant) (m : Memory) : Sweeper × Memory :=
  match s with
  | running next => if next ≤ now then (running (next + interval.nanos), m.sweep now) else (running next, m)
  | waiting => (waiting, m)
  | stopped => (stopped, m)

end Sweeper

/-- A channel that keeps its latest message only, as the one finds it who listens. -/
structure Channel where
  value : Bool
  /-- The message has not been looked at. -/
  unseen : Bool
  /-- The other end is gone. -/
  closed : Bool
deriving DecidableEq, Repr

namespace Channel

def send (channel : Channel) (value : Bool) : Channel :=
  if channel.closed then channel else { channel with value, unseen := true }

def hangUp (channel : Channel) : Channel :=
  { channel with closed := true }

end Channel

/-- A look at the channel: a message that has not been looked at comes first, and without one
the sweeper stops when none can come any more. -/
def Sweeper.look (s : Sweeper) (channel : Channel) : Sweeper × Channel :=
  match s with
  | running next =>
    if channel.unseen then
      ((running next).signal channel.value, { channel with unseen := false })
    else if channel.closed then (stopped, channel)
    else (running next, channel)
  | waiting => (waiting, channel)
  | stopped => (stopped, channel)

end AuthGateway
