import AuthGateway.Cache.Sweeper
import AuthGateway.Proofs.Cache.Ideal
import AuthGateway.Proofs.Occasions

namespace AuthGateway

/-!
# A sweeper frees places, and nothing else

While a memory is called and its clock goes on, a sweeper ticks every thirty seconds and looks at the
shutdown channel.  The order in which all of this happens is left open, so what is proved holds for every
order: each tick leaves no expired entry behind, no caller can tell the memory from one that is not swept,
and the sweeper stops only by a look at `true` or at the end of the channel, from when on the memory is
left to its callers (`Sweeper.sweeps_until_told`).

The invariant is that the sweeper shows its history: when it began, how many ticks there have been, and
whether it has been told to stop.  A sweeper that runs whenever something is due takes one of these runs
(`Sweeper.run_idle`).
-/

open Time (Duration Instant)

/-- What a look finds is that the sweeper has to stop. -/
def Channel.saysStop (channel : Channel) : Bool :=
  if channel.unseen then channel.value else channel.closed

namespace Sweeper

theorem look_running (next : Instant) (channel : Channel) :
    ((running next).look channel).1 = if channel.saysStop then stopped else running next := by
  rw [look, Channel.saysStop]
  cases channel.unseen with
  | true => rfl
  | false =>
    cases channel.closed with
    | true => rfl
    | false => rfl

/-- What can happen while a memory is swept. -/
inductive Event where
  /-- A call, or a step of the clock. -/
  | outside (event : Memory.Event)
  | send (stop : Bool)
  | hangUp
  | begin
  | tick
  | look
deriving DecidableEq

/-- What of the event happens to a memory without a sweeper. -/
def Event.outside? : Event → Option Memory.Event
  | outside event => some event
  | _ => none

theorem Event.eq_outside {event : Event} {call : Memory.Event} (known : event.outside? = some call) :
    event = outside call := by
  cases event with
  | outside event => exact congrArg outside (Option.some.inj known)
  | _ => exact absurd known (by simp [Event.outside?])

/-- The memory with its clock, the sweeper, and the channel that it listens to. -/
structure State where
  cache : Memory.State
  sweeper : Sweeper
  channel : Channel

namespace State

def start (now : Instant) (channel : Channel) : State where
  cache := .start now
  sweeper := .waiting
  channel := channel

def step (s : State) : Event → State
  | .outside event => { s with cache := (s.cache.step event).2 }
  | .send stop => { s with channel := s.channel.send stop }
  | .hangUp => { s with channel := s.channel.hangUp }
  | .begin => { s with sweeper := s.sweeper.begin s.cache.now }
  | .tick =>
    let (sweeper, memory) := s.sweeper.tick s.cache.now s.cache.memory
    { s with cache := { s.cache with memory }, sweeper }
  | .look =>
    let (sweeper, channel) := s.sweeper.look s.channel
    { s with sweeper, channel }

def run (s : State) (events : List Event) : State :=
  events.foldl step s

/-- The clock has reached the next tick. -/
def isDue (s : State) : Bool :=
  match s.sweeper with
  | .running next => next ≤ s.cache.now
  | .waiting | .stopped => false

/-- A look would show `true`, or that the other end of the channel is gone. -/
def seesStop (s : State) : Bool :=
  match s.sweeper with
  | .running _ => s.channel.saysStop
  | .waiting | .stopped => false

/-- The states in which the sweeper begins. -/
def beginnings (s : State) (events : List Event) : List State :=
  occasions step (fun s event => event = .begin && s.sweeper = .waiting) s events

/-- The states in which it ticks. -/
def ticks (s : State) (events : List Event) : List State :=
  occasions step (fun s event => event = .tick && s.isDue) s events

/-- The states in which it learns that it has to stop. -/
def stops (s : State) (events : List Event) : List State :=
  occasions step (fun s event => event = .look && s.seesStop) s events

end State

open State (run)

/-- Before each tick, as many intervals have passed since the beginning as there were ticks before it. -/
def OnTime (began : Instant) (ticks : List State) : Prop :=
  ∀ k (tick : State), ticks[k]? = some tick → began + interval.nanos * k ≤ tick.cache.now

/-- What the sweeper is after its beginnings, its ticks and its stops. -/
inductive Follows : Sweeper → List State → List State → List State → Prop where
  | waiting : Follows .waiting [] [] []
  | running {first : State} {ticks : List State} (onTime : OnTime first.cache.now ticks) :
    Follows (.running (first.cache.now + interval.nanos * ticks.length)) [first] ticks []
  | stopped {first last : State} {ticks : List State} (onTime : OnTime first.cache.now ticks) :
    Follows .stopped [first] ticks [last]

theorem OnTime.push {began : Instant} {ticks : List State} (onTime : OnTime began ticks) {s : State}
    (due : began + interval.nanos * ticks.length ≤ s.cache.now) : OnTime began (ticks ++ [s]) := by
  intro k tick listed
  rcases Nat.lt_trichotomy k ticks.length with before | rfl | behind
  · rw [List.getElem?_append_left before] at listed
    exact onTime k tick listed
  · rw [List.getElem?_concat_length] at listed
    exact Option.some.inj listed ▸ due
  · rw [List.getElem?_eq_none (by simpa using Nat.succ_le_of_lt behind)] at listed
    exact absurd listed (by simp)

variable {s : State} {event : Event}

/-- One event adds to the history what it adds to the sweeper. -/
theorem Follows.step {beginnings ticks stops : List State}
    (follows : Follows s.sweeper beginnings ticks stops) (event : Event) :
    Follows (s.step event).sweeper
      (beginnings ++ if event = .begin && s.sweeper = .waiting then [s] else [])
      (ticks ++ if event = .tick && s.isDue then [s] else [])
      (stops ++ if event = .look && s.seesStop then [s] else []) := by
  rcases s with ⟨cache, sweeper, channel⟩
  cases event with
  | outside event => simpa [State.step] using follows
  | send stop => simpa [State.step] using follows
  | hangUp => simpa [State.step] using follows
  | begin =>
    cases follows with
    | waiting =>
      have none : OnTime cache.now [] := fun k tick listed => absurd listed (by simp)
      exact @Follows.running ⟨cache, .waiting, channel⟩ [] none
    | running onTime => simpa [State.step, Sweeper.begin] using Follows.running onTime
    | stopped onTime => simpa [State.step, Sweeper.begin] using Follows.stopped onTime
  | tick =>
    cases follows with
    | waiting => simpa [State.step, Sweeper.tick, State.isDue] using Follows.waiting
    | stopped onTime => simpa [State.step, Sweeper.tick, State.isDue] using Follows.stopped onTime
    | @running first ticks onTime =>
      by_cases due : first.cache.now + interval.nanos * ticks.length ≤ cache.now
      · have further := Follows.running (onTime.push
          (s := ⟨cache, .running (first.cache.now + interval.nanos * ticks.length), channel⟩) due)
        rw [List.length_append, List.length_singleton, Nat.mul_succ, ← Nat.add_assoc] at further
        simpa [State.step, Sweeper.tick, State.isDue, due] using further
      · simpa [State.step, Sweeper.tick, State.isDue, due] using Follows.running onTime
  | look =>
    cases follows with
    | waiting => simpa [State.step, Sweeper.look, State.seesStop] using Follows.waiting
    | stopped onTime => simpa [State.step, Sweeper.look, State.seesStop] using Follows.stopped onTime
    | @running first ticks onTime =>
      change Follows ((Sweeper.running _).look channel).1 _ _ _
      rw [look_running]
      by_cases stop : channel.saysStop = true
      · simpa [State.seesStop, stop] using Follows.stopped onTime
      · simpa [State.seesStop, stop] using Follows.running onTime

theorem follows_run (now : Instant) (channel : Channel) (events : List Event) :
    let s := State.start now channel
    Follows (s.run events).sweeper (s.beginnings events) (s.ticks events) (s.stops events) := by
  induction events using List.reverseRecOn with
  | nil => exact .waiting
  | append_singleton events event inductionHypothesis =>
    dsimp only at inductionHypothesis ⊢
    rw [State.beginnings, State.ticks, State.stops, occasions_append_singleton,
      occasions_append_singleton, occasions_append_singleton, run, List.foldl_append]
    exact inductionHypothesis.step event

theorem step_tick {cache : Memory.State} {next : Instant} {channel : Channel} (due : next ≤ cache.now) :
    State.step ⟨cache, .running next, channel⟩ .tick =
      ⟨(cache.step .sweep).2, .running (next + interval.nanos), channel⟩ := by
  simp only [State.step, Sweeper.tick, if_pos due]
  rfl

theorem step_tick_of_early {cache : Memory.State} {next : Instant} {channel : Channel}
    (early : ¬ next ≤ cache.now) :
    State.step ⟨cache, .running next, channel⟩ .tick = ⟨cache, .running next, channel⟩ := by
  simp only [State.step, Sweeper.tick, if_neg early]

/-- What the sweeper does itself to the memory is a sweep, when a tick is due. -/
theorem cache_step_of_own (own : event.outside? = none) :
    (s.step event).cache = s.cache ∨
      s.isDue = true ∧ (s.step event).cache = (s.cache.step .sweep).2 := by
  rcases s with ⟨cache, sweeper, channel⟩
  cases event with
  | outside event => exact absurd own (by simp [Event.outside?])
  | send stop => exact Or.inl rfl
  | hangUp => exact Or.inl rfl
  | begin => exact Or.inl rfl
  | look => exact Or.inl rfl
  | tick =>
    cases sweeper with
    | waiting => exact Or.inl rfl
    | stopped => exact Or.inl rfl
    | running next =>
      by_cases due : next ≤ cache.now
      · exact Or.inr ⟨decide_eq_true due, by rw [step_tick due]⟩
      · exact Or.inl (by rw [step_tick_of_early due])

/-- A sweep shows nowhere. -/
theorem view_step_of_own (own : event.outside? = none) :
    (s.step event).cache.view = s.cache.view := by
  rcases cache_step_of_own (s := s) own with same | ⟨-, swept⟩
  · rw [same]
  · rw [swept]
    exact (congrArg Prod.snd (Memory.State.step_view s.cache .sweep)).symm

/-- What is live stays where it is, and nothing is added. -/
theorem entries_step_of_own (own : event.outside? = none) (entry : String × Entry) :
    (entry ∈ s.cache.memory.entries → entry.2.isExpired s.cache.now = false →
      entry ∈ (s.step event).cache.memory.entries) ∧
    (entry ∈ (s.step event).cache.memory.entries → entry ∈ s.cache.memory.entries) := by
  rcases cache_step_of_own (s := s) own with same | ⟨-, swept⟩
  · rw [same]
    exact ⟨fun listed _ => listed, id⟩
  · rw [swept]
    refine ⟨fun listed live => List.mem_filter.mpr ⟨listed, ?_⟩, fun kept => (List.mem_filter.mp kept).1⟩
    rw [live]
    rfl

/-- A tick that is due leaves no expired entry, and the next one comes an interval later. -/
theorem step_tick_of_due {next : Instant} (running : s.sweeper = .running next)
    (due : next ≤ s.cache.now) :
    (s.step .tick).sweeper = .running (next + interval.nanos) ∧
      ∀ entry ∈ (s.step .tick).cache.memory.entries, entry.2.isExpired s.cache.now = false := by
  rcases s with ⟨cache, sweeper, channel⟩
  obtain rfl : sweeper = .running next := running
  rw [step_tick due]
  exact ⟨rfl, fun entry kept => by simpa using (List.mem_filter.mp kept).2⟩

/-- What happens to a memory without a sweeper. -/
def outside (events : List Event) : List Memory.Event :=
  events.filterMap Event.outside?

/-- All that can be seen of the memory is what can be seen of one that is not swept. -/
theorem view_run (s : State) (events : List Event) :
    (s.run events).cache.view =
      (Memory.final Memory.State.step s.cache (outside events)).view := by
  rw [Memory.State.view_final]
  induction events generalizing s with
  | nil => rfl
  | cons event rest inductionHypothesis =>
    rw [run, List.foldl_cons]
    refine (inductionHypothesis (s.step event)).trans ?_
    cases own : event.outside? with
    | none => rw [view_step_of_own own, outside, outside, List.filterMap_cons_none own]
    | some call =>
      rw [Event.eq_outside own]
      change Memory.final _ (s.cache.step call).2.view _ =
        Memory.final _ (s.cache.view.step call).2 (outside rest)
      rw [Memory.State.step_view]

/-- A sweeper that has stopped leaves the memory to its callers. -/
theorem run_of_stopped (stopped : s.sweeper = .stopped) (events : List Event) :
    (s.run events).sweeper = .stopped ∧
      (s.run events).cache = Memory.final Memory.State.step s.cache (outside events) := by
  induction events generalizing s with
  | nil => exact ⟨stopped, rfl⟩
  | cons event rest inductionHypothesis =>
    have still : (s.step event).sweeper = .stopped := by
      rcases s with ⟨cache, sweeper, channel⟩
      obtain rfl : sweeper = .stopped := stopped
      cases event with
      | _ => rfl
    rcases inductionHypothesis still with ⟨later, left⟩
    refine ⟨later, left.trans ?_⟩
    cases own : event.outside? with
    | none =>
      rcases cache_step_of_own (s := s) own with same | ⟨due, -⟩
      · rw [same, outside, outside, List.filterMap_cons_none own]
      · rw [State.isDue, stopped] at due
        exact absurd due Bool.false_ne_true
    | some call =>
      rw [Event.eq_outside own]
      rfl

theorem channel_look (sweeper : Sweeper) (channel : Channel) :
    (sweeper.look channel).2.value = channel.value ∧
      (sweeper.look channel).2.closed = channel.closed := by
  cases sweeper with
  | waiting => exact ⟨rfl, rfl⟩
  | stopped => exact ⟨rfl, rfl⟩
  | running next =>
    unfold look
    dsimp only
    split
    · exact ⟨rfl, rfl⟩
    · split
      · exact ⟨rfl, rfl⟩
      · exact ⟨rfl, rfl⟩

/-- Only a look stops the sweeper. -/
theorem stopped_of_step (stopped : (s.step event).sweeper = .stopped) :
    s.sweeper = .stopped ∨ s.seesStop = true := by
  rcases s with ⟨cache, sweeper, channel⟩
  cases sweeper with
  | stopped => exact Or.inl rfl
  | waiting =>
    cases event with
    | _ => exact absurd stopped Sweeper.noConfusion
  | running next =>
    cases event with
    | look =>
      change ((running next).look channel).1 = .stopped at stopped
      rw [look_running] at stopped
      split at stopped
      · rename_i told
        exact Or.inr told
      · exact absurd stopped Sweeper.noConfusion
    | tick =>
      refine absurd stopped ?_
      simp only [State.step, tick]
      split
      · exact Sweeper.noConfusion
      · exact Sweeper.noConfusion
    | _ => exact absurd stopped Sweeper.noConfusion

/-- Where only `false` is sent and the other end stays, there is nothing to stop for. -/
theorem run_of_quiet (going : s.sweeper ≠ .stopped) (quiet : s.channel.value = false)
    (opened : s.channel.closed = false) {events : List Event} (noStop : .send true ∉ events)
    (noEnd : .hangUp ∉ events) : (s.run events).sweeper ≠ .stopped := by
  induction events generalizing s with
  | nil => exact going
  | cons event rest inductionHypothesis =>
    rw [List.mem_cons, not_or] at noStop noEnd
    have silent : s.channel.saysStop = false := by
      rw [Channel.saysStop, quiet, opened, ite_self]
    have goingOn : (s.step event).sweeper ≠ .stopped := by
      intro stopped
      rcases stopped_of_step stopped with already | told
      · exact going already
      · rw [State.seesStop] at told
        split at told
        · exact Bool.false_ne_true (silent.symm.trans told)
        · exact Bool.false_ne_true told
        · exact Bool.false_ne_true told
    have kept : (s.step event).channel.value = false ∧ (s.step event).channel.closed = false := by
      cases event with
      | send stop =>
        cases stop with
        | true => exact absurd rfl noStop.1
        | false =>
          have sent : s.channel.send false = { s.channel with value := false, unseen := true } :=
            if_neg (by rw [opened]; exact Bool.false_ne_true)
          change (s.channel.send false).value = false ∧ (s.channel.send false).closed = false
          rw [sent]
          exact ⟨rfl, opened⟩
      | hangUp => exact absurd rfl noEnd.1
      | look =>
        rcases channel_look s.sweeper s.channel with ⟨value, closed⟩
        exact ⟨value.trans quiet, closed.trans opened⟩
      | _ => exact ⟨quiet, opened⟩
    exact inductionHypothesis goingOn kept.1 kept.2 noStop.2 noEnd.2

/-- The looks after which the sweeper has stopped, if the other end of the channel is gone: a message is
looked at before that. -/
def looksLeft (s : State) : Nat :=
  if s.sweeper = .stopped then 0
  else if s.channel.unseen then 2
  else 1

/-- Where the other end is gone, each look brings the end nearer, and nothing puts it off. -/
theorem looksLeft_step (begun : s.sweeper ≠ .waiting) (closed : s.channel.closed = true) (event : Event) :
    (s.step event).sweeper ≠ .waiting ∧ (s.step event).channel.closed = true ∧
      looksLeft (s.step event) ≤ looksLeft s - if event = .look then 1 else 0 := by
  rcases s with ⟨cache, sweeper, ⟨value, unseen, gone⟩⟩
  obtain rfl : gone = true := closed
  cases sweeper with
  | waiting => exact absurd rfl begun
  | stopped =>
    cases event with
    | _ => exact ⟨Sweeper.noConfusion, rfl, Nat.zero_le _⟩
  | running next =>
    cases event with
    | tick =>
      by_cases due : next ≤ cache.now
      · rw [step_tick due]
        exact ⟨Sweeper.noConfusion, rfl, Nat.le_refl _⟩
      · rw [step_tick_of_early due]
        exact ⟨Sweeper.noConfusion, rfl, Nat.le_refl _⟩
    | look =>
      cases unseen with
      | false => exact ⟨Sweeper.noConfusion, rfl, Nat.le_refl _⟩
      | true =>
        cases value with
        | false => exact ⟨Sweeper.noConfusion, rfl, Nat.le_refl _⟩
        | true => exact ⟨Sweeper.noConfusion, rfl, Nat.zero_le _⟩
    | _ => exact ⟨Sweeper.noConfusion, rfl, Nat.le_refl _⟩

theorem looksLeft_run (begun : s.sweeper ≠ .waiting) (closed : s.channel.closed = true)
    (events : List Event) : looksLeft (s.run events) ≤ looksLeft s - events.count .look := by
  induction events generalizing s with
  | nil => exact Nat.le_refl _
  | cons event rest inductionHypothesis =>
    rcases looksLeft_step begun closed event with ⟨stillBegun, stillClosed, nearer⟩
    have later : looksLeft ((s.step event).run rest) ≤ _ := inductionHypothesis stillBegun stillClosed
    change looksLeft ((s.step event).run rest) ≤ _
    rw [List.count_cons]
    simp only [beq_iff_eq]
    omega

/-- A sweeper whose channel has ended stops within two looks. -/
theorem stopped_of_closed (begun : s.sweeper ≠ .waiting) (closed : s.channel.closed = true)
    {events : List Event} (looks : 2 ≤ events.count .look) : (s.run events).sweeper = .stopped := by
  have few : looksLeft s ≤ 2 := by
    unfold looksLeft
    split
    · exact Nat.zero_le 2
    · split
      · exact Nat.le_refl 2
      · exact Nat.le_succ 1
  have left := looksLeft_run begun closed events
  have none : looksLeft (s.run events) = 0 := by omega
  by_contra going
  rw [looksLeft, if_neg going] at none
  split at none
  · exact absurd none (by decide)
  · exact absurd none (by decide)

/-- Whatever happens, in whatever order: the first tick is due when the sweeper begins, each further one an
interval after the one before it, and a tick leaves no expired entry behind, however late it comes.  What
is live stays where it is, and all that can be seen is what can be seen of a memory that is not swept.

The sweeper stops just when a look shows `true` or the end of the channel, and never where only `false` is
sent.  When the other end of the channel is gone, it stops within two looks.  Once it has stopped, the
memory is what its callers make of it. -/
theorem sweeps_until_told (now : Instant) (channel : Channel) (events : List Event) :
    let begun := State.start now channel
    let s := begun.run events
    Follows s.sweeper (begun.beginnings events) (begun.ticks events) (begun.stops events) ∧
    (∀ next, s.sweeper = .running next → next ≤ s.cache.now →
      (s.step .tick).sweeper = .running (next + interval.nanos) ∧
        ∀ entry ∈ (s.step .tick).cache.memory.entries, entry.2.isExpired s.cache.now = false) ∧
    (∀ event : Event, event.outside? = none → ∀ entry : String × Entry,
      (entry ∈ s.cache.memory.entries → entry.2.isExpired s.cache.now = false →
        entry ∈ (s.step event).cache.memory.entries) ∧
      (entry ∈ (s.step event).cache.memory.entries → entry ∈ s.cache.memory.entries)) ∧
    s.cache.view = (Memory.final Memory.State.step (.start now) (outside events)).view ∧
    (∀ next, s.sweeper = .running next →
      (s.step .look).sweeper = if s.channel.saysStop then .stopped else .running next) ∧
    (s.sweeper ≠ .stopped → s.channel.value = false → s.channel.closed = false →
      ∀ later : List Event, .send true ∉ later → .hangUp ∉ later →
        (s.run later).sweeper ≠ .stopped) ∧
    (s.sweeper ≠ .waiting → ∀ later : List Event, 2 ≤ later.count .look →
      ((s.step .hangUp).run later).sweeper = .stopped) ∧
    (s.sweeper = .stopped → ∀ later, (s.run later).sweeper = .stopped ∧
      (s.run later).cache = Memory.final Memory.State.step s.cache (outside later)) := by
  intro begun s
  refine ⟨follows_run now channel events, fun next running due => step_tick_of_due running due,
    fun event own => entries_step_of_own own,
    view_run begun events, fun next running => ?_,
    fun going quiet opened later noStop noEnd => run_of_quiet going quiet opened noStop noEnd,
    fun begun later looks => stopped_of_closed (s := s.step .hangUp) begun rfl looks,
    fun stopped later => run_of_stopped stopped later⟩
  change (s.sweeper.look s.channel).1 = _
  rw [running, look_running]

/-! ## The steps that are due, taken at once -/

/-- A later sweep does what an earlier one has done. -/
theorem sweep_sweep (m : Memory) {earlier later : Instant} (after : earlier ≤ later) :
    (m.sweep earlier).sweep later = m.sweep later := by
  have kept : (m.entries.filter fun entry => !entry.2.isExpired earlier).filter
      (fun entry => !entry.2.isExpired later) =
      m.entries.filter fun entry => !entry.2.isExpired later := by
    rw [List.filter_filter]
    congr 1
    funext entry
    cases expired : entry.2.isExpired earlier with
    | false => simp
    | true => simp [Entry.isExpired_mono after expired]
  unfold Memory.sweep
  congr 1

theorem run_cons (s : State) (event : Event) (rest : List Event) :
    s.run (event :: rest) = (s.step event).run rest :=
  rfl

theorem run_append (s : State) (first second : List Event) :
    s.run (first ++ second) = (s.run first).run second :=
  List.foldl_append

/-- Ticks that are due at once. -/
theorem run_ticks {now next : Instant} (m : Memory) (channel : Channel) {count : Nat}
    (due : next + count * interval.nanos ≤ now) :
    State.run ⟨⟨now, m⟩, .running next, channel⟩ (List.replicate (count + 1) .tick) =
      ⟨⟨now, m.sweep now⟩, .running (next + (count + 1) * interval.nanos), channel⟩ := by
  have ticked : ∀ {next : Instant} (m : Memory), next ≤ now →
      State.step ⟨⟨now, m⟩, .running next, channel⟩ .tick =
        ⟨⟨now, m.sweep now⟩, .running (next + interval.nanos), channel⟩ := fun _ due => step_tick due
  have single : ∀ s : State, s.run [.tick] = s.step .tick := fun _ => rfl
  induction count with
  | zero =>
    rw [Nat.zero_mul, Nat.add_zero] at due
    rw [Nat.zero_add, Nat.one_mul, List.replicate_one, single, ticked m due]
  | succ count inductionHypothesis =>
    have before : next + count * interval.nanos ≤ now :=
      Nat.le_trans (Nat.add_le_add_left (Nat.mul_le_mul_right _ (Nat.le_succ count)) next) due
    rw [List.replicate_succ', run_append, inductionHypothesis before, single,
      ticked (m.sweep now) due, sweep_sweep m (Nat.le_refl now), Nat.add_assoc next, ← Nat.succ_mul]

/-- The sweeper and the memory are these. -/
def State.sweptTo (s : State) (result : Sweeper × Memory) (now : Instant) : State :=
  { s with cache := { now, memory := result.2 }, sweeper := result.1 }

/-- To wake is to begin, and to take all ticks that are due. -/
theorem exists_run_wake (s : State) : ∃ count, s.run (.begin :: List.replicate count .tick) =
    s.sweptTo (s.sweeper.wake s.cache.now s.cache.memory) s.cache.now := by
  rcases s with ⟨⟨now, m⟩, sweeper, channel⟩
  cases sweeper with
  | waiting =>
    have due : now + 0 * interval.nanos ≤ now :=
      Nat.le_of_eq (by rw [Nat.zero_mul, Nat.add_zero])
    have ticked := run_ticks m channel due
    rw [Nat.zero_add, Nat.one_mul] at ticked
    exact ⟨1, ticked⟩
  | stopped => exact ⟨0, rfl⟩
  | running next =>
    by_cases due : next ≤ now
    · have reached : next + (now - next) / interval.nanos * interval.nanos ≤ now :=
        Nat.add_le_of_le_sub' due (Nat.div_mul_le_self (now - next) interval.nanos)
      refine ⟨(now - next) / interval.nanos + 1, (run_ticks m channel reached).trans ?_⟩
      simp only [State.sweptTo, wake, if_pos due]
    · refine ⟨0, ?_⟩
      simp only [State.sweptTo, wake, if_neg due]
      rfl

/-- A tick is due at its own instant, and then the next one is an interval later. -/
theorem wake_self (next : Instant) (m : Memory) :
    (running next).wake next m = (running (next + interval.nanos), m.sweep next) := by
  simp only [wake, if_pos (Nat.le_refl next), Nat.sub_self, Nat.zero_div, Nat.zero_add, Nat.one_mul]

theorem of_tickBy? {sweeper : Sweeper} {limit tick : Instant}
    (due : sweeper.tickBy? limit = some tick) : sweeper = running tick ∧ tick ≤ limit := by
  cases sweeper with
  | running next =>
    rw [tickBy?] at due
    split at due
    · rename_i inside
      obtain rfl : next = tick := Option.some.inj due
      exact ⟨rfl, inside⟩
    · exact absurd due (by simp)
  | _ => exact absurd due (by simp [tickBy?])

/-- Nothing happens but that the clock goes on, and what the sweeper does at its instants. -/
def Event.isIdle : Event → Bool
  | outside (.advance _) | begin | tick => true
  | _ => false

private theorem isIdle_of_mem_wake {count : Nat} :
    ∀ event ∈ Event.begin :: List.replicate count Event.tick, event.isIdle = true := by
  intro event member
  rcases List.mem_cons.mp member with rfl | repeated
  · rfl
  · rw [(List.mem_replicate.mp repeated).2]
    rfl

private theorem step_advance {s : State} {later : Instant} (after : s.cache.now ≤ later) :
    s.step (.outside (.advance { nanos := later - s.cache.now })) =
      { s with cache := { s.cache with now := later } } := by
  have reached : s.cache.now + (later - s.cache.now) = later := Nat.add_sub_cancel' after
  simp only [State.step, Memory.State.step, reached]

private theorem exists_run_pass {s : State} {later : Instant} (after : s.cache.now ≤ later) :
    ∃ events : List Event, (∀ event ∈ events, event.isIdle = true) ∧
      s.run events = s.sweptTo (s.sweeper, s.cache.memory) later :=
  ⟨[.outside (.advance { nanos := later - s.cache.now })],
    fun _ member => List.mem_singleton.mp member ▸ rfl, step_advance after⟩

private theorem exists_run_runTicks {limit : Instant} (count : Nat) (s : State)
    (before : s.cache.now ≤ limit)
    (ahead : ∀ next, s.sweeper = .running next → s.cache.now ≤ next) :
    ∃ events : List Event, (∀ event ∈ events, event.isIdle = true) ∧
      s.run events = s.sweptTo (runTicks limit count s.sweeper s.cache.memory) limit := by
  induction count generalizing s with
  | zero => exact exists_run_pass before
  | succ count inductionHypothesis =>
    rw [runTicks]
    cases due : s.sweeper.tickBy? limit with
    | none => exact exists_run_pass before
    | some tick =>
      rcases s with ⟨⟨now, m⟩, sweeper, channel⟩
      rcases of_tickBy? due with ⟨rfl, inside⟩
      rcases exists_run_wake ⟨⟨tick, m⟩, .running tick, channel⟩ with ⟨ticks, woken⟩
      rw [wake_self] at woken
      have further : ∀ next, running (tick + interval.nanos) = .running next → tick ≤ next := by
        intro next same
        rw [← Sweeper.running.inj same]
        exact Nat.le_add_right tick interval.nanos
      rcases inductionHypothesis ⟨⟨tick, m.sweep tick⟩, .running (tick + interval.nanos), channel⟩
        inside further with ⟨events, idle, runs⟩
      refine ⟨.outside (.advance { nanos := tick - now }) ::
        (.begin :: List.replicate ticks .tick) ++ events, ?_, ?_⟩
      · intro event member
        rcases List.mem_append.mp member with first | later
        · rcases List.mem_cons.mp first with rfl | woke
          · rfl
          · exact isIdle_of_mem_wake event woke
        · exact idle event later
      · dsimp only
        rw [wake_self, run_append, run_cons, step_advance (ahead tick rfl), woken]
        exact runs

private theorem interval_pos : 0 < interval.nanos := by decide

private theorem lt_next_of_wake {sweeper : Sweeper} {now next : Instant} {m : Memory}
    (left : (sweeper.wake now m).1 = .running next) : now < next := by
  cases sweeper with
  | stopped => exact absurd left (by simp [wake])
  | waiting =>
    obtain rfl : now + interval.nanos = next := Sweeper.running.inj left
    exact Nat.lt_add_of_pos_right interval_pos
  | running due =>
    rw [wake] at left
    split at left
    · rename_i reached
      obtain rfl : due + ((now - due) / interval.nanos + 1) * interval.nanos = next :=
        Sweeper.running.inj left
      have whole := Nat.lt_mul_div_succ (now - due) interval_pos
      rw [Nat.mul_comm] at whole
      exact (Nat.sub_lt_iff_lt_add' reached).mp whole
    · rename_i ahead
      obtain rfl : due = next := Sweeper.running.inj left
      exact Nat.lt_of_not_le ahead

private theorem lt_next_of_runTicks {limit next last : Instant} {count : Nat} {m : Memory}
    (enough : limit < next + count * interval.nanos)
    (left : (runTicks limit count (.running next) m).1 = .running last) : limit < last := by
  induction count generalizing next m with
  | zero =>
    obtain rfl : next = last := Sweeper.running.inj left
    rwa [Nat.zero_mul, Nat.add_zero] at enough
  | succ count inductionHypothesis =>
    rw [runTicks, tickBy?] at left
    by_cases inside : next ≤ limit
    · rw [if_pos inside] at left
      dsimp only at left
      rw [wake_self] at left
      refine inductionHypothesis ?_ left
      rwa [Nat.succ_mul, Nat.add_comm (count * _), ← Nat.add_assoc] at enough
    · rw [if_neg inside] at left
      obtain rfl : next = last := Sweeper.running.inj left
      exact Nat.lt_of_not_le inside

private theorem runTicks_of_not_running {limit : Instant} {sweeper : Sweeper} {m : Memory}
    (idle : ∀ next, sweeper ≠ .running next) (count : Nat) :
    runTicks limit count sweeper m = (sweeper, m) := by
  cases count with
  | zero => rfl
  | succ count =>
    have none : sweeper.tickBy? limit = none := by
      cases sweeper with
      | running next => exact absurd rfl (idle next)
      | _ => rfl
    rw [runTicks, none]

/-- While nothing else happens, the sweeper takes its ticks at their instants, and none of them is left
out. -/
theorem run_idle (s : State) {limit : Instant} (after : s.cache.now ≤ limit) :
    let left := s.sweeper.runUntil s.cache.now limit s.cache.memory
    (∃ events : List Event, (∀ event ∈ events, event.isIdle = true) ∧
      s.run events = s.sweptTo left limit) ∧
    ∀ next, left.1 = .running next → limit < next := by
  intro left
  have woke : ∀ next, (s.sweeper.wake s.cache.now s.cache.memory).1 = .running next →
      s.cache.now < next := fun _ => lt_next_of_wake
  have result : left = runTicks limit ((limit - s.cache.now) / interval.nanos + 1)
      (s.sweeper.wake s.cache.now s.cache.memory).1
      (s.sweeper.wake s.cache.now s.cache.memory).2 := rfl
  constructor
  · rcases exists_run_wake s with ⟨ticks, woken⟩
    rcases exists_run_runTicks ((limit - s.cache.now) / interval.nanos + 1)
      (s.sweptTo (s.sweeper.wake s.cache.now s.cache.memory) s.cache.now) after
      (fun next running => Nat.le_of_lt (woke next running)) with ⟨events, idle, runs⟩
    refine ⟨(.begin :: List.replicate ticks .tick) ++ events, ?_, ?_⟩
    · intro event member
      rcases List.mem_append.mp member with first | later
      · exact isIdle_of_mem_wake event first
      · exact idle event later
    · rw [run_append, woken, runs]
      rfl
  · intro last running
    rw [result] at running
    cases woken : (s.sweeper.wake s.cache.now s.cache.memory).1 with
    | running next =>
      rw [woken] at running
      refine lt_next_of_runTicks ?_ running
      have whole := Nat.lt_mul_div_succ (limit - s.cache.now) interval_pos
      rw [Nat.mul_comm] at whole
      exact Nat.lt_trans ((Nat.sub_lt_iff_lt_add' after).mp whole)
        (Nat.add_lt_add_right (woke next woken) _)
    | waiting =>
      rw [woken, runTicks_of_not_running (fun _ => Sweeper.noConfusion)] at running
      exact absurd running (by simp)
    | stopped =>
      rw [woken, runTicks_of_not_running (fun _ => Sweeper.noConfusion)] at running
      exact absurd running (by simp)

/-- A look at a message that has just come. -/
theorem look_send {sweeper : Sweeper} (begun : sweeper ≠ .waiting) {channel : Channel}
    (opened : channel.closed = false) (stop : Bool) :
    (sweeper.look (channel.send stop)).1 = sweeper.signal stop := by
  have sent : channel.send stop = { channel with value := stop, unseen := true } :=
    if_neg (by rw [opened]; exact Bool.false_ne_true)
  cases sweeper with
  | waiting => exact absurd rfl begun
  | stopped => exact (ite_self Sweeper.stopped).symm
  | running next =>
    rw [look_running, sent]
    rfl

end Sweeper

end AuthGateway
