import AuthGateway.Proofs.Cache.Memory

namespace AuthGateway

/-!
# A memory answers as a map from which entries vanish

In an ideal map an entry vanishes at the very instant of its deadline, so that nothing in it needs
to be asked whether it has expired.  A memory keeps what has expired until a sweep or a write removes
it, and yet nobody who calls it can tell it from the ideal map (`Memory.replies_as_ideal`).

What can be seen of a memory is an ideal map, and each event does the same to both.  In the ideal map
it is plain that a sweep does nothing, and that a call has to do with its own key only.

Neither of them has a deadline that the clock could never show.  A call for one crashes if there is an
entry to have it, and changes nothing.
-/

open Time (Duration Instant)

namespace Memory

/-- What can happen to a memory: its calls, sweeps, and steps of the clock. -/
inductive Event where
  | get (key : String)
  | set (key value : String)
  | expire (key : String) (span : Duration)
  | ttl (key : String)
  | incr (key : String)
  | sweep
  | advance (span : Duration)
deriving DecidableEq

/-- What a caller is told. -/
inductive Reply where
  | done
  | text (value : String)
  | remaining (span : Duration)
  | counted (result : Except CacheError Int)
  /-- The deadline is no instant. -/
  | crashed

namespace Event

/-- The key that a call is about. -/
def key? : Event → Option String
  | get key | set key _ | expire key _ | ttl key | incr key => some key
  | sweep | advance _ => none

/-- The event is no call for another key. -/
def concerns (key : String) (event : Event) : Bool :=
  event.key?.all (· = key)

def isSweep (event : Event) : Bool :=
  event = sweep

end Event

/-- The reading of the clock, and the memory. -/
structure State where
  now : Instant
  memory : Memory

namespace State

def start (now : Instant) : State where
  now := now
  memory := .empty

def step (s : State) : Event → Reply × State
  | .get key => (.text (s.memory.get s.now key), s)
  | .set key value => (.done, { s with memory := s.memory.set key value })
  | .expire key span =>
    match s.memory.expire? s.now key span with
    | some memory => (.done, { s with memory })
    | none => (.crashed, s)
  | .ttl key => (.remaining (s.memory.ttl s.now key), s)
  | .incr key =>
    let (result, memory) := s.memory.incr s.now key
    (.counted result, { s with memory })
  | .sweep => (.done, { s with memory := s.memory.sweep s.now })
  | .advance span => (.done, { s with now := s.now + span.nanos })

end State

/-- A map in which nothing is left whose deadline has come. -/
structure Ideal where
  now : Instant
  entry? : String → Option Entry

namespace Ideal

/-- The deadline of the entry is still to come. -/
def lasts (now : Instant) (e : Entry) : Bool :=
  e.deadline.all (now < ·)

def start (now : Instant) : Ideal where
  now := now
  entry? _ := none

/-- The other entries, and this one if it is not gone at once. -/
def put (s : Ideal) (key : String) (e : Entry) : Ideal where
  now := s.now
  entry? other := if other = key then (some e).filter (lasts s.now) else s.entry? other

/-- What is due vanishes as the clock goes on. -/
def pass (s : Ideal) (span : Duration) : Ideal where
  now := s.now + span.nanos
  entry? key := (s.entry? key).filter (lasts (s.now + span.nanos))

def step (s : Ideal) : Event → Reply × Ideal
  | .get key => (.text ((s.entry? key).elim "" Entry.value), s)
  | .set key value => (.done, s.put key { value, deadline := none })
  | .expire key span =>
    match s.entry? key with
    | some e =>
      match Time.after? s.now span with
      | some deadline => (.done, s.put key { e with deadline := some deadline })
      | none => (.crashed, s)
    | none => (.done, s)
  | .ttl key =>
    (.remaining { nanos := ((s.entry? key).bind Entry.deadline).elim 0 (· - s.now) }, s)
  | .incr key =>
    match s.entry? key with
    | none => (.counted (.ok 1), s.put key { value := "1", deadline := none })
    | some e =>
      match successor? e.value with
      | some n => (.counted (.ok n), s.put key { e with value := toString n })
      | none => (.counted (.error (.notANumber e.value)), s)
  | .sweep => (.done, s)
  | .advance span => (.done, s.pass span)

end Ideal

section

variable {σ τ : Type}

/-- The events with what the caller is told. -/
def replies (step : σ → Event → Reply × σ) (s : σ) : List Event → List (Event × Reply)
  | [] => []
  | event :: rest => (event, (step s event).1) :: replies step (step s event).2 rest

/-- What the events leave behind. -/
def final (step : σ → Event → Reply × σ) (s : σ) (events : List Event) : σ :=
  events.foldl (fun s event => (step s event).2) s

/-- If events that are left out do not show in the rest, the replies to the rest are the same without
them. -/
theorem filter_replies {first : σ → Event → Reply × σ} {second : τ → Event → Reply × τ}
    (kept : Event → Bool) (related : σ → τ → Prop)
    (both : ∀ s t event, related s t → kept event = true →
      (first s event).1 = (second t event).1 ∧ related (first s event).2 (second t event).2)
    (alone : ∀ s t event, related s t → kept event = false → related (first s event).2 t)
    {s : σ} {t : τ} (start : related s t) (events : List Event) :
    (replies first s events).filter (fun told => kept told.1) =
      replies second t (events.filter kept) := by
  induction events generalizing s t with
  | nil => rfl
  | cons event rest inductionHypothesis =>
    cases keep : kept event with
    | true =>
      rcases both s t event start keep with ⟨told, next⟩
      rw [replies, List.filter_cons_of_pos (by exact keep), List.filter_cons_of_pos keep, replies,
        inductionHypothesis next, told]
    | false =>
      have out : ¬ kept event = true := Bool.not_eq_true _ ▸ keep
      rw [replies, List.filter_cons_of_neg (by exact out), List.filter_cons_of_neg out,
        inductionHypothesis (alone s t event start keep)]

end

namespace Ideal

/-- A sweep does not show. -/
theorem replies_without_sweeps (s : Ideal) (events : List Event) :
    (replies step s events).filter (fun told => !told.1.isSweep) =
      replies step s (events.filter fun event => !event.isSweep) := by
  refine filter_replies (fun event => !event.isSweep) Eq ?_ ?_ rfl events
  · rintro s _ event rfl -
    exact ⟨rfl, rfl⟩
  · rintro s _ event rfl swept
    have sweep : event = .sweep := by simpa [Event.isSweep] using swept
    rw [sweep, step]

/-- The same is seen under the key. -/
private def SameUnder (key : String) (s t : Ideal) : Prop :=
  s.now = t.now ∧ s.entry? key = t.entry? key

variable {key : String} {s t : Ideal}

private theorem SameUnder.put (same : SameUnder key s t) (e : Entry) :
    SameUnder key (s.put key e) (t.put key e) := by
  refine ⟨same.1, ?_⟩
  rw [Ideal.put, Ideal.put, same.1]
  exact (if_pos rfl).trans (if_pos rfl).symm

private theorem sameUnder_put_of_ne {other : String} (different : key ≠ other) (e : Entry) :
    SameUnder key (s.put other e) s :=
  ⟨rfl, if_neg different⟩

/-- What is said about a key, and what is left under it, depends on what is under it. -/
private theorem SameUnder.step (same : SameUnder key s t) {event : Event}
    (concerns : event.concerns key = true) :
    (s.step event).1 = (t.step event).1 ∧ SameUnder key (s.step event).2 (t.step event).2 := by
  rcases same with ⟨now, entry⟩
  cases event with
  | get other =>
    obtain rfl : other = key := of_decide_eq_true concerns
    simp only [Ideal.step, entry]
    exact ⟨trivial, now, entry⟩
  | set other value =>
    obtain rfl : other = key := of_decide_eq_true concerns
    exact ⟨rfl, SameUnder.put ⟨now, entry⟩ _⟩
  | expire other span =>
    obtain rfl : other = key := of_decide_eq_true concerns
    simp only [Ideal.step, entry, now]
    cases t.entry? other with
    | none => exact ⟨rfl, now, entry⟩
    | some e =>
      dsimp only
      cases Time.after? t.now span with
      | none => exact ⟨rfl, now, entry⟩
      | some deadline => exact ⟨rfl, SameUnder.put ⟨now, entry⟩ _⟩
  | ttl other =>
    obtain rfl : other = key := of_decide_eq_true concerns
    simp only [Ideal.step, entry, now]
    exact ⟨trivial, now, entry⟩
  | incr other =>
    obtain rfl : other = key := of_decide_eq_true concerns
    simp only [Ideal.step, entry]
    cases t.entry? other with
    | none => exact ⟨rfl, SameUnder.put ⟨now, entry⟩ _⟩
    | some e =>
      dsimp only
      cases successor? e.value with
      | none => exact ⟨rfl, now, entry⟩
      | some n => exact ⟨rfl, SameUnder.put ⟨now, entry⟩ _⟩
  | sweep => exact ⟨rfl, now, entry⟩
  | advance span =>
    simp only [Ideal.step, pass, now, SameUnder, entry, and_self]

/-- A call leaves alone what is under other keys. -/
private theorem sameUnder_step_of_other {event : Event} (other : event.concerns key = false) :
    SameUnder key (s.step event).2 s := by
  have elsewhere : ∀ {asked : String}, decide (asked = key) = false → key ≠ asked :=
    fun different same => of_decide_eq_false different same.symm
  cases event with
  | get asked => exact ⟨rfl, rfl⟩
  | set asked value => exact sameUnder_put_of_ne (elsewhere other) _
  | expire asked span =>
    rw [Ideal.step]
    split
    · split
      · exact sameUnder_put_of_ne (elsewhere other) _
      · exact ⟨rfl, rfl⟩
    · exact ⟨rfl, rfl⟩
  | ttl asked => exact ⟨rfl, rfl⟩
  | incr asked =>
    rw [Ideal.step]
    split
    · exact sameUnder_put_of_ne (elsewhere other) _
    · split
      · exact sameUnder_put_of_ne (elsewhere other) _
      · exact ⟨rfl, rfl⟩
  | sweep => exact absurd other (by simp [Event.concerns, Event.key?])
  | advance span => exact absurd other (by simp [Event.concerns, Event.key?])

/-- What is said about a key does not depend on the calls for other keys. -/
theorem replies_of_key (s : Ideal) (key : String) (events : List Event) :
    (replies step s events).filter (fun told => told.1.concerns key) =
      replies step s (events.filter (·.concerns key)) := by
  refine filter_replies (·.concerns key) (SameUnder key) ?_ ?_ ⟨rfl, rfl⟩ events
  · exact fun _ _ _ same concerns => same.step concerns
  · intro s t event same other
    rcases sameUnder_step_of_other (s := s) other with ⟨now, entry⟩
    exact ⟨now.trans same.1, entry.trans same.2⟩

end Ideal

namespace State

/-- What can be seen of a memory. -/
def view (s : State) : Ideal where
  now := s.now
  entry? := s.memory.live? s.now

variable {s : State} {event : Event} {key : String}

private theorem isExpired_eq (e : Entry) (now : Instant) : (!e.isExpired now) = Ideal.lasts now e := by
  rcases e with ⟨value, _ | deadline⟩
  · rfl
  · exact Bool.eq_iff_iff.mpr (by simp [Entry.isExpired, Ideal.lasts])

theorem view_put (e : Entry) :
    view { s with memory := s.memory.put key e } = s.view.put key e := by
  rw [view, view, Ideal.put]
  congr 1
  funext other
  dsimp only
  split
  · rename_i same
    rw [same, live?, stored?_put_self]
    congr 1
    funext e
    exact isExpired_eq e s.now
  · rename_i different
    exact live?_put_of_ne different e

theorem ttl_eq (m : Memory) (now : Instant) (key : String) :
    m.ttl now key = { nanos := ((m.live? now key).bind Entry.deadline).elim 0 (· - now) } := by
  rw [ttl, live?]
  cases m.stored? key with
  | none => rfl
  | some e =>
    rcases e with ⟨value, _ | deadline⟩
    · rfl
    · by_cases due : deadline ≤ now
      · -- The deadline is over, and the time until then counts as none.
        have expired : ({ value, deadline := some deadline } : Entry).isExpired now = true :=
          decide_eq_true due
        simp only [Option.bind_some, Option.filter_some, expired, Bool.not_true, Bool.false_eq_true,
          if_false, Option.bind_none, Option.elim_none, Nat.sub_eq_zero_of_le due]
      · have fresh : ({ value, deadline := some deadline } : Entry).isExpired now = false :=
          decide_eq_false due
        simp only [Option.bind_some, Option.filter_some, fresh, Bool.not_false, if_true,
          Option.elim_some]

/-- Each event does to what can be seen what it does to an ideal map. -/
theorem step_view (s : State) (event : Event) :
    s.view.step event = ((s.step event).1, (s.step event).2.view) := by
  have seen : ∀ key, s.view.entry? key = s.memory.live? s.now key := fun _ => rfl
  cases event with
  | get key =>
    simp only [Ideal.step, step, get, seen]
    cases s.memory.live? s.now key with
    | none => rfl
    | some e => rfl
  | set key value =>
    rw [Ideal.step, ← view_put]
    rfl
  | expire key span =>
    have clock : s.view.now = s.now := rfl
    simp only [Ideal.step, step, expire?, seen, clock]
    cases s.memory.live? s.now key with
    | none => rfl
    | some e =>
      dsimp only
      cases Time.after? s.now span with
      | none => rfl
      | some deadline =>
        simp only [Option.map_some]
        rw [view_put]
  | ttl key =>
    rw [Ideal.step, step, ttl_eq]
    rfl
  | incr key =>
    simp only [Ideal.step, step, incr, seen]
    cases s.memory.live? s.now key with
    | none =>
      dsimp only
      rw [view_put]
    | some e =>
      dsimp only
      cases successor? e.value with
      | none => rfl
      | some n =>
        dsimp only
        rw [view_put]
  | sweep =>
    rw [Ideal.step, step, view, view]
    congr 2
    funext key
    exact live?_sweep.symm
  | advance span =>
    rw [Ideal.step, step, view, view, Ideal.pass]
    congr 2
    funext key
    rw [live?_later (Nat.le_add_right s.now span.nanos)]
    congr 1
    funext e
    exact (isExpired_eq e _).symm

/-- Only a deadline that the clock could never show makes a call crash, and only if there is an entry that
would have it.  Then the memory stays as it was. -/
theorem step_crashed_iff :
    (s.step event).1 = .crashed ↔ ∃ key span, event = .expire key span ∧
      (s.view.entry? key).isSome = true ∧ Time.after? s.now span = none := by
  constructor
  · intro crashed
    cases event with
    | expire key span =>
      refine ⟨key, span, rfl, expire?_eq_none_iff.mp ?_⟩
      rw [step] at crashed
      split at crashed
      · exact absurd crashed Reply.noConfusion
      · assumption
    | _ => exact absurd crashed Reply.noConfusion
  · rintro ⟨key, span, rfl, listed, unshown⟩
    rw [step, expire?_eq_none_iff.mpr ⟨listed, unshown⟩]

theorem step_of_crashed (crashed : (s.step event).1 = .crashed) : (s.step event).2 = s := by
  rcases step_crashed_iff.mp crashed with ⟨key, span, rfl, unshown⟩
  rw [step, expire?_eq_none_iff.mpr unshown]

theorem replies_view (s : State) (events : List Event) :
    replies step s events = replies Ideal.step s.view events := by
  induction events generalizing s with
  | nil => rfl
  | cons event rest inductionHypothesis =>
    rw [replies, replies, step_view, inductionHypothesis]

theorem view_final (s : State) (events : List Event) :
    (final step s events).view = final Ideal.step s.view events := by
  induction events generalizing s with
  | nil => rfl
  | cons event rest inductionHypothesis =>
    rw [final, final, List.foldl_cons, List.foldl_cons, step_view]
    exact inductionHypothesis (s.step event).2

end State

theorem isSome_stored?_iff {m : Memory} {key : String} :
    (m.stored? key).isSome = true ↔ key ∈ m.entries.map (·.1) := by
  rw [stored?, Option.isSome_map, List.find?_isSome, List.mem_map]
  simp only [decide_eq_true_eq]

/-- A sweep keeps just the keys under which something can be seen. -/
theorem mem_keys_sweep_iff {m : Memory} {now : Instant} {key : String} :
    key ∈ (m.sweep now).entries.map (·.1) ↔ (m.live? now key).isSome = true := by
  have kept : ((m.sweep now).stored? key).filter (fun e => !e.isExpired now) =
      (m.sweep now).stored? key := by
    cases stored : (m.sweep now).stored? key with
    | none => rfl
    | some e =>
      rcases Option.map_eq_some_iff.mp stored with ⟨entry, found, rfl⟩
      exact if_pos (List.mem_filter.mp (List.mem_of_find?_eq_some found)).2
  rw [← isSome_stored?_iff, ← live?_sweep, live?, kept]

/-- Whatever is asked of a memory, and however often it is swept in between, the replies are those of
a map from which each entry vanishes at the instant of its deadline.  Without the sweeps they are the
same, and those about one key are the same without the calls for other keys.  A sweep leaves as many
entries as there are in the map.

A call crashes if it asks for a deadline that the clock could never show, for an entry that is there, and
in no other way, and leaves everything as it was. -/
theorem replies_as_ideal (start : Instant) (events : List Event) :
    let told := replies State.step (.start start)
    let left := final State.step (.start start) events
    let ideal := final Ideal.step (.start start) events
    told events = replies Ideal.step (.start start) events ∧
    (told events).filter (fun pair => !pair.1.isSweep) =
      told (events.filter fun event => !event.isSweep) ∧
    (∀ key, (told events).filter (fun pair => pair.1.concerns key) =
      told (events.filter (·.concerns key))) ∧
    (∃ keys : List String, keys.Nodup ∧ (∀ key, key ∈ keys ↔ (ideal.entry? key).isSome = true) ∧
      (left.step .sweep).2.memory.size = keys.length) ∧
    ∀ event, ((left.step event).1 = .crashed ↔ ∃ key span, event = .expire key span ∧
        (ideal.entry? key).isSome = true ∧ Time.after? ideal.now span = none) ∧
      ((left.step event).1 = .crashed → (left.step event).2 = left) := by
  intro told left ideal
  have same : ∀ events, told events = replies Ideal.step (.start start) events :=
    State.replies_view (.start start)
  have seen : left.view = ideal := State.view_final (.start start) events
  refine ⟨same events, ?_, fun key => ?_, ?_, fun event => ⟨?_, State.step_of_crashed⟩⟩
  · rw [same, same, Ideal.replies_without_sweeps]
  · rw [same, same, Ideal.replies_of_key]
  · refine ⟨(left.memory.sweep left.now).entries.map (·.1), (left.memory.sweep left.now).distinct, ?_,
      (List.length_map _).symm⟩
    intro key
    rw [mem_keys_sweep_iff, ← seen]
    rfl
  · rw [← seen]
    exact State.step_crashed_iff

example :
    let endless : Duration := { nanos := Time.instantLimit }
    (replies State.step (.start 0)
      [.set "k" "v", .expire "k" endless, .get "k", .expire "none" endless]).map (·.2) =
        [.done, .crashed, .text "v", .done] := by
  rfl

end Memory

end AuthGateway
