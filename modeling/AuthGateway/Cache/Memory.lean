import AuthGateway.Error
import AuthGateway.Text.Integer
import AuthGateway.Time.Instant

namespace AuthGateway

/-!
A cache in memory: texts under keys, some of which expire.

An entry is gone at the very instant of its deadline, whether or not a sweep has removed it by
then.  A sweep only frees the place of entries that are gone.
-/

open Time (Duration Instant)

/-- A stored text, and the instant at which it expires, if it does. -/
structure Entry where
  value : String
  deadline : Option Instant
deriving DecidableEq, Repr

def Entry.isExpired (e : Entry) (now : Instant) : Bool :=
  match e.deadline with
  | some deadline => deadline ≤ now
  | none => false

/-- The entries under their keys, with the latest first. -/
structure Memory where
  entries : List (String × Entry)
  distinct : (entries.map (·.1)).Nodup

namespace Memory

def empty : Memory where
  entries := []
  distinct := List.nodup_nil

/-- The entry under a key, gone or not. -/
def stored? (m : Memory) (key : String) : Option Entry :=
  (m.entries.find? (·.1 = key)).map (·.2)

/-- The entry under a key, unless it is gone. -/
def live? (m : Memory) (now : Instant) (key : String) : Option Entry :=
  (m.stored? key).filter fun e => !e.isExpired now

/-- The entries of the other keys, and this one. -/
def put (m : Memory) (key : String) (e : Entry) : Memory where
  entries := (key, e) :: m.entries.filter (·.1 ≠ key)
  distinct := by
    refine List.nodup_cons.2 ⟨by simp, ?_⟩
    exact List.Nodup.sublist (List.Sublist.map _ List.filter_sublist) m.distinct

/-- The text under a key; an empty one if there is none. -/
def get (m : Memory) (now : Instant) (key : String) : String :=
  match m.live? now key with
  | some e => e.value
  | none => ""

/-- The text under the key, without expiry. -/
def set (m : Memory) (key value : String) : Memory :=
  m.put key { value, deadline := none }

/-- A new deadline for the entry under a key, if there is one, on a clock without an end. -/
def expire (m : Memory) (now : Instant) (key : String) (ttl : Duration) : Memory :=
  match m.live? now key with
  | some e => m.put key { e with deadline := some (now + ttl.nanos) }
  | none => m

/-- A new deadline for the entry under a key, if there is one.  The call crashes where the clock could
never show the deadline, before anything is written. -/
def expire? (m : Memory) (now : Instant) (key : String) (ttl : Duration) : Option Memory :=
  match m.live? now key with
  | some e => (Time.after? now ttl).map fun deadline => m.put key { e with deadline := some deadline }
  | none => some m

/-- The time until the deadline of a key; zero without one. -/
def ttl (m : Memory) (now : Instant) (key : String) : Duration :=
  match (m.stored? key).bind Entry.deadline with
  | some deadline => { nanos := deadline - now }
  | none => { nanos := 0 }

/-- The number after the one that a text spells, both of 64 bits. -/
def successor? (value : String) : Option Int :=
  match Text.int64? value with
  | some n => if n < Text.int64Max then some (n + 1) else none
  | none => none

/-- Counts up the number under a key, which starts at one; the deadline stays. -/
def incr (m : Memory) (now : Instant) (key : String) : Except CacheError Int × Memory :=
  match m.live? now key with
  | none => (.ok 1, m.put key { value := "1", deadline := none })
  | some e =>
    match successor? e.value with
    | some n => (.ok n, m.put key { e with value := toString n })
    | none => (.error (.notANumber e.value), m)

/-- The entries that are not gone. -/
def sweep (m : Memory) (now : Instant) : Memory where
  entries := m.entries.filter fun entry => !entry.2.isExpired now
  distinct := List.Nodup.sublist (List.Sublist.map _ List.filter_sublist) m.distinct

/-- The number of stored entries, gone or not. -/
def size (m : Memory) : Nat :=
  m.entries.length

end Memory

end AuthGateway
